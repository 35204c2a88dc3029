import GraphGateway.Proofs.Assembly.Step
import GraphGateway.Proofs.Graph.Growth

/-!
# What every assembly keeps

The two spaces of identities and the graph of an assembly fit together at all times: a bound node
identity leads to a node of the graph and every node of the graph is led to, every edge has a bound
identity, and the elements are clean. Each step preserves this whether it succeeds or fails, also
where it fails half-way, so it holds after any sequence of steps whatever the ids of the supply.
-/

namespace GraphGateway

/-- Neither of the two keys that the graph model owns is among the properties. -/
def Properties.Unreserved (properties : Properties) : Prop :=
  "id" ∉ properties.keys ∧ "labels" ∉ properties.keys

/-- Nothing reserved is left once the reserved keys are dropped. -/
theorem Properties.unreserved_withoutReserved (properties : Properties) :
    properties.withoutReserved.Unreserved := by
  constructor <;>
    simp [withoutReserved, SortedMap.filterKeys, SortedMap.keys, reservedKeys]

/-- The label of a relationship is never blank. -/
theorem StoreRelationship.isBlankText_label {relationship : StoreRelationship} {label : String}
    (h : relationship.label? = some label) : Text.isBlankText label = false := by
  obtain ⟨-, hvisible⟩ := Option.filter_eq_some_iff.mp h
  simpa using hvisible

namespace Assembly

/-- The two spaces of identities and the graph agree, and the elements are clean. -/
structure Sound (assembly : Assembly) : Prop where
  graph : assembly.graph.Sound
  mem_of_bound : ∀ identity id,
    assembly.nodes.resolve identity = some id → id ∈ assembly.graph.nodeIds
  bound_of_mem : ∀ id ∈ assembly.graph.nodeIds,
    ∃ identity, assembly.nodes.resolve identity = some id
  edge_bound : ∀ id ∈ assembly.graph.edgeIds,
    ∃ identity, assembly.relationships.resolve identity = some id
  node_unreserved : ∀ node ∈ assembly.graph.nodes, node.properties.Unreserved
  edge_unreserved : ∀ edge ∈ assembly.graph.edges, edge.properties.Unreserved
  label_visible : ∀ edge ∈ assembly.graph.edges,
    edge.labels.length ≤ 1 ∧ ∀ label ∈ edge.labels, Text.isBlankText label = false

/-- An assembly starts sound. -/
theorem Sound.start (supply : IdSupply) : ({ supply } : Assembly).Sound where
  graph := Graph.Sound.empty
  mem_of_bound := by simp [Identities.resolve]
  bound_of_mem := by simp [Graph.nodeIds]
  edge_bound := by simp [Graph.edgeIds]
  node_unreserved := by simp
  edge_unreserved := by simp
  label_visible := by simp

/-- Placing a node keeps an assembly sound. A refused node leaves no trace. -/
theorem Sound.placeNode {assembly : Assembly} (hsound : assembly.Sound) (node : StoreNode) :
    (assembly.placeNode node).2.Sound := by
  rcases assembly.placeNode_cases node with ⟨error, -, heq⟩ | ⟨id, nodes, supply, hassign, heq⟩
  · rw [heq]
    exact hsound
  · rw [heq]
    refine ⟨hsound.graph.addNode _, ?_, ?_, ?_, ?_, ?_, ?_⟩
    · intro identity known hknown
      dsimp only at hknown
      rw [(Identities.assign_eq_ok hassign).2.2] at hknown
      split at hknown
      · exact Graph.mem_nodeIds_addNode.mpr (Or.inl (Option.some.inj hknown).symm)
      · exact Graph.mem_nodeIds_addNode.mpr (Or.inr (hsound.mem_of_bound identity known hknown))
    · intro known hknown
      rcases Graph.mem_nodeIds_addNode.mp hknown with rfl | hold
      · exact ⟨node.identity, Identities.resolve_of_assign hassign⟩
      · obtain ⟨identity, hbound⟩ := hsound.bound_of_mem known hold
        exact ⟨identity, Identities.resolve_mono_of_assign hassign hbound⟩
    · simpa using hsound.edge_bound
    · intro other hother
      rcases Graph.mem_nodes_of_addNode hother with hold | rfl
      · exact hsound.node_unreserved other hold
      · exact Properties.unreserved_withoutReserved _
    · simpa using hsound.edge_unreserved
    · simpa using hsound.label_visible

/-- Taking a stable id for a relationship keeps an assembly sound, also when the relationship is
refused afterwards. -/
theorem Sound.edgeId {assembly after : Assembly} {relationship : StoreRelationship} {id : String}
    (hsound : assembly.Sound) (h : assembly.edgeId relationship = .ok (id, after)) :
    after.Sound := by
  obtain ⟨relationships, supply, hassign, rfl⟩ := edgeId_eq_ok_iff.mp h
  refine { hsound with edge_bound := ?_ }
  intro known hknown
  obtain ⟨identity, hbound⟩ := hsound.edge_bound known hknown
  exact ⟨identity, Identities.resolve_mono_of_assign hassign hbound⟩

/-- Adding the edge of a relationship that has its stable id keeps an assembly sound. -/
theorem Sound.addEdge {assembly : Assembly} {relationship : StoreRelationship} {id : String}
    (hsound : assembly.Sound)
    (hbound : assembly.relationships.resolve relationship.identity = some id)
    (source target : String) :
    (assembly.addEdge (relationship.toEdge id source target)).2.Sound := by
  unfold Assembly.addEdge
  cases hadd : assembly.graph.addEdge (relationship.toEdge id source target) with
  | error error => exact hsound
  | ok grown =>
    obtain ⟨graph, added⟩ := grown
    have hnodes := Graph.nodes_of_addEdge hadd
    have hnodeIds := Graph.nodeIds_of_addEdge hadd
    refine ⟨hsound.graph.addEdge hadd, ?_, ?_, ?_, ?_, ?_, ?_⟩
    · simpa only [hnodeIds] using hsound.mem_of_bound
    · simpa only [hnodeIds] using hsound.bound_of_mem
    · intro known hknown
      rcases (Graph.mem_edgeIds_of_addEdge hadd).mp hknown with rfl | hold
      · exact ⟨relationship.identity, hbound⟩
      · exact hsound.edge_bound known hold
    · simpa only [hnodes] using hsound.node_unreserved
    · intro edge hedge
      rcases Graph.mem_edges_of_addEdge hadd hedge with hold | rfl
      · exact hsound.edge_unreserved edge hold
      · exact Properties.unreserved_withoutReserved _
    · intro edge hedge
      rcases Graph.mem_edges_of_addEdge hadd hedge with hold | rfl
      · exact hsound.label_visible edge hold
      · refine ⟨Option.length_toList_le, fun label hlabel => ?_⟩
        exact StoreRelationship.isBlankText_label (Option.mem_toList.mp hlabel)

/-- Placing a relationship between its own ends keeps an assembly sound. Where an end is missing,
the id that the relationship took stays bound. -/
theorem Sound.placeRelationship {assembly : Assembly} (hsound : assembly.Sound)
    (relationship : StoreRelationship) : (assembly.placeRelationship relationship).2.Sound := by
  unfold Assembly.placeRelationship
  cases hid : assembly.edgeId relationship with
  | error error => exact hsound
  | ok given =>
    obtain ⟨id, after⟩ := given
    have hafter : after.Sound := hsound.edgeId hid
    dsimp only
    cases after.nodes.endpoint id relationship.start with
    | error error => exact hafter
    | ok source =>
      dsimp only
      cases after.nodes.endpoint id relationship.finish with
      | error error => exact hafter
      | ok target => exact hafter.addEdge (resolve_of_edgeId hid) source target

/-- Placing a relationship between two given ids keeps an assembly sound, whatever the ids. -/
theorem Sound.placeBetween {assembly : Assembly} (hsound : assembly.Sound)
    (relationship : StoreRelationship) (source target : String) :
    (assembly.placeBetween relationship source target).2.Sound := by
  unfold Assembly.placeBetween
  cases hid : assembly.edgeId relationship with
  | error error => exact hsound
  | ok given =>
    obtain ⟨id, after⟩ := given
    exact (hsound.edgeId hid).addEdge (resolve_of_edgeId hid) source target

/-- Placing a hop keeps an assembly sound, also where it stops after one or two nodes. -/
theorem Sound.placeHop {assembly : Assembly} (hsound : assembly.Sound) (hop : Hop) :
    (assembly.placeHop hop).2.Sound := by
  have hstart := hsound.placeNode hop.start
  unfold Assembly.placeHop
  cases hfirst : assembly.placeNode hop.start with
  | mk answer afterStart =>
    rw [hfirst] at hstart
    cases answer with
    | error error => exact hstart
    | ok id =>
      have hfinish := hstart.placeNode hop.finish
      dsimp only
      cases hsecond : afterStart.placeNode hop.finish with
      | mk answer afterFinish =>
        rw [hsecond] at hfinish
        cases answer with
        | error error => exact hfinish
        | ok id => exact hfinish.placeRelationship hop.relationship

/-- Placing a piece keeps an assembly sound. -/
theorem Sound.place {assembly : Assembly} (hsound : assembly.Sound) (piece : Piece) :
    (assembly.place piece).2.Sound := by
  cases piece with
  | node node => exact hsound.placeNode node
  | relationship relationship => exact hsound.placeRelationship relationship
  | hop hop => exact hsound.placeHop hop

/-- Every step keeps an assembly sound. -/
theorem Sound.after {assembly : Assembly} (hsound : assembly.Sound) (step : Step) :
    (assembly.after step).Sound := by
  cases step with
  | push piece => exact hsound.place piece
  | node node => exact hsound.placeNode node
  | relationship relationship => exact hsound.placeRelationship relationship
  | between relationship source target => exact hsound.placeBetween relationship source target

/-- Every sequence of steps keeps an assembly sound. -/
theorem Sound.run {assembly : Assembly} (hsound : assembly.Sound) (steps : List Step) :
    (assembly.run steps).Sound := by
  induction steps generalizing assembly with
  | nil => exact hsound
  | cons step rest ih => exact ih (hsound.after step)

/-- A placed node is in the graph under the id it is answered with. -/
theorem mem_nodeIds_of_placeNode {assembly : Assembly} {node : StoreNode} {id : String}
    (h : (assembly.placeNode node).1 = .ok id) :
    id ∈ (assembly.placeNode node).2.graph.nodeIds := by
  rcases assembly.placeNode_cases node with ⟨error, -, heq⟩ | ⟨placed, nodes, supply, -, heq⟩
  · rw [heq] at h
    cases h
  · rw [heq] at h ⊢
    cases h
    exact Graph.mem_nodeIds_addNode.mpr (Or.inl rfl)

/-- An edge is in the graph under its id once it has been accepted. -/
theorem mem_edgeIds_of_addEdge {assembly : Assembly} {edge : Edge} {id : String}
    (h : (assembly.addEdge edge).1 = .ok id) : id ∈ (assembly.addEdge edge).2.graph.edgeIds := by
  unfold addEdge at h ⊢
  cases hadd : assembly.graph.addEdge edge with
  | error error => simp [hadd] at h
  | ok grown =>
    obtain ⟨graph, added⟩ := grown
    rw [hadd] at h
    cases h
    exact (Graph.mem_edgeIds_of_addEdge hadd).mpr (Or.inl rfl)

/-- A relationship placed between two given ids is in the graph under the id it is answered with. -/
theorem mem_edgeIds_of_placeBetween {assembly : Assembly} {relationship : StoreRelationship}
    {source target id : String}
    (h : (assembly.placeBetween relationship source target).1 = .ok id) :
    id ∈ (assembly.placeBetween relationship source target).2.graph.edgeIds := by
  unfold placeBetween at h ⊢
  cases hid : assembly.edgeId relationship with
  | error error => simp [hid] at h
  | ok given =>
    rw [hid] at h
    exact mem_edgeIds_of_addEdge h

/-- A relationship placed between its own ends is in the graph under the id it is answered with. -/
theorem mem_edgeIds_of_placeRelationship {assembly : Assembly} {relationship : StoreRelationship}
    {id : String} (h : (assembly.placeRelationship relationship).1 = .ok id) :
    id ∈ (assembly.placeRelationship relationship).2.graph.edgeIds := by
  obtain ⟨source, target, hsource, htarget⟩ := resolved_of_placeRelationship h
  rw [placeRelationship_of_resolved hsource htarget] at h ⊢
  exact mem_edgeIds_of_placeBetween h

/-- In a sound assembly the graph accepts every edge between ids that nodes are bound to. -/
theorem Sound.addEdge_ok {assembly : Assembly} (hsound : assembly.Sound) {start finish : StoreId}
    {edge : Edge} (hsource : assembly.nodes.resolve start = some edge.source)
    (htarget : assembly.nodes.resolve finish = some edge.target) :
    ∃ graph added, assembly.graph.addEdge edge = .ok (graph, added) :=
  ⟨_, _, Graph.addEdge_eq_ok_iff.mpr ⟨hsound.mem_of_bound _ _ hsource,
    hsound.mem_of_bound _ _ htarget, rfl, rfl⟩⟩

/-- In a sound assembly a relationship between bound ends is placed unless its own identity is in
conflict. -/
theorem Sound.placeRelationship_error {assembly : Assembly} (hsound : assembly.Sound)
    {relationship : StoreRelationship} {source target : String} {error : Error}
    (hsource : assembly.nodes.resolve relationship.start = some source)
    (htarget : assembly.nodes.resolve relationship.finish = some target)
    (h : (assembly.placeRelationship relationship).1 = .error error) :
    ∃ existing id, error = .identityConflict relationship.identity existing id := by
  rw [placeRelationship_of_resolved hsource htarget] at h
  unfold Assembly.placeBetween at h
  cases hid : assembly.edgeId relationship with
  | error error' =>
    simp only [hid, Except.error.injEq] at h
    subst h
    obtain ⟨existing, id, -, -, -, rfl⟩ :=
      Identities.assign_eq_error_iff.mp (edgeId_eq_error_iff.mp hid)
    exact ⟨existing, id, rfl⟩
  | ok given =>
    obtain ⟨id, after⟩ := given
    have hafter : after.Sound := hsound.edgeId hid
    obtain ⟨relationships, supply, -, rfl⟩ := edgeId_eq_ok_iff.mp hid
    obtain ⟨graph, added, hadd⟩ : ∃ graph added,
        assembly.graph.addEdge (relationship.toEdge id source target) = .ok (graph, added) :=
      hafter.addEdge_ok hsource htarget
    simp only [hid, Assembly.addEdge, hadd, reduceCtorEq] at h

/-- After any sequence of steps, failed ones included, an assembly is sound. So between bound ends
no edge is refused for a missing end, and every id that a step answers with is in the graph. -/
theorem sound_run_from_start (supply : IdSupply) (steps : List Step) :
    let assembly := ({ supply } : Assembly).run steps
    assembly.Sound ∧
      (∀ relationship source target,
        assembly.nodes.resolve relationship.start = some source →
        assembly.nodes.resolve relationship.finish = some target →
        (∀ id, ∃ graph added,
          assembly.graph.addEdge (relationship.toEdge id source target) = .ok (graph, added)) ∧
        ∀ id endpoint,
          (assembly.placeRelationship relationship).1 ≠ .error (.danglingEndpoint id endpoint)) ∧
      (∀ node id, (assembly.placeNode node).1 = .ok id →
        id ∈ (assembly.placeNode node).2.graph.nodeIds) ∧
      (∀ relationship id, (assembly.placeRelationship relationship).1 = .ok id →
        id ∈ (assembly.placeRelationship relationship).2.graph.edgeIds) ∧
      ∀ relationship source target id,
        (assembly.placeBetween relationship source target).1 = .ok id →
        id ∈ (assembly.placeBetween relationship source target).2.graph.edgeIds := by
  intro assembly
  have hsound : assembly.Sound := (Sound.start supply).run steps
  refine ⟨hsound, ?_, fun _ _ => mem_nodeIds_of_placeNode,
    fun _ _ => mem_edgeIds_of_placeRelationship, fun _ _ _ _ => mem_edgeIds_of_placeBetween⟩
  intro relationship source target hsource htarget
  refine ⟨fun id => hsound.addEdge_ok hsource htarget, ?_⟩
  intro id endpoint hdangling
  obtain ⟨existing, attempted, hconflict⟩ :=
    hsound.placeRelationship_error hsource htarget hdangling
  cases hconflict

end Assembly

end GraphGateway
