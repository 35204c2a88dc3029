import GraphGateway.Proofs.Assembly.Step
import GraphGateway.Proofs.Graph.Growth

/-!
# An assembly only grows

Whatever is done to an assembly, and also where that fails half-way: no identity changes its id, and
no element of the graph is changed or lost, since further ones are only put behind those that are
there. A failed step may leave new ids and new nodes behind, but never an edge.
-/

namespace GraphGateway

/-!
## What a step on a relationship can do
-/

namespace Assembly

/-- A relationship gets no id and leaves no trace, or it takes one, by which neither the nodes nor
the graph change. -/
theorem edgeId_cases (assembly : Assembly) (relationship : StoreRelationship) :
    (∃ existing id, assembly.edgeId relationship =
      .error (.identityConflict relationship.identity existing id)) ∨
    ∃ id relationships supply,
      assembly.relationships.assign relationship.identity relationship.carriedId?
        assembly.supply = .ok (id, relationships, supply) ∧
      assembly.edgeId relationship = .ok (id, { assembly with relationships, supply }) := by
  cases hid : assembly.edgeId relationship with
  | error error =>
    obtain ⟨existing, id, -, -, -, rfl⟩ :=
      Identities.assign_eq_error_iff.mp (edgeId_eq_error_iff.mp hid)
    exact .inl ⟨existing, id, rfl⟩
  | ok taken =>
    obtain ⟨relationships, supply, hassign, htaken⟩ := edgeId_eq_ok_iff.mp hid
    exact .inr ⟨taken.1, relationships, supply, hassign, by rw [← htaken]⟩

/-- An edge is refused for an end that is missing, or the graph takes it. -/
theorem addEdge_cases (assembly : Assembly) (edge : Edge) :
    (∃ endpoint, assembly.addEdge edge = (.error (.danglingEndpoint edge.id endpoint), assembly)) ∨
    ∃ graph added, assembly.graph.addEdge edge = .ok (graph, added) ∧
      assembly.addEdge edge = (.ok edge.id, { assembly with graph }) := by
  unfold addEdge
  cases hadd : assembly.graph.addEdge edge with
  | error error =>
    obtain ⟨-, rfl⟩ | ⟨-, -, rfl⟩ := Graph.addEdge_eq_error_iff.mp hadd
    · exact .inl ⟨_, rfl⟩
    · exact .inl ⟨_, rfl⟩
  | ok grown => exact .inr ⟨grown.1, grown.2, rfl, rfl⟩

/-- Between given ends, a relationship gets no id and leaves no trace, or it takes one, which it
keeps also where no edge is added. -/
theorem placeBetween_cases (assembly : Assembly) (relationship : StoreRelationship)
    (source target : String) :
    (∃ existing id, assembly.placeBetween relationship source target =
      (.error (.identityConflict relationship.identity existing id), assembly)) ∨
    ∃ id relationships supply,
      assembly.relationships.assign relationship.identity relationship.carriedId?
        assembly.supply = .ok (id, relationships, supply) ∧
      ((∃ endpoint, assembly.placeBetween relationship source target =
          (.error (.danglingEndpoint id endpoint), { assembly with relationships, supply })) ∨
        ∃ graph added,
          assembly.graph.addEdge (relationship.toEdge id source target) = .ok (graph, added) ∧
          assembly.placeBetween relationship source target =
            (.ok id, { assembly with relationships, supply, graph })) := by
  unfold placeBetween
  rcases assembly.edgeId_cases relationship with ⟨existing, id, hid⟩ |
    ⟨id, relationships, supply, hassign, hid⟩
  · exact .inl ⟨existing, id, by rw [hid]⟩
  · rw [hid]
    exact .inr ⟨id, relationships, supply, hassign, addEdge_cases _ _⟩

/-- A relationship gets no id and leaves no trace, or it takes one, which it keeps also where no
edge is added. -/
theorem placeRelationship_cases (assembly : Assembly) (relationship : StoreRelationship) :
    (∃ existing id, assembly.placeRelationship relationship =
      (.error (.identityConflict relationship.identity existing id), assembly)) ∨
    ∃ id relationships supply,
      assembly.relationships.assign relationship.identity relationship.carriedId?
        assembly.supply = .ok (id, relationships, supply) ∧
      ((∃ endpoint, assembly.placeRelationship relationship =
          (.error (.danglingEndpoint id endpoint), { assembly with relationships, supply })) ∨
        ∃ source target graph added,
          assembly.nodes.resolve relationship.start = some source ∧
          assembly.nodes.resolve relationship.finish = some target ∧
          assembly.graph.addEdge (relationship.toEdge id source target) = .ok (graph, added) ∧
          assembly.placeRelationship relationship =
            (.ok id, { assembly with relationships, supply, graph })) := by
  rcases assembly.edgeId_cases relationship with ⟨existing, id, hid⟩ |
    ⟨id, relationships, supply, hassign, hid⟩
  · exact .inl ⟨existing, id, by simp only [placeRelationship, hid]⟩
  · refine .inr ⟨id, relationships, supply, hassign, ?_⟩
    cases hstart : assembly.nodes.endpoint id relationship.start with
    | error error =>
      obtain ⟨-, rfl⟩ := Identities.endpoint_eq_error_iff.mp hstart
      exact .inl ⟨relationship.start.key, by simp only [placeRelationship, hid, hstart]⟩
    | ok source =>
      cases hfinish : assembly.nodes.endpoint id relationship.finish with
      | error error =>
        obtain ⟨-, rfl⟩ := Identities.endpoint_eq_error_iff.mp hfinish
        exact .inl ⟨relationship.finish.key, by
          simp only [placeRelationship, hid, hstart, hfinish]⟩
      | ok target =>
        simp only [placeRelationship, hid, hstart, hfinish]
        exact (addEdge_cases _ _).imp_right fun ⟨graph, added, hadd, hplaced⟩ =>
          ⟨source, target, graph, added, Identities.endpoint_eq_ok_iff.mp hstart,
            Identities.endpoint_eq_ok_iff.mp hfinish, hadd, hplaced⟩

/-- A hop stops at a node that is refused, or goes on to its relationship. -/
theorem placeHop_cases (assembly : Assembly) (hop : Hop) :
    (∃ error after, assembly.placeNode hop.start = (.error error, after) ∧
      assembly.placeHop hop = (.error error, after)) ∨
    ∃ source started, assembly.placeNode hop.start = (.ok source, started) ∧
      ((∃ error after, started.placeNode hop.finish = (.error error, after) ∧
          assembly.placeHop hop = (.error error, after)) ∨
        ∃ target joined, started.placeNode hop.finish = (.ok target, joined) ∧
          assembly.placeHop hop = joined.placeRelationship hop.relationship) := by
  unfold placeHop
  rcases assembly.placeNode hop.start with ⟨error | source, started⟩
  · exact .inl ⟨error, started, rfl, rfl⟩
  · refine .inr ⟨source, started, rfl, ?_⟩
    dsimp only
    rcases started.placeNode hop.finish with ⟨error | target, joined⟩
    · exact .inl ⟨error, joined, rfl, rfl⟩
    · exact .inr ⟨target, joined, rfl, rfl⟩

end Assembly

/-!
## Growth
-/

/-- Identities that others have grown into: the policy is the same, and so is the id of every
identity that had one. -/
structure Identities.GrowsTo (identities after : Identities) : Prop where
  policy : after.policy = identities.policy
  resolve : ∀ {identity id}, identities.resolve identity = some id →
    after.resolve identity = some id

/-- Assigning an id lets identities grow. -/
theorem Identities.GrowsTo.of_assign {identities after : Identities} {identity : StoreId}
    {id? : Option String} {supply left : IdSupply} {id : String}
    (h : identities.assign identity id? supply = .ok (id, after, left)) :
    identities.GrowsTo after where
  policy := (assign_eq_ok h).2.1
  resolve := resolve_mono_of_assign h

/-- A graph that another has grown into: all its elements are there, in front of any others. -/
structure Graph.GrowsTo (graph after : Graph) : Prop where
  nodes : graph.nodes <+: after.nodes
  edges : graph.edges <+: after.edges

/-- A graph that grows loses no id of a node. -/
theorem Graph.GrowsTo.mem_nodeIds {graph after : Graph} (h : graph.GrowsTo after) {id : String}
    (hmem : id ∈ graph.nodeIds) : id ∈ after.nodeIds :=
  (h.nodes.map _).subset hmem

/-- A graph that grows loses no id of an edge. -/
theorem Graph.GrowsTo.mem_edgeIds {graph after : Graph} (h : graph.GrowsTo after) {id : String}
    (hmem : id ∈ graph.edgeIds) : id ∈ after.edgeIds :=
  (h.edges.map _).subset hmem

/-- Adding a node lets a graph grow. -/
theorem Graph.GrowsTo.addNode (graph : Graph) (node : Node) :
    graph.GrowsTo (graph.addNode node).1 where
  nodes := by
    rw [nodes_addNode]
    split
    · exact List.prefix_refl _
    · exact List.prefix_append _ _
  edges := (graph.edges_addNode node).symm ▸ List.prefix_refl _

/-- An accepted edge lets a graph grow. -/
theorem Graph.GrowsTo.of_addEdge {graph after : Graph} {edge : Edge} {added : Bool}
    (h : graph.addEdge edge = .ok (after, added)) : graph.GrowsTo after where
  nodes := (nodes_of_addEdge h).symm ▸ List.prefix_refl _
  edges := by
    obtain ⟨-, -, rfl, -⟩ := addEdge_eq_ok_iff.mp h
    split
    · exact List.prefix_refl _
    · exact List.prefix_append _ _

namespace Assembly

/-- An assembly that another has grown into, in both spaces of identities and in its graph. -/
structure GrowsTo (assembly after : Assembly) : Prop where
  nodes : assembly.nodes.GrowsTo after.nodes
  relationships : assembly.relationships.GrowsTo after.relationships
  graph : assembly.graph.GrowsTo after.graph

namespace GrowsTo

variable {assembly : Assembly}

/-- An assembly to which nothing is done. -/
protected theorem refl (assembly : Assembly) : assembly.GrowsTo assembly where
  nodes := ⟨rfl, id⟩
  relationships := ⟨rfl, id⟩
  graph := ⟨List.prefix_refl _, List.prefix_refl _⟩

/-- Growth goes on. -/
protected theorem trans {middle after : Assembly} (h : assembly.GrowsTo middle)
    (hnext : middle.GrowsTo after) :
    assembly.GrowsTo after where
  nodes := ⟨hnext.nodes.policy.trans h.nodes.policy,
    fun hbound => hnext.nodes.resolve (h.nodes.resolve hbound)⟩
  relationships := ⟨hnext.relationships.policy.trans h.relationships.policy,
    fun hbound => hnext.relationships.resolve (h.relationships.resolve hbound)⟩
  graph := ⟨h.graph.nodes.trans hnext.graph.nodes, h.graph.edges.trans hnext.graph.edges⟩

/-- An id taken for a relationship and an edge accepted for it let an assembly grow. -/
private theorem of_assign_addEdge {relationship : StoreRelationship} {id : String}
    {relationships : Identities} {supply : IdSupply} {graph : Graph}
    (hassign : assembly.relationships.assign relationship.identity relationship.carriedId?
      assembly.supply = .ok (id, relationships, supply))
    (hgraph : assembly.graph.GrowsTo graph) :
    assembly.GrowsTo { assembly with relationships, supply, graph } where
  nodes := (GrowsTo.refl assembly).nodes
  relationships := .of_assign hassign
  graph := hgraph

/-- Placing a node lets an assembly grow. -/
theorem placeNode (assembly : Assembly) (node : StoreNode) :
    assembly.GrowsTo (assembly.placeNode node).2 := by
  rcases assembly.placeNode_cases node with ⟨error, -, heq⟩ | ⟨id, nodes, supply, hassign, heq⟩
  · rw [heq]
    exact .refl assembly
  · rw [heq]
    exact ⟨.of_assign hassign, (GrowsTo.refl assembly).relationships, .addNode _ _⟩

/-- Placing a relationship lets an assembly grow. -/
theorem placeRelationship (assembly : Assembly) (relationship : StoreRelationship) :
    assembly.GrowsTo (assembly.placeRelationship relationship).2 := by
  rcases assembly.placeRelationship_cases relationship with ⟨existing, id, heq⟩ |
    ⟨id, relationships, supply, hassign,
      ⟨endpoint, heq⟩ | ⟨source, target, graph, added, -, -, hadd, heq⟩⟩
  · rw [heq]
    exact .refl assembly
  · rw [heq]
    exact of_assign_addEdge hassign (GrowsTo.refl assembly).graph
  · rw [heq]
    exact of_assign_addEdge hassign (.of_addEdge hadd)

/-- Placing a relationship between given ends lets an assembly grow. -/
theorem placeBetween (assembly : Assembly) (relationship : StoreRelationship)
    (source target : String) :
    assembly.GrowsTo (assembly.placeBetween relationship source target).2 := by
  rcases assembly.placeBetween_cases relationship source target with ⟨existing, id, heq⟩ |
    ⟨id, relationships, supply, hassign, ⟨endpoint, heq⟩ | ⟨graph, added, hadd, heq⟩⟩
  · rw [heq]
    exact .refl assembly
  · rw [heq]
    exact of_assign_addEdge hassign (GrowsTo.refl assembly).graph
  · rw [heq]
    exact of_assign_addEdge hassign (.of_addEdge hadd)

/-- Placing a hop lets an assembly grow, also where it stops after one or two nodes. -/
theorem placeHop (assembly : Assembly) (hop : Hop) :
    assembly.GrowsTo (assembly.placeHop hop).2 := by
  have hstart := placeNode assembly hop.start
  rcases assembly.placeHop_cases hop with ⟨error, placed, hplaced, heq⟩ |
    ⟨source, started, hplaced, hrest⟩
  · rw [hplaced] at hstart
    rw [heq]
    exact hstart
  · rw [hplaced] at hstart
    have hfinish := hstart.trans (placeNode started hop.finish)
    rcases hrest with ⟨error, placed, hplaced, heq⟩ | ⟨target, joined, hplaced, heq⟩
    · rw [hplaced] at hfinish
      rw [heq]
      exact hfinish
    · rw [hplaced] at hfinish
      rw [heq]
      exact hfinish.trans (placeRelationship joined hop.relationship)

/-- Placing a piece lets an assembly grow. -/
theorem place (assembly : Assembly) (piece : Piece) :
    assembly.GrowsTo (assembly.place piece).2 := by
  cases piece with
  | node node => exact placeNode assembly node
  | relationship relationship => exact placeRelationship assembly relationship
  | hop hop => exact placeHop assembly hop

/-- Placing pieces lets an assembly grow. -/
theorem placeAll (assembly : Assembly) (pieces : List Piece) :
    assembly.GrowsTo (assembly.placeAll pieces).2 := by
  induction pieces generalizing assembly with
  | nil => exact .refl assembly
  | cons piece rest ih =>
    have hfirst := place assembly piece
    rw [Assembly.placeAll]
    rcases hplaced : assembly.place piece with ⟨error | _, placed⟩
    · rw [hplaced] at hfirst
      exact hfirst
    · rw [hplaced] at hfirst
      exact hfirst.trans (ih placed)

/-- Every step lets an assembly grow. -/
theorem after (assembly : Assembly) (step : Step) : assembly.GrowsTo (assembly.after step) := by
  cases step with
  | push piece => exact place assembly piece
  | node node => exact placeNode assembly node
  | relationship relationship => exact placeRelationship assembly relationship
  | between relationship source target => exact placeBetween assembly relationship source target

/-- Every sequence of steps lets an assembly grow. -/
theorem run (assembly : Assembly) (steps : List Step) : assembly.GrowsTo (assembly.run steps) := by
  induction steps generalizing assembly with
  | nil => exact .refl assembly
  | cons step rest ih => exact (after assembly step).trans (ih (assembly.after step))

end GrowsTo

/-!
## Failed steps
-/

/-- A relationship that is refused adds no edge. -/
theorem graph_of_placeRelationship_error {assembly : Assembly} {relationship : StoreRelationship}
    {error : Error} (h : (assembly.placeRelationship relationship).1 = .error error) :
    (assembly.placeRelationship relationship).2.graph = assembly.graph := by
  rcases assembly.placeRelationship_cases relationship with ⟨existing, id, heq⟩ |
    ⟨id, relationships, supply, -, ⟨endpoint, heq⟩ | ⟨source, target, graph, added, -, -, -, heq⟩⟩
  · rw [heq]
  · rw [heq]
  · rw [heq] at h
    cases h

/-- Placing a node adds no edge. -/
theorem edges_placeNode (assembly : Assembly) (node : StoreNode) :
    (assembly.placeNode node).2.graph.edges = assembly.graph.edges := by
  rcases assembly.placeNode_cases node with ⟨error, -, heq⟩ | ⟨id, nodes, supply, -, heq⟩
  · rw [heq]
  · rw [heq, Graph.edges_addNode]

/-- A piece that is refused adds no edge. The nodes of a hop may have been added by then. -/
theorem edges_of_place_error {assembly : Assembly} {piece : Piece} {error : Error}
    (h : (assembly.place piece).1 = .error error) :
    (assembly.place piece).2.graph.edges = assembly.graph.edges := by
  have hrefused {answer : Except Error String}
      (hanswer : (answer.map fun _ => ()) = .error error) : answer = .error error := by
    cases answer with
    | error refusal => exact congrArg _ (Except.error.inj hanswer)
    | ok id => cases hanswer
  cases piece with
  | node node => exact edges_placeNode assembly node
  | relationship relationship =>
    exact congrArg Graph.edges (graph_of_placeRelationship_error (hrefused h))
  | hop hop =>
    replace h : (assembly.placeHop hop).1 = .error error := hrefused h
    change (assembly.placeHop hop).2.graph.edges = assembly.graph.edges
    have hstart := edges_placeNode assembly hop.start
    rcases assembly.placeHop_cases hop with ⟨refusal, placed, hplaced, heq⟩ |
      ⟨source, started, hplaced, hrest⟩
    · rw [hplaced] at hstart
      rw [heq]
      exact hstart
    · rw [hplaced] at hstart
      have hfinish := edges_placeNode started hop.finish
      rcases hrest with ⟨refusal, placed, hplaced, heq⟩ | ⟨target, joined, hplaced, heq⟩
      · rw [hplaced] at hfinish
        rw [heq]
        exact hfinish.trans hstart
      · rw [hplaced] at hfinish
        rw [heq] at h ⊢
        rw [graph_of_placeRelationship_error h]
        exact hfinish.trans hstart

end Assembly

end GraphGateway
