import GraphGateway.Assembly.Basic
import GraphGateway.Proofs.Assembly.Identities

/-!
# Steps of an assembly

The calls that an assembly takes and what a sequence of them leaves behind. A relationship is placed
in two moves: it takes a stable id, which stays taken, and then an edge is added. The laws here say
what the first move changes, and that its own ends matter only through the ids they are bound to.
-/

namespace GraphGateway.Assembly

/-- A call on an assembly. -/
inductive Step where
  | push (piece : Piece)
  | node (node : StoreNode)
  | relationship (relationship : StoreRelationship)
  | between (relationship : StoreRelationship) (source target : String)

/-- The assembly that a step leaves behind, whether it succeeds or fails. -/
def after (assembly : Assembly) : Step → Assembly
  | .push piece => (assembly.place piece).2
  | .node node => (assembly.placeNode node).2
  | .relationship relationship => (assembly.placeRelationship relationship).2
  | .between relationship source target => (assembly.placeBetween relationship source target).2

/-- The assembly after steps, of which a failed one does not keep the next from being taken. -/
def run (assembly : Assembly) (steps : List Step) : Assembly := steps.foldl after assembly

/-- Further steps are taken where the first ones have led. -/
theorem run_append (assembly : Assembly) (steps more : List Step) :
    assembly.run (steps ++ more) = (assembly.run steps).run more :=
  List.foldl_append

/-- A node is refused and leaves no trace, or it gets its id and is added to the graph. -/
theorem placeNode_cases (assembly : Assembly) (node : StoreNode) :
    (∃ error, assembly.nodes.assign node.identity node.carriedId? assembly.supply = .error error ∧
      assembly.placeNode node = (.error error, assembly)) ∨
    ∃ id nodes supply,
      assembly.nodes.assign node.identity node.carriedId? assembly.supply =
        .ok (id, nodes, supply) ∧
      assembly.placeNode node =
        (.ok id, { assembly with
          nodes, supply, graph := (assembly.graph.addNode (node.toNode id)).1 }) := by
  unfold placeNode
  cases assembly.nodes.assign node.identity node.carriedId? assembly.supply with
  | error error => exact Or.inl ⟨error, rfl, rfl⟩
  | ok given =>
    obtain ⟨id, nodes, supply⟩ := given
    exact Or.inr ⟨id, nodes, supply, rfl, rfl⟩

/-- Taking a stable id for a relationship touches neither the nodes nor the graph. -/
theorem edgeId_eq_ok_iff {assembly after : Assembly} {relationship : StoreRelationship}
    {id : String} :
    assembly.edgeId relationship = .ok (id, after) ↔
      ∃ relationships supply,
        assembly.relationships.assign relationship.identity relationship.carriedId?
          assembly.supply = .ok (id, relationships, supply) ∧
        after = { assembly with relationships, supply } := by
  unfold edgeId
  cases assembly.relationships.assign relationship.identity relationship.carriedId?
      assembly.supply with
  | error error => simp [bind, Except.bind]
  | ok given =>
    obtain ⟨id', relationships, supply⟩ := given
    constructor
    · intro h
      cases h
      exact ⟨relationships, supply, rfl, rfl⟩
    · rintro ⟨relationships, supply, hgiven, rfl⟩
      cases hgiven
      rfl

/-- A relationship gets no stable id just where its identity is in conflict. -/
theorem edgeId_eq_error_iff {assembly : Assembly} {relationship : StoreRelationship}
    {error : Error} :
    assembly.edgeId relationship = .error error ↔
      assembly.relationships.assign relationship.identity relationship.carriedId?
        assembly.supply = .error error := by
  unfold edgeId
  cases assembly.relationships.assign relationship.identity relationship.carriedId?
      assembly.supply with
  | error error => simp [bind, Except.bind]
  | ok given => simp [bind, Except.bind, pure, Except.pure]

/-- A relationship that got a stable id is bound to it. -/
theorem resolve_of_edgeId {assembly after : Assembly} {relationship : StoreRelationship}
    {id : String} (h : assembly.edgeId relationship = .ok (id, after)) :
    after.relationships.resolve relationship.identity = some id := by
  obtain ⟨relationships, supply, hassign, rfl⟩ := edgeId_eq_ok_iff.mp h
  exact Identities.resolve_of_assign hassign

/-- Between ends that are bound, a relationship goes from the id of one to the id of the other. -/
theorem placeRelationship_of_resolved {assembly : Assembly} {relationship : StoreRelationship}
    {source target : String} (hsource : assembly.nodes.resolve relationship.start = some source)
    (htarget : assembly.nodes.resolve relationship.finish = some target) :
    assembly.placeRelationship relationship = assembly.placeBetween relationship source target := by
  unfold placeRelationship placeBetween
  cases hid : assembly.edgeId relationship with
  | error error => rfl
  | ok given =>
    obtain ⟨id, after⟩ := given
    obtain ⟨relationships, supply, -, rfl⟩ := edgeId_eq_ok_iff.mp hid
    dsimp only
    rw [Identities.endpoint_eq_ok_iff.mpr hsource]
    dsimp only
    rw [Identities.endpoint_eq_ok_iff.mpr htarget]

/-- A relationship is placed between its own ends only where both are bound. -/
theorem resolved_of_placeRelationship {assembly : Assembly} {relationship : StoreRelationship}
    {id : String} (h : (assembly.placeRelationship relationship).1 = .ok id) :
    ∃ source target, assembly.nodes.resolve relationship.start = some source ∧
      assembly.nodes.resolve relationship.finish = some target := by
  unfold placeRelationship at h
  cases hid : assembly.edgeId relationship with
  | error error => simp [hid] at h
  | ok given =>
    obtain ⟨id', after⟩ := given
    obtain ⟨relationships, supply, -, rfl⟩ := edgeId_eq_ok_iff.mp hid
    simp only [hid] at h
    cases hsource : assembly.nodes.endpoint id' relationship.start with
    | error error => simp [hsource] at h
    | ok source =>
      simp only [hsource] at h
      cases htarget : assembly.nodes.endpoint id' relationship.finish with
      | error error => simp [htarget] at h
      | ok target =>
        exact ⟨source, target, Identities.endpoint_eq_ok_iff.mp hsource,
          Identities.endpoint_eq_ok_iff.mp htarget⟩

end GraphGateway.Assembly
