import GraphGateway.Proofs.Assembly.Identities
import GraphGateway.Proofs.Graph.Growth
import GraphGateway.Schema

/-!
# What drafting a schema keeps

The steps by which a schema is drafted. Every id that a node identity is bound to is that of a node
of the graph, so an edge between bound identities is always accepted.
-/

namespace GraphGateway.Schema.Draft

/-- A virtual relationship draws a new id, then looks for its start and its end, and only then adds
an edge. The id stays drawn where one of these steps fails. -/
theorem placeRelationship_eq (draft : Draft) (relationship : StoreRelationship) :
    draft.placeRelationship relationship =
      match draft.nodes.endpoint draft.supply.mint.1 relationship.start with
      | .error error => (.error error, { draft with supply := draft.supply.mint.2 })
      | .ok source =>
        match draft.nodes.endpoint draft.supply.mint.1 relationship.finish with
        | .error error => (.error error, { draft with supply := draft.supply.mint.2 })
        | .ok target =>
          match draft.graph.addEdge (relationship.toEdge draft.supply.mint.1 source target) with
          | .error error => (.error error, { draft with supply := draft.supply.mint.2 })
          | .ok (graph, _) => (.ok (), { draft with supply := draft.supply.mint.2, graph }) := by
  unfold placeRelationship
  rcases draft.supply.mint with ⟨id, supply⟩
  dsimp only [bind, Except.bind]
  cases draft.nodes.endpoint id relationship.start with
  | error error => rfl
  | ok source =>
    cases draft.nodes.endpoint id relationship.finish with
    | error error => rfl
    | ok target =>
      dsimp only
      cases draft.graph.addEdge (relationship.toEdge id source target) <;> rfl

/-- Every id that a node identity is bound to is the id of a node. -/
def Sound (draft : Draft) : Prop :=
  ∀ identity id, draft.nodes.resolve identity = some id → id ∈ draft.graph.nodeIds

/-- A draft starts with nothing bound. -/
theorem Sound.start (supply : IdSupply) : ({ supply } : Draft).Sound := by
  intro identity id hbound
  cases hbound

/-- Placing a virtual node keeps a draft sound. -/
theorem Sound.placeNode {draft : Draft} (hsound : draft.Sound) (node : StoreNode) :
    (draft.placeNode node).2.Sound := by
  unfold Draft.placeNode
  cases hassign : draft.nodes.assign node.identity node.carriedId? draft.supply with
  | error error => exact hsound
  | ok given =>
    obtain ⟨id, nodes, supply⟩ := given
    intro identity known hknown
    dsimp only at hknown
    rw [(Identities.assign_eq_ok hassign).2.2] at hknown
    split at hknown
    · exact Graph.mem_nodeIds_addNode.mpr (Or.inl (Option.some.inj hknown).symm)
    · exact Graph.mem_nodeIds_addNode.mpr (Or.inr (hsound identity known hknown))

/-- Placing a virtual relationship keeps a draft sound. -/
theorem Sound.placeRelationship {draft : Draft} (hsound : draft.Sound)
    (relationship : StoreRelationship) : (draft.placeRelationship relationship).2.Sound := by
  rw [placeRelationship_eq]
  cases draft.nodes.endpoint draft.supply.mint.1 relationship.start with
  | error error => exact hsound
  | ok source =>
    cases draft.nodes.endpoint draft.supply.mint.1 relationship.finish with
    | error error => exact hsound
    | ok target =>
      dsimp only
      cases hadd : draft.graph.addEdge
          (relationship.toEdge draft.supply.mint.1 source target) with
      | error error => exact hsound
      | ok grown =>
        obtain ⟨graph, added⟩ := grown
        intro identity id hbound
        have hmem := hsound identity id hbound
        rwa [← Graph.nodeIds_of_addEdge hadd] at hmem

end GraphGateway.Schema.Draft
