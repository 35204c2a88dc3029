import GraphGateway.Proofs.Assembly.Identities
import GraphGateway.Proofs.SortedMap
import GraphGateway.Schema
import Mathlib.Data.List.Forall2

/-!
# What a schema keeps for itself

The properties `id` and `labels` of a virtual element have no effect: two schemas that agree on all
else are drafted step by step alike, whatever the supply is.
-/

namespace GraphGateway

/-- The properties agree on everything but the reserved keys. -/
def Properties.AgreeUnreserved (properties others : Properties) : Prop :=
  ∀ key, key ≠ "id" → key ≠ "labels" → properties.get? key = others.get? key

/-- Properties that agree on everything but the reserved keys are the same without these. -/
theorem Properties.AgreeUnreserved.withoutReserved_eq {properties others : Properties}
    (h : properties.AgreeUnreserved others) :
    properties.withoutReserved = others.withoutReserved := by
  refine SortedMap.ext_get? fun key => ?_
  rw [get?_withoutReserved, get?_withoutReserved]
  by_cases hkey : key = "id" ∨ key = "labels"
  · rw [if_pos hkey, if_pos hkey]
  · rw [h key (fun heq => hkey (Or.inl heq)) fun heq => hkey (Or.inr heq)]

/-- The nodes differ at most in their reserved properties. -/
structure StoreNode.Alike (node other : StoreNode) : Prop where
  identity : node.identity = other.identity
  labels : node.labels = other.labels
  properties : node.properties.AgreeUnreserved other.properties

/-- The relationships differ at most in their reserved properties. -/
structure StoreRelationship.Alike (relationship other : StoreRelationship) : Prop where
  identity : relationship.identity = other.identity
  start : relationship.start = other.start
  finish : relationship.finish = other.finish
  type? : relationship.type? = other.type?
  properties : relationship.properties.AgreeUnreserved other.properties

/-- The schemas differ at most in the reserved properties of their elements. -/
structure Schema.Alike (schema other : Schema) : Prop where
  nodes : List.Forall₂ StoreNode.Alike schema.nodes other.nodes
  relationships : List.Forall₂ StoreRelationship.Alike schema.relationships other.relationships

theorem StoreNode.Alike.toNode_eq {node other : StoreNode} (h : node.Alike other) (id : String) :
    node.toNode id = other.toNode id := by
  rw [toNode, toNode, h.labels, h.properties.withoutReserved_eq]

theorem StoreRelationship.Alike.toEdge_eq {relationship other : StoreRelationship}
    (h : relationship.Alike other) (id source target : String) :
    relationship.toEdge id source target = other.toEdge id source target := by
  simp only [toEdge, label?, h.type?, h.properties.withoutReserved_eq]

namespace Schema.Draft

variable {draft : Draft}

/-- Alike nodes are placed alike where every identity gets a new id. -/
theorem placeNode_congr {node other : StoreNode} (h : node.Alike other)
    (hpolicy : draft.nodes.policy = .mint) : draft.placeNode node = draft.placeNode other := by
  have hassign : draft.nodes.assign node.identity node.carriedId? draft.supply =
      draft.nodes.assign other.identity other.carriedId? draft.supply := by
    rw [h.identity]
    simp only [Identities.assign, Identities.carried_of_mint hpolicy]
  simp only [placeNode, hassign, h.toNode_eq]

/-- Placing a node keeps the policy. -/
theorem policy_placeNode (draft : Draft) (node : StoreNode) :
    (draft.placeNode node).2.nodes.policy = draft.nodes.policy := by
  rw [placeNode]
  cases hassign : draft.nodes.assign node.identity node.carriedId? draft.supply with
  | error error => rfl
  | ok given => exact (Identities.assign_eq_ok hassign).2.1

/-- Alike relationships are placed alike. -/
theorem placeRelationship_congr {relationship other : StoreRelationship}
    (h : relationship.Alike other) :
    draft.placeRelationship relationship = draft.placeRelationship other := by
  simp only [placeRelationship, h.start, h.finish, h.toEdge_eq]

/-- Runs over lists whose steps are alike as long as a property is kept. -/
theorem all_congr {α : Type} {step : Draft → α → Except Error Unit × Draft}
    {alike : α → α → Prop} (holds : Draft → Prop)
    (hkeeps : ∀ draft item, holds draft → holds (step draft item).2)
    (halike : ∀ draft item other, holds draft → alike item other →
      step draft item = step draft other)
    {items others : List α} (h : List.Forall₂ alike items others) (hdraft : holds draft) :
    all step draft items = all step draft others := by
  induction h generalizing draft with
  | nil => rfl
  | @cons item other items others hitem _ ih =>
    rw [all.eq_def step draft (item :: items), all.eq_def step draft (other :: others)]
    dsimp only
    rw [← halike draft item other hdraft hitem]
    have hafter := hkeeps draft item hdraft
    generalize step draft item = reached at hafter
    obtain ⟨_ | _, after⟩ := reached
    · rfl
    · exact ih hafter

end Schema.Draft

/-- Alike schemas have the same graph and leave the same supply. -/
theorem Schema.Alike.ofSchema_eq {schema other : Schema} (h : schema.Alike other)
    (supply : IdSupply) : Graph.ofSchema supply schema = Graph.ofSchema supply other := by
  have hnodes : Draft.all Draft.placeNode { supply } schema.nodes =
      Draft.all Draft.placeNode { supply } other.nodes := by
    refine Draft.all_congr (fun draft => draft.nodes.policy = .mint) ?_ ?_ h.nodes rfl
    · intro draft node hpolicy
      exact (Draft.policy_placeNode draft node).trans hpolicy
    · intro draft node other hpolicy halike
      exact Draft.placeNode_congr halike hpolicy
  have hrelationships (draft : Draft) :
      Draft.all Draft.placeRelationship draft schema.relationships =
        Draft.all Draft.placeRelationship draft other.relationships := by
    refine Draft.all_congr (fun _ => True) ?_ ?_ h.relationships trivial
    · exact fun _ _ _ => trivial
    · exact fun _ _ _ _ halike => Draft.placeRelationship_congr halike
  simp only [Graph.ofSchema, hnodes, hrelationships]

end GraphGateway
