import GraphGateway.Neighborhood
import GraphGateway.Proofs.Assembly.Naming
import GraphGateway.Schema
import Mathlib.Logic.Function.Basic

/-!
# Renaming store identities

The store's own names for elements mean nothing beyond one result, so another choice of names must
make no difference. A renaming changes the names of nodes and, apart from them, those of
relationships, and keeps different names different. This module carries renamings to everything that
holds store identities; stable ids and contents stay as they are. Giving out stable ids then
commutes with names.
-/

namespace GraphGateway

/-- The two kinds of graph elements. Each has a space of identities of its own. -/
inductive ElementKind where
  | node
  | relationship
  deriving DecidableEq, Repr

/-- Other names for the nodes and for the relationships of the store, under which no two names of
one kind fall together. -/
structure Renaming where
  node : StoreId → StoreId
  relationship : StoreId → StoreId
  node_injective : Function.Injective node
  relationship_injective : Function.Injective relationship

instance : Inhabited Renaming :=
  ⟨⟨id, id, Function.injective_id, Function.injective_id⟩⟩

namespace Renaming

/-- The new names of the elements of a kind. -/
def of (names : Renaming) : ElementKind → StoreId → StoreId
  | .node => names.node
  | .relationship => names.relationship

theorem of_injective (names : Renaming) (kind : ElementKind) :
    Function.Injective (names.of kind) := by
  cases kind with
  | node => exact names.node_injective
  | relationship => exact names.relationship_injective

end Renaming

/-!
## What a renaming changes
-/

/-- A store node under its new name. -/
def StoreNode.rename (names : Renaming) (node : StoreNode) : StoreNode :=
  { node with identity := names.node node.identity }

/-- A store relationship under its new name, between nodes under their new names. -/
def StoreRelationship.rename (names : Renaming) (relationship : StoreRelationship) :
    StoreRelationship :=
  { relationship with
    identity := names.relationship relationship.identity
    start := names.node relationship.start
    finish := names.node relationship.finish }

/-- A hop with its elements renamed. -/
def Hop.rename (names : Renaming) (hop : Hop) : Hop where
  start := hop.start.rename names
  relationship := hop.relationship.rename names
  finish := hop.finish.rename names

/-- A piece with its elements renamed. -/
def Piece.rename (names : Renaming) : Piece → Piece
  | node n => .node (n.rename names)
  | relationship r => .relationship (r.rename names)
  | hop h => .hop (h.rename names)

/-- An occurrence under its new name. -/
def Occurrence.rename (names : Renaming) : Occurrence → Occurrence
  | node n => .node (n.rename names)
  | relationship r => .relationship (r.rename names)

/-- A neighbour with its elements renamed. -/
def Neighbor.rename (names : Renaming) (neighbor : Neighbor) : Neighbor where
  node := neighbor.node.rename names
  relationship := neighbor.relationship.rename names

/-- A row of a neighbourhood with its elements renamed. -/
def NeighborRow.rename (names : Renaming) (row : NeighborRow) : NeighborRow where
  center := row.center.rename names
  parent? := row.parent?.map (Neighbor.rename names)
  child? := row.child?.map (Neighbor.rename names)

/-- A schema with its elements renamed. -/
def Schema.rename (names : Renaming) (schema : Schema) : Schema where
  nodes := schema.nodes.map (StoreNode.rename names)
  relationships := schema.relationships.map (StoreRelationship.rename names)

/-- An error with the one store identity that it may name renamed: that of a conflict, which is an
identity of the given kind, or that of the node missing at the end of a relationship. -/
def Error.rename (names : Renaming) (kind : ElementKind) : Error → Error
  | identityConflict identity existing attempted =>
    .identityConflict (names.of kind identity) existing attempted
  | danglingEndpoint relationship endpoint =>
    .danglingEndpoint relationship (names.node ⟨endpoint⟩).key
  | error => error

/-- Identities under their new names, bound to the same stable ids. -/
def Identities.rename (newName : StoreId → StoreId) (identities : Identities) : Identities :=
  { identities with
    bindings := identities.bindings.map fun binding => (newName binding.1, binding.2) }

/-- An assembly with both spaces of identities renamed. The graph and the supply hold no store
identities. -/
def Assembly.rename (names : Renaming) (assembly : Assembly) : Assembly :=
  { assembly with
    nodes := assembly.nodes.rename names.node
    relationships := assembly.relationships.rename names.relationship }

/-- The assembly of a schema with its identities renamed. -/
def Schema.Draft.rename (names : Renaming) (draft : Schema.Draft) : Schema.Draft :=
  { draft with nodes := draft.nodes.rename names.node }

/-- What elements occur in a piece is not changed by renaming it. -/
theorem Piece.occurrences_rename (names : Renaming) (piece : Piece) :
    (piece.rename names).occurrences = piece.occurrences.map (Occurrence.rename names) := by
  cases piece <;> rfl

/-!
## Giving out stable ids
-/

namespace Identities

/-- Under its new name an identity resolves to the same stable id. -/
theorem resolve_rename {newName : StoreId → StoreId} (hinjective : Function.Injective newName)
    (identities : Identities) (identity : StoreId) :
    (identities.rename newName).resolve (newName identity) = identities.resolve identity := by
  obtain ⟨policy, bindings⟩ := identities
  induction bindings with
  | nil => rfl
  | cons binding rest ih =>
    have hrenamed := resolve_cons policy (rest.map fun binding => (newName binding.1, binding.2))
      (newName binding.1) (newName identity) binding.2
    have hplain := resolve_cons policy rest binding.1 identity binding.2
    simp only [hinjective.eq_iff] at hrenamed
    refine hrenamed.trans (Eq.trans ?_ hplain.symm)
    rw [← ih]
    rfl

/-- A renaming leaves alone which carried ids count. -/
theorem carried_rename (newName : StoreId → StoreId) (identities : Identities)
    (id? : Option String) : (identities.rename newName).carried id? = identities.carried id? := rfl

/-- Giving a renamed identity a stable id gives it the same id and leaves the same supply, or fails
with the same conflict of the renamed identity. -/
theorem assign_rename (names : Renaming) (kind : ElementKind) (identities : Identities)
    (identity : StoreId) (id? : Option String) (supply : IdSupply) :
    (identities.rename (names.of kind)).assign (names.of kind identity) id? supply =
      ((identities.assign identity id? supply).mapError (Error.rename names kind)).map
        fun given => (given.1, given.2.1.rename (names.of kind), given.2.2) := by
  have hresolve := resolve_rename (names.of_injective kind) identities identity
  cases hbound : identities.resolve identity with
  | none =>
    rw [hbound] at hresolve
    rw [assign_of_unresolved hbound, assign_of_unresolved hresolve]
    rfl
  | some existing =>
    rw [hbound] at hresolve
    rw [assign_of_resolved hbound, assign_of_resolved hresolve, carried_rename]
    cases identities.carried id? with
    | none => rfl
    | some id =>
      dsimp only
      by_cases hagrees : existing = id
      · rw [if_pos hagrees, if_pos hagrees]
        rfl
      · rw [if_neg hagrees, if_neg hagrees]
        rfl

/-- The end of a renamed relationship has the same stable id, or is missing under its new name. -/
theorem endpoint_rename (names : Renaming) (kind : ElementKind) (identities : Identities)
    (relationship : String) (identity : StoreId) :
    (identities.rename names.node).endpoint relationship (names.node identity) =
      (identities.endpoint relationship identity).mapError (Error.rename names kind) := by
  have hresolve := resolve_rename names.node_injective identities identity
  unfold endpoint
  rw [hresolve]
  cases identities.resolve identity <;> rfl

end Identities

end GraphGateway
