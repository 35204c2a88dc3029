import GraphGateway.Datum.Basic
import GraphGateway.Text.Blank

/-!
# Elements as the store knows them

Nodes, relationships and the steps of a path as the store returns them. The store names them by
identities of its own, which mean nothing outside one result; an element may also carry a stable id
among its properties.
-/

namespace GraphGateway

/-- The store's own name for an element. Numbers and texts share one key space: the number 7 and the
text 7 are the same identity. -/
structure StoreId where
  key : String
  deriving DecidableEq, Repr

namespace StoreId

/-- The identity with a numeric name. -/
def ofInt (n : Int) : StoreId := ⟨toString n⟩

/-- The shown form of an identity. -/
def display (identity : StoreId) : String := "NativeId(" ++ identity.key ++ ")"

end StoreId

/-- The stable id among the properties of an element: a text that is not empty, or an integer in
decimal digits. -/
def carriedId? (properties : Properties) : Option String :=
  match properties.get? "id" with
  | some (.text id) => if id.isEmpty then none else some id
  | some (.integer n) => some (toString n.toInt)
  | _ => none

/-- A node of the store. -/
structure StoreNode where
  identity : StoreId
  labels : List String
  properties : Properties

/-- The stable id that a node carries. -/
def StoreNode.carriedId? (node : StoreNode) : Option String :=
  GraphGateway.carriedId? node.properties

/-- A relationship of the store, from one node to another. -/
structure StoreRelationship where
  identity : StoreId
  start : StoreId
  finish : StoreId
  type? : Option String
  properties : Properties

/-- The stable id that a relationship carries. -/
def StoreRelationship.carriedId? (relationship : StoreRelationship) : Option String :=
  GraphGateway.carriedId? relationship.properties

/-- The type of a relationship, as it stands; a blank type counts as none. -/
def StoreRelationship.label? (relationship : StoreRelationship) : Option String :=
  relationship.type?.filter fun type => !Text.isBlankText type

/-- One step of a path: the node it leaves, the relationship it takes and the node it reaches. The
relationship may point either way. -/
structure Hop where
  start : StoreNode
  relationship : StoreRelationship
  finish : StoreNode

end GraphGateway
