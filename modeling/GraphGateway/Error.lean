import GraphGateway.Store.Element

/-!
# What can go wrong

The errors of pattern compilation, of graph assembly and of the operations on a store, as causes;
the wording of each is given by `Error.message`.
-/

namespace GraphGateway

/-- Why a pattern without empty tokens has no query. -/
inductive PatternFault where
  /-- The pattern does not both start and end on a node. -/
  | evenLength (tokens : Nat)
  /-- The pattern asks for every node of the store. -/
  | loneWildcard
  deriving DecidableEq, Repr

/-- Why the arguments of an operation are refused. -/
inductive InputFault where
  | nodeAmount (amount : Int64)
  | edgeAmount (amount : Int64)
  | blankLabel
  | severalTypes
  | nodeWithoutId
  | edgeWithoutId
  deriving DecidableEq, Repr

/-- How an answer of the store differs from what its statement promises. -/
inductive ShapeFault where
  /-- A field holds another kind of value than the one it should hold. -/
  | fieldKind (field expected found : String)
  /-- A column of graph elements holds a plain value. -/
  | plainValue (column typeName : String)
  /-- A row describes the neighbourhood of another node. -/
  | foreignCenter (center wanted : String)
  /-- A list holds something other than the elements it should hold. -/
  | listElement (field found : String)
  /-- A count came back without any row. -/
  | noCount
  /-- A field is not an integer. -/
  | notInteger (field : String)
  /-- A field is not a text. -/
  | notText (field : String)
  deriving DecidableEq, Repr

/-- What an operation found to be there, or not to be there. -/
inductive Item where
  | node (id : String)
  | edge (id : String)
  | typedEdge (id type : String)
  | endpoints (source target : String)
  deriving DecidableEq, Repr

/-- An error of this library. -/
inductive Error where
  /-- A pattern without tokens, or with an empty one. -/
  | emptyPattern
  /-- A pattern that is well formed and has no query. -/
  | unsupportedPattern (fault : PatternFault)
  /-- One store identity with two different stable ids. -/
  | identityConflict (identity : StoreId) (existing attempted : String)
  /-- A relationship one of whose ends is not among the nodes. -/
  | danglingEndpoint (relationship endpoint : String)
  /-- The store failed. -/
  | store (message : String)
  /-- A filter has no constraint. -/
  | filter (message : String)
  /-- The arguments of an operation are refused. -/
  | invalidInput (fault : InputFault)
  /-- An answer of the store is not of the promised shape. -/
  | unexpectedShape (fault : ShapeFault)
  /-- An element to be created exists already. -/
  | itemExists (item : Item)
  /-- An element to be changed does not exist. -/
  | itemMissing (item : Item)
  deriving DecidableEq, Repr

/-- The wording of a pattern fault. -/
def PatternFault.message : PatternFault → String
  | evenLength tokens =>
    "a pattern must start and end on a node selector, got " ++ toString tokens ++ " tokens"
  | loneWildcard => "cannot path-query all nodes with a single wildcard"

/-- The wording of an input fault. -/
def InputFault.message : InputFault → String
  | nodeAmount amount => "node count must be positive, got " ++ toString amount.toInt
  | edgeAmount amount => "edge amount must be positive, got " ++ toString amount.toInt
  | blankLabel => "labels cannot be empty"
  | severalTypes => "a relationship carries at most one type"
  | nodeWithoutId => "node update requires an id"
  | edgeWithoutId => "edge update requires an id"

/-- The wording of a shape fault. -/
def ShapeFault.message : ShapeFault → String
  | fieldKind field expected found =>
    "field '" ++ field ++ "' should hold a " ++ expected ++ " but holds a " ++ found
  | plainValue column typeName =>
    "field '" ++ column ++ "' holds a " ++ typeName ++ " where graph elements were expected"
  | foreignCenter center wanted =>
    "neighbourhood row centered on '" ++ center ++ "' while expanding '" ++ wanted ++ "'"
  | listElement field found => "'" ++ field ++ "' contains a " ++ found
  | noCount => "count query returned no record"
  | notInteger field => "'" ++ field ++ "' is not an integer"
  | notText field => "'" ++ field ++ "' is not a string"

/-- The name of an item. -/
def Item.message : Item → String
  | node id => "Node with id '" ++ id ++ "'"
  | edge id => "Edge with id '" ++ id ++ "'"
  | typedEdge id type => "Edge with id '" ++ id ++ "' of type '" ++ type ++ "'"
  | endpoints source target => "Node '" ++ source ++ "' or '" ++ target ++ "'"

/-- The wording of an error. -/
def Error.message : Error → String
  | emptyPattern => "Path query items cannot be empty"
  | unsupportedPattern fault => "Unsupported path pattern: " ++ fault.message
  | identityConflict identity existing attempted =>
    "Identity conflict: native id " ++ identity.key ++ " is bound to '" ++ existing ++
      "', cannot rebind to '" ++ attempted ++ "'"
  | danglingEndpoint relationship endpoint =>
    "Could not find endpoint " ++ endpoint ++ " of relationship " ++ relationship
  | store message => "Store error: " ++ message
  | filter message => "Filter error: " ++ message
  | invalidInput fault => "Invalid input: " ++ fault.message
  | unexpectedShape fault => "Unexpected result shape: " ++ fault.message
  | itemExists item => item.message ++ " exists already"
  | itemMissing item => item.message ++ " does not exist"

end GraphGateway
