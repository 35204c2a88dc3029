import GraphGateway.Error

/-!
# Rows of an answer

A statement is answered by rows: named fields in the order in which the statement returns them. A
field holds a plain value, a graph element, a path or a list of such; a missing field, the null of
the store and a plain null all count as absent.
-/

namespace GraphGateway

/-- What a field of a row may hold. -/
inductive Cell where
  | null
  | datum (value : Datum)
  | node (node : StoreNode)
  | relationship (relationship : StoreRelationship)
  | path (hops : List Hop)
  | list (items : List Cell)

namespace Cell

/-- Whether a cell is null, or a plain null. -/
def isNull : Cell → Bool
  | null => true
  | datum value => value.isNull
  | _ => false

/-- The node, if the cell holds one. -/
def node? : Cell → Option StoreNode
  | node n => some n
  | _ => none

/-- The relationship, if the cell holds one. -/
def relationship? : Cell → Option StoreRelationship
  | relationship r => some r
  | _ => none

/-- The plain value, if the cell holds one. -/
def datum? : Cell → Option Datum
  | datum value => some value
  | _ => none

/-- The items, if the cell holds a list. -/
def list? : Cell → Option (List Cell)
  | list items => some items
  | _ => none

/-- The name of the kind of a cell. -/
def kind : Cell → String
  | null => "Null"
  | datum _ => "Scalar"
  | node _ => "Node"
  | relationship _ => "Relationship"
  | path _ => "Path"
  | list _ => "List"

end Cell

/-- Fields with one more at the end; a field of the same name gets the new value in its place. -/
def bindField (name : String) (cell : Cell) : List (String × Cell) → List (String × Cell)
  | [] => [(name, cell)]
  | (n, c) :: rest => if n = name then (name, cell) :: rest else (n, c) :: bindField name cell rest

/-- One row of an answer. -/
structure Row where
  fields : List (String × Cell) := []

namespace Row

/-- The row with a value bound to a field. -/
def bind (row : Row) (name : String) (cell : Cell) : Row := ⟨bindField name cell row.fields⟩

/-- The row that binds fields one after the other. -/
def ofFields (fields : List (String × Cell)) : Row :=
  fields.foldl (fun row field => row.bind field.1 field.2) {}

/-- The cell of a field. -/
def get? (row : Row) (name : String) : Option Cell := lookupEntry name row.fields

/-- The cell at a position. -/
def at? (row : Row) (index : Nat) : Option Cell := row.fields[index]?.map (·.2)

/-- Whether a field is bound. -/
def has (row : Row) (name : String) : Bool := (row.get? name).isSome

/-- The names of the fields, in order. -/
def names (row : Row) : List String := row.fields.map (·.1)

/-- The number of fields. -/
def size (row : Row) : Nat := row.fields.length

/-- The content of a field that should hold a certain kind of cell, or nothing where it is absent.
A cell of another kind is an error. -/
def read {α : Type} (row : Row) (name expected : String) (view : Cell → Option α) :
    Except Error (Option α) :=
  match row.get? name with
  | none => .ok none
  | some cell =>
    if cell.isNull then .ok none
    else match view cell with
      | some content => .ok (some content)
      | none => .error (.unexpectedShape (.fieldKind name expected cell.kind))

/-- The node of a field. -/
def node (row : Row) (name : String) : Except Error (Option StoreNode) :=
  row.read name "Node" Cell.node?

/-- The relationship of a field. -/
def relationship (row : Row) (name : String) : Except Error (Option StoreRelationship) :=
  row.read name "Relationship" Cell.relationship?

/-- The plain value of a field. -/
def datum (row : Row) (name : String) : Except Error (Option Datum) :=
  row.read name "Scalar" Cell.datum?

/-- The list of a field, empty where the field is absent. -/
def list (row : Row) (name : String) : Except Error (List Cell) :=
  (·.getD []) <$> row.read name "List" Cell.list?

end Row

end GraphGateway
