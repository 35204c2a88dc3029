import GraphGateway.Number.Binary64
import GraphGateway.SortedMap

/-!
# Property values

The values that a store keeps in the properties of its nodes and relationships: null, booleans,
64-bit integers, double-precision numbers, texts, and lists and maps of such values.
-/

namespace GraphGateway

/-- A property value. The entries of a map stand in the order of their keys, each key once. -/
inductive Datum where
  | null
  | boolean (value : Bool)
  | integer (value : Int64)
  | float (value : Binary64)
  | text (value : String)
  | list (items : List Datum)
  | map (entries : List (String × Datum))
  deriving Inhabited

/-- The properties of a node or relationship, or the parameters of a statement. -/
abbrev Properties := SortedMap Datum

namespace Datum

/-- The map value of a property map. -/
def ofProperties (properties : Properties) : Datum := map properties.entries

/-- Whether the value is null. -/
def isNull : Datum → Bool
  | null => true
  | _ => false

/-- The boolean, if the value is one. -/
def boolean? : Datum → Option Bool
  | boolean value => some value
  | _ => none

/-- The integer, if the value is one. -/
def integer? : Datum → Option Int64
  | integer value => some value
  | _ => none

/-- The double-precision number, if the value is one. -/
def float? : Datum → Option Binary64
  | float value => some value
  | _ => none

/-- The text, if the value is one. -/
def text? : Datum → Option String
  | text value => some value
  | _ => none

/-- The items, if the value is a list. -/
def list? : Datum → Option (List Datum)
  | list items => some items
  | _ => none

/-- The entries, if the value is a map. -/
def map? : Datum → Option (List (String × Datum))
  | map entries => some entries
  | _ => none

/-- The name of the kind of a value. -/
def typeName : Datum → String
  | null => "Null"
  | boolean _ => "Boolean"
  | integer _ => "Integer"
  | float _ => "Float"
  | text _ => "String"
  | list _ => "Array"
  | map _ => "Map"

mutual

/-- Equality of values. Numbers compare as numbers within their kind, so a value that holds a NaN
does not equal itself, and an integer never equals a double-precision number. -/
def equal : Datum → Datum → Bool
  | null, null => true
  | boolean a, boolean b => a == b
  | integer a, integer b => a == b
  | float a, float b => a.equal b
  | text a, text b => a == b
  | list a, list b => equalItems a b
  | map a, map b => equalEntries a b
  | _, _ => false

/-- Equality of lists, item by item. -/
def equalItems : List Datum → List Datum → Bool
  | [], [] => true
  | a :: as, b :: bs => equal a b && equalItems as bs
  | _, _ => false

/-- Equality of maps, entry by entry in the order of the keys. -/
def equalEntries : List (String × Datum) → List (String × Datum) → Bool
  | [], [] => true
  | (k, a) :: as, (l, b) :: bs => k == l && equal a b && equalEntries as bs
  | _, _ => false

end

end Datum

/-- The keys that the graph model itself owns; they never travel among the properties of a graph
element. -/
def reservedKeys : List String := ["id", "labels"]

/-- Properties without the reserved keys. -/
def Properties.withoutReserved (properties : Properties) : Properties :=
  properties.filterKeys fun key => !reservedKeys.contains key

end GraphGateway
