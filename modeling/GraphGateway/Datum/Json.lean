import GraphGateway.Datum.Basic
import GraphGateway.Json.Basic

/-!
# Property values and JSON

The two conversions between property values and JSON documents. A number that is not finite has no
JSON form and becomes null. A JSON integer outside the 64-bit range becomes the nearest
double-precision number.
-/

namespace GraphGateway.Datum

mutual

/-- The JSON form of a value. -/
def toJson : Datum → Json
  | null => .null
  | boolean value => .bool value
  | integer value => .integer value.toInt
  | float value => if value.isFinite then .double value else .null
  | text value => .string value
  | list items => .array (itemsToJson items)
  | map entries => .object (entriesToJson entries)

/-- The JSON forms of the items of a list. -/
def itemsToJson : List Datum → List Json
  | [] => []
  | item :: rest => toJson item :: itemsToJson rest

/-- The members that stand for the entries of a map. -/
def entriesToJson : List (String × Datum) → List (String × Json)
  | [] => []
  | (key, value) :: rest => (key, toJson value) :: entriesToJson rest

end

/-- The 64-bit integer equal to an integer, if there is one. -/
def int64? (n : Int) : Option Int64 :=
  if Int64.minValue.toInt ≤ n ∧ n ≤ Int64.maxValue.toInt then some (Int64.ofInt n) else none

mutual

/-- The value that a JSON document stands for. -/
def ofJson : Json → Datum
  | .null => null
  | .bool value => boolean value
  | .integer value => match int64? value with
    | some n => integer n
    | none => float (Binary64.ofInt value)
  | .double value => float value
  | .string value => text value
  | .array items => list (itemsOfJson items)
  | .object members => map (entriesOfJson members)

/-- The values that the items of an array stand for. -/
def itemsOfJson : List Json → List Datum
  | [] => []
  | item :: rest => ofJson item :: itemsOfJson rest

/-- The entries that the members of an object stand for. -/
def entriesOfJson : List (String × Json) → List (String × Datum)
  | [] => []
  | (key, value) :: rest => (key, ofJson value) :: entriesOfJson rest

end

end GraphGateway.Datum
