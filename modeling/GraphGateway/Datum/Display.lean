import GraphGateway.Datum.Basic
import GraphGateway.Number.Layout

/-!
# Property values as text

The form in which a value is shown to people: texts between quotes as they are, numbers without
exponents, lists in brackets and maps in braces.
-/

namespace GraphGateway.Datum

/-- Shown numbers never have an exponent, whole ones no fraction, and between two equally near
decimals the larger magnitude is taken. -/
def displayLayout : NumberLayout where
  tie := .up
  wholeEnding := ""
  isPositional _ := true

/-- The shown form of a double-precision number. -/
def displayFloat (x : Binary64) : String :=
  if x.isNaN then "NaN"
  else if x.isFinite then displayLayout.render x
  else if x.isNegative then "-inf"
  else "inf"

mutual

/-- The shown form of a value. -/
def display : Datum → String
  | null => "null"
  | boolean value => if value then "true" else "false"
  | integer value => toString value.toInt
  | float value => displayFloat value
  | text value => "\"" ++ value ++ "\""
  | list items => "[" ++ ", ".intercalate (displayItems items) ++ "]"
  | map entries => "\x7b" ++ ", ".intercalate (displayEntries entries) ++ "\x7d"

/-- The shown forms of the items of a list. -/
def displayItems : List Datum → List String
  | [] => []
  | item :: rest => display item :: displayItems rest

/-- The shown forms of the entries of a map. -/
def displayEntries : List (String × Datum) → List String
  | [] => []
  | (key, value) :: rest => (key ++ ": " ++ display value) :: displayEntries rest

end

end GraphGateway.Datum
