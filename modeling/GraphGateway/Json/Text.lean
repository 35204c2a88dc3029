import GraphGateway.Json.Basic
import GraphGateway.Number.Layout
import GraphGateway.Text.Quoted

/-!
# JSON text

The written form of a document: `compact` without any space, `pretty` with one item a line and two
spaces a level. Numbers that are not finite have no written form and become `null`.
-/

namespace GraphGateway.Json

/-- Numbers are positional from five places after the point to sixteen digits before it, keep a
fraction when they are whole, and take the even neighbour between two equally near decimals. -/
def numberLayout : NumberLayout where
  tie := .toEven
  wholeEnding := ".0"
  isPositional e := -5 ≤ e && e ≤ 15

/-- The text of a double-precision number. -/
def doubleText (x : Binary64) : String :=
  if x.isFinite then numberLayout.render x else "null"

/-- A character inside a string: quotes, backslashes and control characters are escaped. -/
def escapeChar (c : Char) : String :=
  if c = '"' then "\\\""
  else if c = '\\' then "\\\\"
  else if c = '\n' then "\\n"
  else if c = '\r' then "\\r"
  else if c = '\t' then "\\t"
  else if c.toNat = 8 then "\\b"
  else if c.toNat = 12 then "\\f"
  else if c.toNat < 32 then "\\u00" ++ (if c.toNat < 16 then "0" else "") ++ Text.lowerHex c.toNat
  else String.singleton c

/-- A string between quotes. -/
def quote (text : String) : String := "\"" ++ String.join (text.toList.map escapeChar) ++ "\""

mutual

/-- A document on one line, without spaces. -/
def compact : Json → String
  | null => "null"
  | bool value => if value then "true" else "false"
  | integer value => toString value
  | double value => doubleText value
  | string value => quote value
  | array items => "[" ++ ",".intercalate (compactItems items) ++ "]"
  | object members => "\x7b" ++ ",".intercalate (compactMembers members) ++ "\x7d"

/-- The items of an array, each on its own. -/
def compactItems : List Json → List String
  | [] => []
  | item :: rest => compact item :: compactItems rest

/-- The members of an object, each on its own. -/
def compactMembers : List (String × Json) → List String
  | [] => []
  | (key, value) :: rest => (quote key ++ ":" ++ compact value) :: compactMembers rest

end

/-- Parts between brackets, one a line, indented below a level; nothing stands in empty brackets. -/
def bracketLines (opening closing : String) (level : Nat) (parts : List String) : String :=
  match parts with
  | [] => opening ++ closing
  | _ =>
    let indent := String.ofList (List.replicate (2 * level) ' ')
    opening ++ "\n" ++ ",\n".intercalate (parts.map (indent ++ "  " ++ ·)) ++ "\n" ++ indent ++
      closing

mutual

/-- A document over several lines, at an indentation level. -/
def prettyAt (level : Nat) : Json → String
  | array items => bracketLines "[" "]" level (prettyItems (level + 1) items)
  | object members => bracketLines "\x7b" "\x7d" level (prettyMembers (level + 1) members)
  | scalar => compact scalar

/-- The items of an array, each on its own. -/
def prettyItems (level : Nat) : List Json → List String
  | [] => []
  | item :: rest => prettyAt level item :: prettyItems level rest

/-- The members of an object, each on its own. -/
def prettyMembers (level : Nat) : List (String × Json) → List String
  | [] => []
  | (key, value) :: rest =>
    (quote key ++ ": " ++ prettyAt level value) :: prettyMembers level rest

end

/-- A document over several lines. -/
def pretty (document : Json) : String := prettyAt 0 document

end GraphGateway.Json
