import GraphGateway.Text.Letter

/-!
# Identifiers of the query language

A label, relationship type or property name as it is written in a statement. A plain name, a letter
or underscore followed by letters, numbers and underscores, stands as it is. Every other name stands
between backticks, and a backtick inside it is written twice.
-/

namespace GraphGateway.Identifier

/-- The backtick. -/
def backtick : Char := Char.ofNat 0x60

/-- Whether a character may start a plain name. -/
def startsPlain (c : Char) : Bool := Text.isLetter c || c == '_'

/-- Whether a character may continue a plain name. -/
def continuesPlain (c : Char) : Bool := Text.isLetterOrNumber c || c == '_'

/-- Whether a name needs no backticks. -/
def isPlain : List Char → Bool
  | [] => false
  | first :: rest => startsPlain first && rest.all continuesPlain

/-- A name with its backticks doubled. -/
def doubleBackticks : List Char → List Char
  | [] => []
  | c :: rest =>
    if c = backtick then backtick :: backtick :: doubleBackticks rest
    else c :: doubleBackticks rest

/-- The characters that write a name. -/
def quoteChars (name : List Char) : List Char :=
  if isPlain name then name else backtick :: (doubleBackticks name ++ [backtick])

/-- The text that writes a name as one identifier. -/
def quote (name : String) : String := String.ofList (quoteChars name.toList)

end GraphGateway.Identifier
