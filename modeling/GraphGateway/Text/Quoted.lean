import GraphGateway.Text.Printable

/-!
# Texts quoted for people who debug

A text between double quotes in which nothing is invisible or ambiguous: quotes and backslashes are
escaped, the usual control characters have short escapes, and every other character without a form
of its own is written as its code point.
-/

namespace GraphGateway.Text

/-- A number in lowercase hexadecimal digits. -/
def lowerHex (n : Nat) : String := String.ofList (Nat.toDigits 16 n)

/-- The quoted form of one character. -/
def quoteDebugChar (c : Char) : String :=
  if c.toNat = 0 then "\\0"
  else if c = '\t' then "\\t"
  else if c = '\r' then "\\r"
  else if c = '\n' then "\\n"
  else if c = '"' then "\\\""
  else if c = '\\' then "\\\\"
  else if isPrintable c then String.singleton c
  else "\\u\x7b" ++ lowerHex c.toNat ++ "\x7d"

/-- A text in double quotes, with every character in its visible form. -/
def quoteDebug (text : String) : String :=
  "\"" ++ String.join (text.toList.map quoteDebugChar) ++ "\""

/-- An optional text, wrapped in the name of its case. -/
def quoteDebugOption : Option String → String
  | none => "None"
  | some text => "Some(" ++ quoteDebug text ++ ")"

end GraphGateway.Text
