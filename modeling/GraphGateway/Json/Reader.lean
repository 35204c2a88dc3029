import GraphGateway.Json.Basic

/-!
# Reading JSON text

The document that a text writes. A number without fraction and exponent is an integer as long as it
fits into 64 bits, signed or not, and is not a negative zero; every other number is the nearest
double-precision one. The number of characters bounds the depth and the number of parts, so that it
serves as the bound of the recursion.
-/

namespace GraphGateway.Json

/-- The value of a hexadecimal digit. -/
def hexValue? (c : Char) : Option Nat :=
  if '0' ≤ c && c ≤ '9' then some (c.toNat - '0'.toNat)
  else if 'a' ≤ c && c ≤ 'f' then some (c.toNat - 'a'.toNat + 10)
  else if 'A' ≤ c && c ≤ 'F' then some (c.toNat - 'A'.toNat + 10)
  else none

/-- The number that hexadecimal digits write. -/
def hexNumber? (digits : List Char) : Option Nat :=
  digits.foldlM (fun n c => (hexValue? c).map (16 * n + ·)) 0

/-- The number that decimal digits write. -/
def decimalNumber (digits : List Char) : Nat :=
  digits.foldl (fun n c => 10 * n + (c.toNat - '0'.toNat)) 0

/-- A text without the blanks at its start. -/
def skipBlanks (text : List Char) : List Char :=
  text.dropWhile fun c => c = ' ' || c = '\n' || c = '\r' || c = '\t'

/-- The code point of the two halves in which UTF-16 writes it. -/
def joinHalves? (high low : Nat) : Option Char :=
  if 0xd800 ≤ high && high < 0xdc00 && 0xdc00 ≤ low && low < 0xe000 then
    some (Char.ofNat (0x10000 + (high - 0xd800) * 0x400 + (low - 0xdc00)))
  else none

/-- The code point that a half makes with an escaped half at the start of a text. -/
def joinedWith? (high : Nat) : List Char → Option Char
  | '\\' :: 'u' :: a :: b :: c :: d :: _ => (hexNumber? [a, b, c, d]).bind (joinHalves? high)
  | _ => none

/-- The character that a one-letter escape stands for. -/
def shortEscape (c : Char) : Char :=
  match c with
  | 'n' => '\n'
  | 't' => '\t'
  | 'r' => '\r'
  | 'b' => Char.ofNat 8
  | 'f' => Char.ofNat 12
  | other => other

/-- Reads a string behind its opening quote; what is read so far comes in reverse. -/
def readString (read : List Char) : List Char → Option (String × List Char)
  | '"' :: rest => some (String.ofList read.reverse, rest)
  | '\\' :: 'u' :: a :: b :: c :: d :: rest =>
    match hexNumber? [a, b, c, d] with
    | none => none
    | some n => match joinedWith? n rest with
      | some joined => readString (joined :: read) (rest.drop 6)
      | none => readString (Char.ofNat n :: read) rest
  | '\\' :: c :: rest => readString (shortEscape c :: read) rest
  | c :: rest => readString (c :: read) rest
  | [] => none
termination_by text => text.length
decreasing_by all_goals simp [List.length_drop] <;> omega

/-- The exponent that stands behind the digits of a number, none if there is something else. -/
def exponent? : List Char → Option Int
  | [] => some 0
  | e :: rest =>
    if e ≠ 'e' && e ≠ 'E' then none
    else match rest with
      | '-' :: digits => some (-(decimalNumber digits : Int))
      | '+' :: digits => some (decimalNumber digits)
      | digits => some (decimalNumber digits)

/-- The number that a word writes. -/
def number? (word : List Char) : Option Json :=
  let (negative, unsigned) := match word with
    | '-' :: rest => (true, rest)
    | rest => (false, rest)
  let whole := unsigned.takeWhile Char.isDigit
  let afterWhole := unsigned.dropWhile Char.isDigit
  let (fraction, afterFraction) := match afterWhole with
    | '.' :: rest => (rest.takeWhile Char.isDigit, rest.dropWhile Char.isDigit)
    | rest => ([], rest)
  if whole.isEmpty then none
  else (exponent? afterFraction).map fun exponent =>
    let value : Int := if negative then -(decimalNumber whole : Int) else decimalNumber whole
    if afterWhole.isEmpty && !(negative && value = 0) && Int64.minValue.toInt ≤ value &&
        value < UInt64.size then
      integer value
    else
      double (Binary64.ofDecimal negative (decimalNumber (whole ++ fraction))
        (exponent - fraction.length))

/-- Whether a character may be part of a number. -/
def isNumberChar (c : Char) : Bool :=
  c.isDigit || c = '-' || c = '+' || c = '.' || c = 'e' || c = 'E'

mutual

/-- Reads a value. -/
def readValue : Nat → List Char → Option (Json × List Char)
  | 0, _ => none
  | fuel + 1, text =>
    match skipBlanks text with
    | 'n' :: 'u' :: 'l' :: 'l' :: rest => some (null, rest)
    | 't' :: 'r' :: 'u' :: 'e' :: rest => some (bool true, rest)
    | 'f' :: 'a' :: 'l' :: 's' :: 'e' :: rest => some (bool false, rest)
    | '"' :: rest => (readString [] rest).map fun (text, rest) => (string text, rest)
    | '[' :: rest => match skipBlanks rest with
      | ']' :: rest => some (array [], rest)
      | rest => readItems fuel [] rest
    | '\x7b' :: rest => match skipBlanks rest with
      | '\x7d' :: rest => some (object [], rest)
      | rest => readMembers fuel [] rest
    | rest => (number? (rest.takeWhile isNumberChar)).map fun number =>
        (number, rest.dropWhile isNumberChar)

/-- Reads the items of an array up to its end; those read so far come in reverse. -/
def readItems : Nat → List Json → List Char → Option (Json × List Char)
  | 0, _, _ => none
  | fuel + 1, read, text => do
    let (item, rest) ← readValue fuel text
    match skipBlanks rest with
    | ',' :: rest => readItems fuel (item :: read) rest
    | ']' :: rest => some (array (item :: read).reverse, rest)
    | _ => none

/-- Reads the members of an object up to its end; those read so far come in reverse. -/
def readMembers : Nat → List (String × Json) → List Char → Option (Json × List Char)
  | 0, _, _ => none
  | fuel + 1, read, text =>
    match skipBlanks text with
    | '"' :: rest => do
      let (key, rest) ← readString [] rest
      match skipBlanks rest with
      | ':' :: rest =>
        let (value, rest) ← readValue fuel rest
        match skipBlanks rest with
        | ',' :: rest => readMembers fuel ((key, value) :: read) rest
        | '\x7d' :: rest => some (ofMembers ((key, value) :: read).reverse, rest)
        | _ => none
      | _ => none
    | _ => none

end

/-- The document that a text writes. -/
def ofText? (text : String) : Option Json :=
  match readValue (text.length + 1) text.toList with
  | some (document, rest) => if (skipBlanks rest).isEmpty then some document else none
  | none => none

end GraphGateway.Json
