import GraphGateway.Number.Binary64

/-!
# Numbers in YAML scalars

Which plain scalars read as integers, as double-precision numbers, as booleans and as null. Digits
after a leading zero are no number.
-/

namespace GraphGateway.Yaml

/-- The value of a digit in a base up to sixteen. -/
def digitIn? (base : Nat) (c : Char) : Option Nat :=
  let value :=
    if '0' ≤ c && c ≤ '9' then c.toNat - '0'.toNat
    else if 'a' ≤ c && c ≤ 'f' then c.toNat - 'a'.toNat + 10
    else if 'A' ≤ c && c ≤ 'F' then c.toNat - 'A'.toNat + 10
    else base
  if value < base then some value else none

/-- The natural number that digits write in a base. -/
def digits? (base : Nat) (digits : List Char) : Option Nat :=
  if digits.isEmpty then none
  else digits.foldlM (fun n c => (base * n + ·) <$> digitIn? base c) 0

/-- Whether a character is a sign. -/
def isSign (c : Char) : Bool := c = '+' || c = '-'

/-- A text without one plus sign at its start. -/
def dropPlus : List Char → List Char
  | '+' :: rest => rest
  | text => text

/-- Whether a text is a zero followed by further digits, perhaps after a sign. -/
def hasLeadingZero (text : List Char) : Bool :=
  match (match text with
    | c :: rest => if isSign c then rest else text
    | [] => []) with
  | '0' :: c :: rest => (c :: rest).all Char.isDigit
  | _ => false

/-- The base and the digits of a number that names its base. -/
def based? : List Char → Option (Nat × List Char)
  | '0' :: 'x' :: digits => some (16, digits)
  | '0' :: 'o' :: digits => some (8, digits)
  | '0' :: 'b' :: digits => some (2, digits)
  | _ => none

/-- The integer without a minus sign that a text writes. -/
def natural? (text : List Char) : Option Nat :=
  let unsigned := dropPlus text
  match based? unsigned with
  | some (base, digits) => digits? base digits
  | none => if hasLeadingZero text then none else digits? 10 unsigned

/-- The integer with a minus sign that a text writes. -/
def negative? : List Char → Option Int
  | '-' :: magnitude =>
    let value? := match based? magnitude with
      | some (base, digits) => digits? base digits
      | none => if hasLeadingZero magnitude then none else digits? 10 magnitude
    value?.map fun n => -(n : Int)
  | _ => none

/-- The integer that a text writes. -/
def integer? (text : List Char) : Option Int :=
  match natural? text with
  | some n => some n
  | none => negative? text

/-- The spellings of null. -/
def isNull (text : String) : Bool := ["null", "Null", "NULL", "~"].contains text

/-- The spellings of the booleans. -/
def isBoolean (text : String) : Bool :=
  ["true", "True", "TRUE", "false", "False", "FALSE"].contains text

/-- The spellings of infinities and of NaN. -/
def isSpecialFloat (text : String) : Bool :=
  [".inf", ".Inf", ".INF", "+.inf", "+.Inf", "+.INF", "-.inf", "-.Inf", "-.INF",
    ".nan", ".NaN", ".NAN"].contains text

/-- Whether a text writes a finite decimal: digits, perhaps with a point among them or at either
end, and perhaps an exponent. -/
def isDecimal (text : List Char) : Bool :=
  let unsigned := match text with
    | c :: rest => if isSign c then rest else text
    | [] => []
  let whole := unsigned.takeWhile Char.isDigit
  let afterWhole := unsigned.dropWhile Char.isDigit
  let (fraction, afterFraction) := match afterWhole with
    | '.' :: rest => (rest.takeWhile Char.isDigit, rest.dropWhile Char.isDigit)
    | rest => ([], rest)
  let exponent? : Option Int := match afterFraction with
    | [] => some 0
    | c :: rest =>
      if c = 'e' || c = 'E' then match rest with
        | '-' :: digits => (digits? 10 digits).map fun n => -(n : Int)
        | digits => (digits? 10 (dropPlus digits)).map fun n => (n : Int)
      else none
  match digits? 10 (whole ++ fraction), exponent? with
  | some digits, some exponent =>
    (Binary64.ofDecimal false digits (exponent - fraction.length)).isFinite
  | _, _ => false

/-- Whether a plain scalar with this text would read as something other than a text. -/
def readsAsOther (text : String) : Bool :=
  let chars := text.toList
  let inRange : Bool := match integer? chars with
    | some n => -(Nat.pow 2 127 : Nat) ≤ n && n < (Nat.pow 2 128 : Nat)
    | none => false
  text.isEmpty || isNull text || isBoolean text || inRange || isSpecialFloat text ||
    (!hasLeadingZero chars && isDecimal chars)

end GraphGateway.Yaml
