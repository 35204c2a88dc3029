import GraphGateway.Number.Shortest

/-!
# Decimal layouts

How the digits of a decimal are set out: with a decimal point in its place, or in scientific
notation with one digit before the point. A layout says which of the two a number takes and how a
number without a fraction ends.
-/

namespace GraphGateway

namespace Decimal

/-- The digits of a decimal as characters. -/
def digitChars (d : Decimal) : List Char := Nat.toDigits 10 d.digits

/-- The exponent of the first digit. -/
def leadingExponent (d : Decimal) : Int := d.exponent + d.digitChars.length - 1

/-- A decimal with its point in place: zeros fill the gap between the digits and the point. -/
def positional (fraction : String) (d : Decimal) : String :=
  let digits := d.digitChars
  if 0 ≤ d.exponent then
    String.ofList (digits ++ List.replicate d.exponent.toNat '0') ++ fraction
  else
    let places := d.exponent.natAbs
    let padded := List.replicate (places + 1 - digits.length) '0' ++ digits
    let split := padded.length - places
    String.ofList (padded.take split) ++ "." ++ String.ofList (padded.drop split)

/-- A decimal in scientific notation, the sign of the exponent always written. -/
def scientific (d : Decimal) : String :=
  let mantissa := match d.digitChars with
    | [] => ""
    | [first] => String.singleton first
    | first :: rest => String.singleton first ++ "." ++ String.ofList rest
  let sign := if d.leadingExponent < 0 then "-" else "+"
  mantissa ++ "e" ++ sign ++ toString d.leadingExponent.natAbs

end Decimal

/-- The choices that a format leaves open in the text of a finite number. -/
structure NumberLayout where
  /-- What is taken between two equally near shortest decimals. -/
  tie : TieRule
  /-- What follows the digits of a number without a fraction. -/
  wholeEnding : String
  /-- Whether a number whose first digit has this exponent is written with its point in place. -/
  isPositional : Int → Bool

/-- The text of a finite number in a layout. -/
def NumberLayout.render (layout : NumberLayout) (x : Binary64) : String :=
  let d := Decimal.shortest layout.tie x
  let sign := if x.isNegative then "-" else ""
  if layout.isPositional d.leadingExponent then sign ++ d.positional layout.wholeEnding
  else sign ++ d.scientific

end GraphGateway
