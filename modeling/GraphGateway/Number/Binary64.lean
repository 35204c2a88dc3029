/-!
# Double-precision numbers

A number of the IEEE 754 format binary64, held as its 64 bits: a sign, eleven bits of exponent and
fifty-two of fraction. A finite number is `± significand * 2 ^ exponent`. Everything is arithmetic
on natural numbers, so the same definitions run and can be reasoned about.
-/

namespace GraphGateway

/-- A double-precision number, given by its bits. -/
structure Binary64 where
  bits : UInt64
  deriving DecidableEq, Repr

namespace Binary64

/-- Whether the sign bit is set. -/
def isNegative (x : Binary64) : Bool := Nat.pow 2 63 ≤ x.bits.toNat

/-- The stored exponent: 0 for zeros and subnormal numbers, 2047 for infinities and NaN. -/
def exponentField (x : Binary64) : Nat := x.bits.toNat / Nat.pow 2 52 % 2048

/-- The stored fraction. -/
def fractionField (x : Binary64) : Nat := x.bits.toNat % Nat.pow 2 52

/-- Whether the number is neither infinite nor NaN. -/
def isFinite (x : Binary64) : Bool := x.exponentField != 2047

/-- Whether the bits stand for no number. -/
def isNaN (x : Binary64) : Bool := x.exponentField == 2047 && x.fractionField != 0

/-- Whether the number is one of the two zeros. -/
def isZero (x : Binary64) : Bool := x.exponentField == 0 && x.fractionField == 0

/-- The integer that a power of two scales to the magnitude of a finite number. -/
def significand (x : Binary64) : Nat :=
  if x.exponentField = 0 then x.fractionField else x.fractionField + Nat.pow 2 52

/-- The exponent of the power of two that scales the significand. -/
def exponent (x : Binary64) : Int := (max x.exponentField 1 : Nat) - 1075

/-- Numeric equality: NaN differs from everything, the two zeros are equal. -/
def equal (x y : Binary64) : Bool :=
  !x.isNaN && !y.isNaN && (x == y || (x.isZero && y.isZero))

/-- The quotient of two natural numbers, rounded to the nearest one, a half to the even one. -/
def roundDiv (numerator denominator : Nat) : Nat :=
  let quotient := numerator / denominator
  let remainder := numerator % denominator
  if 2 * remainder < denominator then quotient
  else if 2 * remainder > denominator then quotient + 1
  else quotient + quotient % 2

/-- The finite magnitude nearest to a quotient of positive numbers, as bits without a sign; a
magnitude beyond the largest number becomes infinity.

The exponent is chosen so that the significand has 53 bits, or is the smallest one. A significand
that rounds up to 54 bits carries into the exponent by itself. -/
def magnitudeBits (numerator denominator : Nat) : Nat :=
  let guess : Int := (numerator.log2 : Int) - denominator.log2 - 52
  let fits : Bool :=
    denominator * Nat.pow 2 (guess + 52).toNat ≤ numerator * Nat.pow 2 (-(guess + 52)).toNat
  let scale : Int := max (if fits then guess else guess - 1) (-1074)
  let significand :=
    roundDiv (numerator * Nat.pow 2 (-scale).toNat) (denominator * Nat.pow 2 scale.toNat)
  min ((scale + 1074).toNat * Nat.pow 2 52 + significand) (2047 * Nat.pow 2 52)

/-- The number nearest to `± digits * 10 ^ exponent`. Exponents far outside the range of the format
are cut, which does not change the result: such a number is infinite or zero. -/
def ofDecimal (negative : Bool) (digits : Nat) (exponent : Int) : Binary64 :=
  let sign := if negative then Nat.pow 2 63 else 0
  let magnitude :=
    if digits = 0 then 0
    else
      let size : Int := ((Nat.toDigits 10 digits).length : Int) + exponent
      if size > 400 then 2047 * Nat.pow 2 52
      else if size < -400 then 0
      else magnitudeBits (digits * Nat.pow 10 exponent.toNat) (Nat.pow 10 (-exponent).toNat)
  ⟨UInt64.ofNat (sign + magnitude)⟩

/-- The number nearest to an integer. -/
def ofInt (n : Int) : Binary64 := ofDecimal (n < 0) n.natAbs 0

end Binary64

end GraphGateway
