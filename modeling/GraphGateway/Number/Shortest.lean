import GraphGateway.Number.Binary64

/-!
# The shortest decimal that reads back

Among the decimals that round to a given finite number, those with the fewest digits, and of those
the one nearest to the number. The search goes through the decimal grids from coarse to fine; on
each grid only the two neighbours of the number can be the nearest that reads back, so the first
grid on which one of them does gives the answer.
-/

namespace GraphGateway

/-- A decimal `digits * 10 ^ exponent`. -/
structure Decimal where
  digits : Nat
  exponent : Int
  deriving DecidableEq, Repr

/-- What is taken when a number lies exactly between two shortest decimals. -/
inductive TieRule where
  | toEven
  | up
  deriving DecidableEq, Repr

namespace Decimal

/-- The same decimal without zeros at the end of its digits, given enough rounds. -/
def stripZeros : Nat → Decimal → Decimal
  | 0, d => d
  | rounds + 1, d =>
    if d.digits ≠ 0 ∧ d.digits % 10 = 0 then stripZeros rounds ⟨d.digits / 10, d.exponent + 1⟩
    else d

/-- The largest exponent of ten that is at most a positive quotient, searched upward from below. -/
def decimalExponent (numerator denominator : Nat) : Nat → Int → Int
  | 0, guess => guess
  | rounds + 1, guess =>
    let next := guess + 1
    if denominator * Nat.pow 10 next.toNat ≤ numerator * Nat.pow 10 (-next).toNat then
      decimalExponent numerator denominator rounds next
    else guess

/-- The reals that round to a number, over one denominator: the number itself, the two ends, and
whether the ends belong to it. -/
structure Interval where
  low : Nat
  value : Nat
  high : Nat
  denominator : Nat
  closed : Bool

/-- The interval of a positive finite number. Half the distance to each neighbour belongs to the
number; the distance downward is half as long at a power of two, and the ends belong to the number
when its significand is even. -/
def Interval.of (x : Binary64) : Interval :=
  let m := x.significand
  let up := Nat.pow 2 (x.exponent - 2).toNat
  let narrow := m = Nat.pow 2 52 ∧ x.exponent > -1074
  { low := (4 * m - if narrow then 1 else 2) * up
    value := 4 * m * up
    high := (4 * m + 2) * up
    denominator := Nat.pow 2 (2 - x.exponent).toNat
    closed := m % 2 = 0 }

/-- The neighbour of a number on the grid of multiples of `10 ^ exponent` that lies in its
interval, the nearer one if both do. -/
def Interval.onGrid (interval : Interval) (tie : TieRule) (exponent : Int) : Option Nat :=
  let scale := Nat.pow 10 (-exponent).toNat
  let unit := interval.denominator * Nat.pow 10 exponent.toNat
  let below := interval.value * scale / unit
  let rest := interval.value * scale % unit
  let belowFits :=
    if interval.closed then interval.low * scale ≤ below * unit
    else interval.low * scale < below * unit
  let aboveFits :=
    if interval.closed then (below + 1) * unit ≤ interval.high * scale
    else (below + 1) * unit < interval.high * scale
  let preferBelow : Bool :=
    if 2 * rest = unit then tie = .toEven && below % 2 = 0 else 2 * rest < unit
  if belowFits ∧ aboveFits then some (if preferBelow then below else below + 1)
  else if belowFits then some below
  else if aboveFits then some (below + 1)
  else none

/-- The first grid, from the given exponent downward, on which a neighbour reads back. -/
def Interval.search (interval : Interval) (tie : TieRule) : Nat → Int → Decimal
  | 0, exponent => ⟨0, exponent⟩
  | rounds + 1, exponent =>
    match interval.onGrid tie exponent with
    | some digits => ⟨digits, exponent⟩
    | none => interval.search tie rounds (exponent - 1)

/-- The shortest decimal that reads back as the magnitude of a finite number. Seventeen digits are
always enough, and the logarithm guessed from the bit lengths is at most two too small. -/
def shortest (tie : TieRule) (x : Binary64) : Decimal :=
  if x.significand = 0 then ⟨0, 0⟩
  else
    let interval := Interval.of x
    let bits : Int := (interval.value.log2 : Int) - interval.denominator.log2
    let first :=
      decimalExponent interval.value interval.denominator 4 ((bits - 1) * 30103 / 100000 - 1)
    stripZeros 20 (interval.search tie 18 first)

end Decimal

end GraphGateway
