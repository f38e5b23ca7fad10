import Pruner.Decimal.Binary

/-!
# Shortest decimals

The fewest decimal digits that read back to a given binary fraction. The numbers that round to the
fraction form an interval around it, whose ends belong to it exactly when the mantissa is even. For
each number of digits, the two neighbours of the fraction on that decimal grid are tried.
-/

namespace Pruner.Decimal

def tenTo (n : Nat) : Nat :=
  Nat.pow 10 n

/-- The number `digits * 10 ^ exponent`. -/
structure Scientific where
  digits : Nat
  exponent : Int
  deriving DecidableEq, Repr

namespace Scientific

/-- Numerator and denominator. -/
def fraction (s : Scientific) : Nat × Nat :=
  (s.digits * tenTo s.exponent.toNat, tenTo (-s.exponent).toNat)

/-- Drops trailing zeros, at most `fuel` of them. -/
def normalize (fuel : Nat) (s : Scientific) : Scientific :=
  match fuel with
  | 0 => s
  | fuel + 1 =>
    if s.digits ≠ 0 ∧ s.digits % 10 = 0 then normalize fuel ⟨s.digits / 10, s.exponent + 1⟩ else s

end Scientific

/-- The interval of numbers that round to a binary fraction, in quarters of its last place. -/
structure Neighbourhood where
  low : Nat
  middle : Nat
  high : Nat
  closed : Bool
  exponent : Int

namespace Neighbourhood

/-- Below a power of two the next smaller number is only half as far away. -/
def of (b : Binary) : Neighbourhood :=
  { low := if b.mantissa = twoTo 52 ∧ b.exponent > -1074 then 4 * b.mantissa - 1
      else 4 * b.mantissa - 2
    middle := 4 * b.mantissa
    high := 4 * b.mantissa + 2
    closed := b.mantissa % 2 = 0
    exponent := b.exponent - 2 }

/-- Numerators of `n` quarters and of the decimal over one common denominator. -/
def compared (h : Neighbourhood) (n : Nat) (s : Scientific) : Nat × Nat :=
  let (num, den) := s.fraction
  (n * twoTo h.exponent.toNat * den, num * twoTo (-h.exponent).toNat)

def contains (h : Neighbourhood) (s : Scientific) : Bool :=
  let (low, value) := h.compared h.low s
  let (high, _) := h.compared h.high s
  if h.closed then low ≤ value && value ≤ high else low < value && value < high

/-- Distance of the decimal from the middle, in units that depend on its exponent only. -/
def distance (h : Neighbourhood) (s : Scientific) : Nat :=
  let (middle, value) := h.compared h.middle s
  if middle ≤ value then value - middle else middle - value

/-- The neighbour of the middle on the grid of `10 ^ exponent` that reads back, the nearer one if
both do, and at equal distance the even one. -/
def onGrid? (h : Neighbourhood) (exponent : Int) : Option Scientific :=
  let (middle, unit) := h.compared h.middle ⟨1, exponent⟩
  let below : Scientific := ⟨middle / unit, exponent⟩
  let above : Scientific := ⟨middle / unit + 1, exponent⟩
  match h.contains below, h.contains above with
  | true, true =>
    if h.distance below < h.distance above then some below
    else if h.distance above < h.distance below then some above
    else if below.digits % 2 = 0 then some below
    else some above
  | true, false => some below
  | false, true => some above
  | false, false => none

end Neighbourhood

/-- The number of digits in front of the decimal point; zero or less for numbers below a tenth. -/
def magnitude (b : Binary) : Int :=
  let (num, den) := b.fraction
  if den ≤ num then (toString (num / den)).length
  else 1 - (toString ((den + num - 1) / num - 1)).length

/-- The shortest decimal that reads back to a fraction other than zero. Seventeen digits always
do. -/
def shortest (b : Binary) : Scientific :=
  let h := Neighbourhood.of b
  let grids := (List.range 18).map fun (n : Nat) => magnitude b - n
  match grids.findSome? h.onGrid? with
  | some s => s.normalize 20
  | none => ⟨0, 0⟩

end Pruner.Decimal
