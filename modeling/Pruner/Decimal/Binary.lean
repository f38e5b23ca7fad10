/-!
# Binary fractions

A finite floating-point number is an integer times a power of two. Digits and comparisons are worked
out on that pair, in exact integer arithmetic.
-/

namespace Pruner.Decimal

def twoTo (n : Nat) : Nat :=
  Nat.pow 2 n

/-- The number `mantissa * 2 ^ exponent`, negated if `negative`. -/
structure Binary where
  negative : Bool
  mantissa : Nat
  exponent : Int
  deriving DecidableEq, Repr

/-- A floating-point number taken apart. -/
inductive Real where
  | finite (value : Binary)
  | infinite (negative : Bool)
  | notANumber
  deriving DecidableEq, Repr

namespace Real

def ofFloat (x : Float) : Real :=
  let bits : Nat := x.toBits.toNat
  let negative := bits / twoTo 63 == 1
  let power : Nat := bits / twoTo 52 % twoTo 11
  let fraction : Nat := bits % twoTo 52
  if power = 2047 then if fraction = 0 then infinite negative else notANumber
  else if power = 0 then finite ⟨negative, fraction, -1074⟩
  else finite ⟨negative, twoTo 52 + fraction, (power : Int) - 1075⟩

end Real

namespace Binary

/-- Numerator and denominator of the absolute value. -/
def fraction (b : Binary) : Nat × Nat :=
  (b.mantissa * twoTo b.exponent.toNat, twoTo (-b.exponent).toNat)

def equalsInt (b : Binary) (n : Int) : Bool :=
  let (num, den) := b.fraction
  let signed : Int := if b.negative then -num else num
  signed == n * den

end Binary

end Pruner.Decimal
