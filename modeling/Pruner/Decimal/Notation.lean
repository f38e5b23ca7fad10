import Pruner.Decimal.Shortest

/-!
# Decimal notation

How the digits of a number are laid out: with a point among them or with an exponent behind them.
-/

namespace Pruner.Decimal

/-- The decisions of a notation. A number with `p` digits in front of its decimal point is written
positionally if `lowest < p ≤ highest`. -/
structure Notation where
  lowest : Int
  highest : Int
  exponentDigits : Nat
  infinity : String
  notANumber : String

namespace Notation

def zeros (n : Nat) : String :=
  String.ofList (List.replicate n '0')

def padded (width n : Nat) : String :=
  let digits := toString n
  zeros (width - digits.length) ++ digits

def positional (digits : String) (point : Int) : String :=
  if point ≤ 0 then "0." ++ zeros (-point).toNat ++ digits
  else
    let n := point.toNat
    if digits.length ≤ n then digits ++ zeros (n - digits.length) ++ ".0"
    else String.ofList (digits.toList.take n) ++ "." ++ String.ofList (digits.toList.drop n)

def exponential (f : Notation) (digits : String) (point : Int) : String :=
  let mark := if point ≤ 0 then "e-" else "e+"
  let tail := String.ofList (digits.toList.drop 1)
  String.ofList (digits.toList.take 1) ++ (if tail = "" then "" else "." ++ tail) ++ mark ++
    padded f.exponentDigits (point - 1).natAbs

def unsigned (f : Notation) (b : Binary) : String :=
  if b.mantissa = 0 then "0.0"
  else
    let s := shortest b
    let digits := toString s.digits
    let point := digits.length + s.exponent
    if f.lowest < point ∧ point ≤ f.highest then positional digits point
    else f.exponential digits point

def write (f : Notation) (x : Float) : String :=
  match Real.ofFloat x with
  | .finite b => (if b.negative then "-" else "") ++ f.unsigned b
  | .infinite negative => (if negative then "-" else "") ++ f.infinity
  | .notANumber => f.notANumber

end Notation

end Pruner.Decimal
