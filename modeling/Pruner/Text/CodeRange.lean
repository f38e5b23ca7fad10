/-!
# Ranges of code points

Properties of characters that a standard lists as ranges are kept as lists of closed ranges.
-/

namespace Pruner.Text

/-- All code points from `first` to `last`, both included. -/
structure CodeRange where
  first : Nat
  last : Nat

namespace CodeRange

def contains (r : CodeRange) (n : Nat) : Bool :=
  r.first ≤ n && n ≤ r.last

end CodeRange

def inRanges (ranges : List CodeRange) (c : Char) : Bool :=
  ranges.any (·.contains c.toNat)

end Pruner.Text
