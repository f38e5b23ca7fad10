import Pruner.Scan.Bracket
import Pruner.Scan.Literal

/-!
# The closer of an opening brace

Brackets are counted without regard to their kind, and the one that brings the count back to zero
has to be a brace. The scan starts right after the opening brace, so nothing in front of that brace
has a say in it.
-/

namespace Pruner.Scan

/-- Number of characters in front of the closer, when `depth` brackets have been opened since. -/
def closingFrom? (depth : Nat) (prior : Option Char) (rest : List Char) : Option Nat :=
  match rest with
  | [] => none
  | c :: cs =>
    match literalLength prior (c :: cs) with
    | .error _ => none
    | .ok (n + 1) =>
      (closingFrom? depth (lastSignificant prior (c :: cs.take n)) (cs.drop n)).map (· + (n + 1))
    | .ok 0 =>
      let here := lastSignificant prior [c]
      if (Bracket.opened? c).isSome then (closingFrom? (depth + 1) here cs).map (· + 1)
      else if (Bracket.closed? c).isSome then
        match depth with
        | 0 => if c = '}' then some 0 else none
        | d + 1 => (closingFrom? d here cs).map (· + 1)
      else (closingFrom? depth here cs).map (· + 1)
termination_by rest.length
decreasing_by
  all_goals simp only [List.length_cons, List.length_drop]
  all_goals omega

/-- Number of characters between an opening brace that has just been read and its closer. -/
def innerLength? (rest : List Char) : Option Nat :=
  closingFrom? 0 (some '{') rest

/-- Index of the brace that closes the one at `start`. -/
def closing? (text : List Char) (start : Nat) : Option Nat :=
  match text.drop start with
  | [] => none
  | c :: rest => if c = '{' then (innerLength? rest).map (start + 1 + ·) else none

end Pruner.Scan
