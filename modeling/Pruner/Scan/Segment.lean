import Pruner.Scan.Bracket
import Pruner.Scan.Position

/-!
# Segments

A stretch of text is split at its commas outside literals and brackets. A closer without opener
takes the depth below zero, and a literal may run past the end of the stretch.
-/

namespace Pruner.Scan

/-- The text from `start` up to but not including `stop`. -/
structure Segment where
  start : Nat
  stop : Nat
  deriving DecidableEq, Repr

namespace Segment

def slice (text : List Char) (s : Segment) : List Char :=
  (text.drop s.start).take (s.stop - s.start)

/-- The segments from `start` to `stop` that the given separators, one character each, leave. -/
def between (start : Nat) (separators : List Nat) (stop : Nat) : List Segment :=
  match separators with
  | [] => [⟨start, stop⟩]
  | p :: ps => ⟨start, p⟩ :: between (p + 1) ps stop

@[simp] theorem between_nil (start stop : Nat) : between start [] stop = [⟨start, stop⟩] := rfl

@[simp] theorem between_cons (start p : Nat) (ps : List Nat) (stop : Nat) :
    between start (p :: ps) stop = ⟨start, p⟩ :: between (p + 1) ps stop := rfl

end Segment

/-- A character outside literals, with its index. -/
structure Visit where
  index : Nat
  char : Char
  deriving DecidableEq, Repr

/-- The characters outside literals in the text that begins at `index`, up to `stop`. -/
def visits (prior : Option Char) (index stop : Nat) (rest : List Char) :
    Except Fault (List Visit) :=
  if stop ≤ index then .ok []
  else match rest with
    | [] => .error .outOfRange
    | c :: cs =>
      match literalLength prior (c :: cs) with
      | .error what => .error (.unterminated what index)
      | .ok (n + 1) =>
        visits (lastSignificant prior (c :: cs.take n)) (index + (n + 1)) stop (cs.drop n)
      | .ok 0 =>
        (visits (lastSignificant prior [c]) (index + 1) stop cs).map (⟨index, c⟩ :: ·)
termination_by rest.length
decreasing_by
  all_goals simp only [List.length_cons, List.length_drop]
  all_goals omega

/-- How a character changes the depth. -/
def depthChange (c : Char) : Int :=
  if (Bracket.opened? c).isSome then 1
  else if (Bracket.closed? c).isSome then -1
  else 0

/-- Indices of the commas met at depth zero. -/
def topCommas (depth : Int) : List Visit → List Nat
  | [] => []
  | v :: vs =>
    let here := depth + depthChange v.char
    if v.char = ',' ∧ here = 0 then v.index :: topCommas here vs else topCommas here vs

@[simp] theorem topCommas_nil (depth : Int) : topCommas depth [] = [] := rfl

/-- Splits the text from `start` to `stop` at its top-level commas. -/
def segments (text : List Char) (start stop : Nat) : Except Fault (List Segment) :=
  (visits (lastSignificant none (text.take start)) start stop (text.drop start)).map
    fun vs => Segment.between start (topCommas 0 vs) stop

end Pruner.Scan
