import Pruner.Scan.Literal

/-!
# Literals at a position

The literals of a text addressed by index, with the two ways in which asking for one can fail.
-/

namespace Pruner.Scan

inductive Fault where
  | outOfRange
  | unterminated (what : Unterminated) (index : Nat)
  deriving DecidableEq, Repr

namespace Fault

def message : Fault → String
  | outOfRange => "string index out of range"
  | unterminated .string index => "unterminated string at " ++ toString index
  | unterminated .comment index => "unterminated comment at " ++ toString index

end Fault

/-- Index after the string opened by whatever character stands at `start`, or `none` when it does
not end. -/
def stringEnd? (text : List Char) (start : Nat) : Except Fault (Option Nat) :=
  match text.drop start with
  | [] => .error .outOfRange
  | quote :: rest => .ok ((stringLength? quote rest).map (start + 1 + ·))

/-- Index after the literal at `start`, which is `start` itself when there is none. -/
def literalEnd (text : List Char) (start : Nat) : Except Fault Nat :=
  match text.drop start with
  | [] => .error .outOfRange
  | c :: rest =>
    match literalLength (lastSignificant none (text.take start)) (c :: rest) with
    | .ok n => .ok (start + n)
    | .error what => .error (.unterminated what start)

end Pruner.Scan
