import Pruner.Scan.Segment

/-!
# Brace spans

One pass over a text finds every balanced brace span in it together with the commas at its top
level. Outside all spans nothing is a literal, because the apostrophe of running text opens no
string. A closer of the wrong kind leaves every open bracket unbalanced, and so does a literal that
does not end.
-/

namespace Pruner.Scan

/-- A balanced span from the brace at `start` to the brace at `stop`. -/
structure Span where
  start : Nat
  stop : Nat
  commas : List Nat
  deriving DecidableEq, Repr

namespace Span

def segments (s : Span) : List Segment :=
  Segment.between (s.start + 1) s.commas s.stop

end Span

/-- A bracket that is still open, with the commas found directly inside it, newest first. -/
structure Opening where
  bracket : Bracket
  start : Nat
  commas : List Nat
  deriving DecidableEq, Repr

/-- The open brackets, innermost first. -/
abbrev Nesting := List Opening

namespace Nesting

/-- Length of the literal to pass over: outside all spans there is none. -/
def literalLength (stack : Nesting) (prior : Option Char) (rest : List Char) :
    Except Unterminated Nat :=
  match stack with
  | [] => .ok 0
  | _ :: _ => Scan.literalLength prior rest

/-- Reads one character outside literals, and yields the span that it closes. -/
def step (stack : Nesting) (index : Nat) (c : Char) : Nesting × Option Span :=
  match Bracket.opened? c, Bracket.closed? c, stack with
  | some .brace, _, _ => (⟨.brace, index, []⟩ :: stack, none)
  | some _, _, [] => ([], none)
  | some kind, _, _ :: _ => (⟨kind, index, []⟩ :: stack, none)
  | none, some _, [] => ([], none)
  | none, some kind, top :: outer =>
    if top.bracket ≠ kind then ([], none)
    else if kind = .brace then (outer, some ⟨top.start, index, top.commas.reverse⟩)
    else (outer, none)
  | none, none, [] => ([], none)
  | none, none, top :: outer =>
    if c = ',' then ({ top with commas := index :: top.commas } :: outer, none)
    else (top :: outer, none)

end Nesting

/-- The spans that close in the text that begins at `index`, in the order of their closers. -/
def spansFrom (stack : Nesting) (prior : Option Char) (index : Nat) (rest : List Char) :
    List Span :=
  match rest with
  | [] => []
  | c :: cs =>
    match stack.literalLength prior (c :: cs) with
    | .error _ => []
    | .ok (n + 1) =>
      spansFrom stack (lastSignificant prior (c :: cs.take n)) (index + (n + 1)) (cs.drop n)
    | .ok 0 =>
      let next := stack.step index c
      next.2.toList ++ spansFrom next.1 (lastSignificant prior [c]) (index + 1) cs
termination_by rest.length
decreasing_by
  all_goals simp only [List.length_cons, List.length_drop]
  all_goals omega

/-- Every balanced brace span of a text, in the order of their closers. -/
def spans (text : List Char) : List Span :=
  spansFrom [] none 0 text

end Pruner.Scan
