import Pruner.Text.Blank
import Pruner.Text.Quoted

/-!
# Attribute assignments

An assignment is a run of blanks, a name, an equals sign and a value, with blanks allowed around the
equals sign. The name is compared character by character and may itself begin with blanks, so the
run in front of it is taken as long as possible and shortened only where that fails.
-/

namespace Pruner.Assignment

open Text

/-- Length of the kind of value that starts a text. -/
abbrev ValueKind := List Char → Option Nat

/-- A value in quotes. -/
def quoted : ValueKind
  | [] => none
  | c :: cs => if isValueQuote c then (quotedLength? c cs).map (· + 1) else none

/-- The opening brace of an expression, which alone does not tell where the value ends. -/
def openBrace : ValueKind
  | '{' :: _ => some 1
  | _ => none

/-- Length of a name, equals sign and value at the start of a text. -/
def bodyLength? (kind : ValueKind) (name rest : List Char) : Option Nat :=
  if name.isPrefixOf rest then
    let behind := rest.drop name.length
    let gap := blanks behind
    match behind.drop gap with
    | '=' :: right =>
      (kind (right.drop (blanks right))).map (name.length + gap + 1 + blanks right + ·)
    | _ => none
  else none

/-- An assignment: `lead` blanks and then `body` characters from the name to the end of the value. -/
structure Match where
  lead : Nat
  body : Nat
  lead_pos : 0 < lead

/-- The assignment at the start of a text, with the longest lead that gives one. -/
def matchAt? (kind : ValueKind) (name : List Char) : List Char → Option Match
  | [] => none
  | c :: cs =>
    if isBlank c then
      match matchAt? kind name cs with
      | some m => some ⟨m.lead + 1, m.body, Nat.succ_pos _⟩
      | none => (bodyLength? kind name cs).map fun n => ⟨1, n, Nat.one_pos⟩
    else none

/-- The first assignment in a text, with the number of characters in front of it. -/
def find? (kind : ValueKind) (name : List Char) : List Char → Option (Nat × Match)
  | [] => none
  | c :: cs =>
    ((matchAt? kind name (c :: cs)).map (0, ·)).orElse fun _ =>
      (find? kind name cs).map fun (n, m) => (n + 1, m)

theorem find?_ne_nil {kind : ValueKind} {name rest : List Char} {r : Nat × Match}
    (h : find? kind name rest = some r) : rest ≠ [] := by
  rintro rfl
  simp [find?] at h

end Pruner.Assignment
