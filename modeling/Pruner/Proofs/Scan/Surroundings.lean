import Pruner.Proofs.Scan.Traversal

/-!
# A span and its surroundings

The search for a closer looks back from every slash for what stands in front of it, and ahead for the end
of a regular expression or a comment. Every look back stops at the brace where the search began, so the
text in front of that brace has no say. The text behind the closer has none either: a literal that ends
inside the span also ends there when that text is cut off. So a span has the same closer and shows the
same characters wherever it stands.
-/

namespace Pruner.Scan

namespace Visit

/-- The same character when the text has `n` more characters in front. -/
def shift (n : Nat) (v : Visit) : Visit :=
  ⟨n + v.index, v.char⟩

end Visit

theorem Fragment.visits_add (F : Fragment) (n index : Nat) :
    F.visits (n + index) = (F.visits index).map (Visit.shift n) := by
  induction F generalizing index with
  | nil => rfl
  | literal s rest ih => rw [visits, visits, Nat.add_assoc, ih]
  | plain c rest ih =>
      rw [visits, visits, List.map_cons, Nat.add_assoc, ih]
      rfl
  | group a b inner rest ihi ihr =>
      have hclose : n + index + 1 + inner.text.length = n + (index + 1 + inner.text.length) := by
        omega
      rw [visits, visits, hclose, Nat.add_assoc n index, Nat.add_assoc n, ihi, ihr]
      simp [Visit.shift]

section Spans

variable {text tail : List Char} {start : Nat} {F : Fragment}

theorem closing?_drop (text : List Char) (start : Nat) :
    closing? text start = (closing? (text.drop start) 0).map (start + ·) := by
  rw [closing?, closing?, List.drop_zero]
  cases text.drop start with
  | nil => rfl
  | cons c rest =>
      dsimp only
      split_ifs
      · rw [Option.map_map]
        congr 1
        funext n
        simp only [Function.comp_apply]
        omega
      · rfl

/-- The span that begins a text is read the same way when what stands behind it is cut off. -/
theorem span_alone (hdrop : text.drop start = '{' :: (F.text ++ '}' :: tail))
    (hF : F.Reads (some '{') ('}' :: tail)) :
    (text.drop start).take (F.text.length + 2) = '{' :: (F.text ++ ['}']) ∧
      F.Reads (some '{') ['}'] := by
  constructor
  · rw [hdrop, List.take_succ_cons, List.take_length_add_append]
    rfl
  · have hcut : F.Reads (some '{') (['}'] ++ tail) := hF
    exact hcut.of_append (by simp)

theorem walk_shift (hdrop : text.drop start = '{' :: (F.text ++ '}' :: tail))
    (hF : F.Reads (some '{') ('}' :: tail)) :
    walk text start (start + 1 + F.text.length + 1) =
      .ok (((⟨0, '{'⟩ : Visit) :: (F.visits 1 ++ [⟨1 + F.text.length, '}'⟩])).map
        (Visit.shift start)) := by
  rw [walk_span ⟨rfl, hdrop⟩ hF, F.visits_add start 1]
  simp [Visit.shift, Nat.add_assoc]

end Spans

/-- The closer of a brace is found in the text that begins at the brace as in the whole text, though the
search looks back, and it is found in the span alone. In all three the walk over the span meets the same
characters outside literals. -/
theorem closing_surroundings (text : List Char) (o : Nat) :
    closingAt text o = (closingAt (text.drop o) 0).map (Option.map (o + ·)) ∧
    (∀ c, closing? text o = some c ↔ o ≤ c ∧ closing? (text.drop o) 0 = some (c - o)) ∧
    (closing? text o = none ↔ closing? (text.drop o) 0 = none) ∧
    ∀ c, closing? text o = some c →
      closing? ((text.drop o).take (c + 1 - o)) 0 = some (c - o) ∧
      closingAt ((text.drop o).take (c + 1 - o)) 0 = .ok (some (c - o)) ∧
      ∃ vs, walk text o (c + 1) = .ok (vs.map (Visit.shift o)) ∧
        walk (text.drop o) 0 (c + 1 - o) = .ok vs ∧
        walk ((text.drop o).take (c + 1 - o)) 0 (c + 1 - o) = .ok vs := by
  have hleft := closing?_drop text o
  refine ⟨?_, ?_, ?_, ?_⟩
  · rw [closingAt_eq, closingAt_eq, hleft]
    rfl
  · intro c
    rw [hleft, Option.map_eq_some_iff]
    constructor
    · rintro ⟨n, hn, rfl⟩
      exact ⟨by omega, by rwa [Nat.add_sub_cancel_left]⟩
    · rintro ⟨hle, hc⟩
      exact ⟨c - o, hc, by omega⟩
  · rw [hleft, Option.map_eq_none_iff]
  · intro c hc
    obtain ⟨F, tail, hdrop, hF, rfl⟩ := closing?_eq_some_iff.mp hc
    obtain ⟨htake, hcut⟩ := span_alone hdrop hF
    have hstop : o + 1 + F.text.length + 1 - o = 0 + 1 + F.text.length + 1 := by omega
    have hlength : 0 + 1 + F.text.length + 1 = F.text.length + 2 := by omega
    have hinner : o + 1 + F.text.length - o = 0 + 1 + F.text.length := by omega
    have hclosed : closing? ('{' :: (F.text ++ ['}'])) 0 = some (0 + 1 + F.text.length) :=
      closing?_eq_some_iff.mpr ⟨F, [], rfl, hcut, rfl⟩
    rw [hstop, hinner, closingAt_eq, hlength, htake, hclosed]
    refine ⟨rfl, rfl, _, walk_shift hdrop hF, ?_, ?_⟩
    · rw [← hlength, hdrop]
      exact walk_span ⟨rfl, rfl⟩ hF
    · rw [← hlength]
      exact walk_span ⟨rfl, rfl⟩ hcut

-- a span that is balanced alone need not be so in a text: a slash behind it can close an expression
example : closing? "\x7ba=/\x7d".toList 0 = some 4 ∧ closing? "\x7ba=/\x7d/".toList 0 = none := by
  decide +kernel

end Pruner.Scan
