import Pruner.Proofs.Assignment.Expression
import Pruner.Proofs.Scan.Traversal

/-!
# Erasing expressions by index

The search for expressions with a closer that is looked for by index. It looks at no character that is not
there, and erases what the search by characters erases.
-/

namespace Pruner.Assignment

open Scan

theorem lt_of_closingAt {text : List Char} {start close : Nat}
    (h : closingAt text start = .ok (some close)) : start < close := by
  rw [closingAt_eq, Except.ok.injEq] at h
  obtain ⟨F, tail, -, -, rfl⟩ := closing?_eq_some_iff.mp h
  omega

def eraseExpressionsFromAt (name code : List Char) (index : Nat) : Except Miss (List Char) :=
  match _hfind : find? openBrace name (code.drop index) with
  | none => .ok code
  | some (ahead, m) =>
    let next := index + ahead + m.lead
    match _hclose : closingAt code (next + m.body - 1) with
    | .error miss => .error miss
    | .ok none => eraseExpressionsFromAt name code (next + m.body)
    | .ok (some close) => eraseExpressionsFromAt name (code.take next ++ code.drop (close + 1)) next
termination_by code.length - index
decreasing_by
  all_goals
    have hlt : index < code.length := by
      have := find?_ne_nil _hfind
      simpa using this
    have := m.lead_pos
  · omega
  · have := lt_of_closingAt _hclose
    simp only [List.length_append, List.length_take, List.length_drop]
    omega

/-- The search for the closer starts at the brace that the found text ends with. -/
theorem closing?_of_find {name code : List Char} {index ahead : Nat} {m : Match}
    (h : find? openBrace name (code.drop index) = some (ahead, m)) :
    closing? code (index + ahead + m.lead + m.body - 1) =
      (innerLength? (code.drop (index + ahead + m.lead + m.body))).map
        (index + ahead + m.lead + m.body + ·) := by
  obtain ⟨s, hs, hlength, -⟩ := matchAt?_openBrace (find?_eq_some h).1
  obtain ⟨hbody, -⟩ := match_bounds (find?_eq_some h).1
  have hstart : index + ahead + m.lead + m.body - 1 = index + ahead + s.length := by omega
  have hbrace : code.drop (index + ahead + s.length) =
      '{' :: code.drop (index + ahead + m.lead + m.body) := by
    rw [List.drop_drop, List.drop_drop] at hs
    rw [← List.drop_drop, hs, List.drop_left, Nat.add_assoc _ m.lead]
  rw [closing?, hstart, hbrace]
  simp only [if_true]
  congr 1
  funext n
  omega

theorem eraseExpressionsFromAt_none {name code : List Char} {index : Nat}
    (h : find? openBrace name (code.drop index) = none) :
    eraseExpressionsFromAt name code index = .ok code := by
  rw [eraseExpressionsFromAt]
  split <;> simp_all

theorem eraseExpressionsFromAt_some {name code : List Char} {index ahead : Nat} {m : Match}
    (h : find? openBrace name (code.drop index) = some (ahead, m)) :
    eraseExpressionsFromAt name code index =
      match innerLength? (code.drop (index + ahead + m.lead + m.body)) with
      | none => eraseExpressionsFromAt name code (index + ahead + m.lead + m.body)
      | some inner =>
        eraseExpressionsFromAt name (code.take (index + ahead + m.lead) ++
          code.drop (index + ahead + m.lead + m.body + inner + 1)) (index + ahead + m.lead) := by
  have hclose := closingAt_eq code (index + ahead + m.lead + m.body - 1)
  rw [closing?_of_find h] at hclose
  rw [eraseExpressionsFromAt]
  split
  · rename_i hnone
    rw [h] at hnone
    cases hnone
  · rename_i ahead' m' hsome
    obtain ⟨rfl, rfl⟩ : ahead = ahead' ∧ m = m' := by simpa [h] using hsome
    cases hinner : innerLength? (code.drop (index + ahead + m.lead + m.body)) with
    | none =>
        rw [hinner] at hclose
        dsimp only
        split <;> simp_all
    | some inner =>
        rw [hinner] at hclose
        dsimp only
        split <;> simp_all

theorem eraseExpressionsFromAt_eq (name code : List Char) (index : Nat) :
    eraseExpressionsFromAt name code index = .ok (eraseExpressionsFrom name code index) := by
  fun_induction eraseExpressionsFrom name code index with
  | case1 code index hfind => exact eraseExpressionsFromAt_none hfind
  | case2 code index ahead m hfind next hinner ih =>
      rw [eraseExpressionsFromAt_some hfind, hinner]
      exact ih
  | case3 code index ahead m hfind next inner hinner ih =>
      rw [eraseExpressionsFromAt_some hfind, hinner]
      exact ih

end Pruner.Assignment
