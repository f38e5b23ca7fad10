import Pruner.Assignment.Erase
import Pruner.Proofs.Assignment.Pattern
import Pruner.Proofs.Object.Keys
import Pruner.Proofs.Text.Thinning

/-!
# Erasing assignments in one pass

Both kinds of assignment are erased as if in one pass from left to right, in which a match goes and
any other character stays. For expressions this takes a name without braces. The pass only deletes:
what it does not change holds no assignment, and what it leaves whole holds none that is one whatever
stands behind it.
-/

namespace Pruner.Assignment

open Scan Text

/-- Erases every assignment of a value of this kind. -/
def eraseKind (kind : ValueKind) (name text : List Char) : List Char :=
  match text with
  | [] => []
  | c :: cs =>
    match matchAt? kind name (c :: cs) with
    | some m => (c :: cs).take m.lead ++ eraseKind kind name ((c :: cs).drop (m.lead + m.body))
    | none => c :: eraseKind kind name cs
termination_by text.length
decreasing_by
  · have := m.lead_pos
    simp
    omega
  · simp

theorem eraseQuoted_eq (name text : List Char) : eraseQuoted name text = eraseKind quoted name text := by
  fun_induction eraseQuoted name text with
  | case1 => rw [eraseKind]
  | case2 c cs m hm ih => rw [eraseKind, hm, ih]
  | case3 c cs hm ih => rw [eraseKind, hm, ih]

section Kind

variable {kind : ValueKind} {name : List Char}

theorem eraseKind_match {text : List Char} {m : Match} (h : matchAt? kind name text = some m) :
    eraseKind kind name text =
      text.take m.lead ++ eraseKind kind name (text.drop (m.lead + m.body)) := by
  cases text with
  | nil => simp [matchAt?] at h
  | cons c cs => rw [eraseKind, h]

theorem eraseKind_skip {n : Nat} {text : List Char}
    (h : ∀ k < n, matchAt? kind name (text.drop k) = none) :
    eraseKind kind name text = text.take n ++ eraseKind kind name (text.drop n) := by
  induction n generalizing text with
  | zero => rfl
  | succ n ih =>
      cases text with
      | nil => rw [List.take_nil, List.drop_nil, List.nil_append]
      | cons c cs =>
          have hhere : matchAt? kind name (c :: cs) = none := h 0 (Nat.succ_pos n)
          have hrest : eraseKind kind name cs = cs.take n ++ eraseKind kind name (cs.drop n) := by
            apply ih
            intro k hk
            exact h (k + 1) (Nat.succ_lt_succ hk)
          rw [eraseKind, hhere]
          exact congrArg (c :: ·) hrest

theorem take_append_drop_sublist {text : List Char} {i j : Nat} (hij : i ≤ j) :
    (text.take i ++ text.drop j).Sublist text := by
  have hdrop : (text.drop j).Sublist (text.drop i) := by
    rw [← Nat.add_sub_cancel' hij, ← List.drop_drop]
    exact List.drop_sublist _ _
  have happend := (List.Sublist.refl (text.take i)).append hdrop
  rwa [List.take_append_drop] at happend

theorem eraseKind_sublist (kind : ValueKind) (name text : List Char) :
    (eraseKind kind name text).Sublist text := by
  fun_induction eraseKind kind name text with
  | case1 => exact .slnil
  | case2 c cs m _ ih =>
      have hrest := (List.Sublist.refl ((c :: cs).take m.lead)).append ih
      exact hrest.trans (take_append_drop_sublist (Nat.le_add_right _ _))
  | case3 c cs _ ih => exact ih.cons_cons c

theorem eraseKind_eq_self_iff_match (text : List Char) :
    eraseKind kind name text = text ↔ ∀ k, matchAt? kind name (text.drop k) = none := by
  fun_induction eraseKind kind name text with
  | case1 => simp [matchAt?]
  | case2 c cs m hm _ =>
      obtain ⟨hpos, hlead, -⟩ := match_bounds hm
      have hle := (eraseKind_sublist kind name ((c :: cs).drop (m.lead + m.body))).length_le
      constructor
      · intro h
        have hlength := congrArg List.length h
        rw [List.length_append, List.length_take] at hlength
        rw [List.length_drop] at hle
        omega
      · intro h
        have hnone : matchAt? kind name (c :: cs) = none := h 0
        rw [hm] at hnone
        cases hnone
  | case3 c cs hm ih =>
      rw [List.cons.injEq, ih]
      constructor
      · rintro ⟨-, h⟩ k
        cases k with
        | zero => exact hm
        | succ k => exact h k
      · exact fun h => ⟨rfl, fun k => h (k + 1)⟩

/-- The pass changes nothing exactly when the name is assigned no value of the kind. -/
theorem eraseKind_eq_self_iff (hk : Solid kind) (text : List Char) :
    eraseKind kind name text = text ↔
      ∀ i, AssignedAt name text i → kind (text.drop i) = none := by
  rw [eraseKind_eq_self_iff_match, forall_matchAt?_iff hk]

/-! ### Stretches left whole -/

/-- No value that the name is assigned in this stretch is one whatever stands behind the stretch. -/
def Unassigned (kind : ValueKind) (name w : List Char) : Prop :=
  ∀ i, AssignedAt name w i → ∃ v, kind (w.drop i ++ v) = none

theorem unassigned_blanks {w : List Char} (hw : ∀ c ∈ w, isBlank c = true) :
    Unassigned kind name w := by
  rintro i ⟨front, stem, htake, hstem⟩
  have hmem : '=' ∈ w.take i := by
    obtain ⟨lead, gap, gap', rfl, -⟩ := hstem
    simp [htake]
  exact absurd (hw '=' (List.mem_of_mem_take hmem)) (by decide)

theorem unassigned_cons (hk : Solid kind) {c : Char} {w v : List Char}
    (hw : Unassigned kind name w) (hnone : matchAt? kind name (c :: (w ++ v)) = none) :
    Unassigned kind name (c :: w) := by
  rintro i ⟨front, stem, htake, hstem⟩
  cases front with
  | nil =>
      -- an assignment that begins at `c` would have been found in front of `v`
      refine ⟨v, ?_⟩
      cases hvalue : kind ((c :: w).drop i ++ v) with
      | none => rfl
      | some n =>
          have hsome := isSome_matchAt? hk hstem (Option.isSome_of_eq_some hvalue)
          have hsplit : stem ++ ((c :: w).drop i ++ v) = c :: (w ++ v) := by
            rw [List.nil_append] at htake
            rw [← htake, ← List.append_assoc, List.take_append_drop, List.cons_append]
          rw [hsplit, hnone] at hsome
          cases hsome
  | cons d front =>
      cases i with
      | zero => simp at htake
      | succ i =>
          obtain ⟨-, htail⟩ := List.cons.inj htake
          exact hw i ⟨front, stem, htail, hstem⟩

theorem thins_eraseKind (hk : Solid kind) (name text : List Char) :
    Thins text (eraseKind kind name text) (Unassigned kind name) := by
  fun_induction eraseKind kind name text with
  | case1 =>
      refine ⟨fun _ => true, rfl, fun u w v h _ => ?_⟩
      obtain ⟨-, hnil⟩ := List.append_eq_nil_iff.mp h.symm
      rw [(List.append_eq_nil_iff.mp hnil).1]
      exact unassigned_blanks (by simp)
  | case2 c cs m hm ih =>
      obtain ⟨hpos, hlead, hblank⟩ := match_bounds hm
      have hfront : ∀ u w v, (c :: cs).take m.lead = u ++ (w ++ v) → Unassigned kind name w := by
        intro u w v htake
        exact unassigned_blanks fun d hd => hblank d (by simp [htake, hd])
      have hgone : ((c :: cs).drop m.lead).take m.body ≠ [] := by
        rw [← List.length_pos_iff, List.length_take, List.length_drop]
        omega
      have hsplit : (c :: cs).take m.lead ++ (((c :: cs).drop m.lead).take m.body ++
          (c :: cs).drop (m.lead + m.body)) = c :: cs := by
        rw [← List.drop_drop, List.take_append_drop, List.take_append_drop]
      have hthins := Thins.splice hfront hgone ih
      rwa [hsplit] at hthins
  | case3 c cs hm ih =>
      apply ih.cons (unassigned_blanks (by simp))
      intro w v hcs hw
      rw [hcs] at hm
      exact unassigned_cons hk hw hm

end Kind

/-! ### Quoted values -/

theorem quoted_append {s : List Char} {n : Nat} (h : quoted s = some n) (t : List Char) :
    quoted (s ++ t) = some n := by
  cases s with
  | nil => simp [quoted] at h
  | cons c cs =>
      simp only [quoted] at h
      split_ifs at h with hc
      obtain ⟨k, hk, rfl⟩ := Option.map_eq_some_iff.mp h
      have happend := quotedLength?_append (stringLength?_of_quotedLength? hk) t
      simp [quoted, hc, happend, hk]

/-- A quoted value is one whatever stands behind it. -/
theorem quoted_of_unassigned {name w : List Char} (hw : Unassigned quoted name w) {i : Nat}
    (hassigned : AssignedAt name w i) : quoted (w.drop i) = none := by
  obtain ⟨v, hv⟩ := hw i hassigned
  cases hvalue : quoted (w.drop i) with
  | none => rfl
  | some n =>
      rw [quoted_append hvalue v] at hv
      cases hv

theorem eraseQuoted_sublist (name text : List Char) : (eraseQuoted name text).Sublist text := by
  rw [eraseQuoted_eq]
  exact eraseKind_sublist quoted name text

theorem eraseQuoted_eq_self_iff (name text : List Char) :
    eraseQuoted name text = text ↔
      ∀ i, AssignedAt name text i → quoted (text.drop i) = none := by
  rw [eraseQuoted_eq, eraseKind_eq_self_iff solid_quoted]

end Pruner.Assignment
