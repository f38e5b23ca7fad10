import Pruner.Object.Cut
import Pruner.Proofs.Text.Thinning

/-!
# Deleting the union of cuts

The sweep over sorted cuts leaves exactly the characters that no cut covers, so neither the order of
the cuts nor their overlaps matter.
-/

namespace Pruner.Object.Cut

open Text

def covers (cut : Cut) (p : Nat) : Bool :=
  cut.start ≤ p && p < cut.stop

theorem covers_iff {cut : Cut} {p : Nat} :
    cut.covers p = true ↔ cut.start ≤ p ∧ p < cut.stop := by
  simp [covers]

theorem covers_eq_false_iff {cut : Cut} {p : Nat} :
    cut.covers p = false ↔ p < cut.start ∨ cut.stop ≤ p := by
  rw [← Bool.not_eq_true, covers_iff]
  omega

/-- The characters of the text from `index` on that no cut covers. -/
def keep (cuts : List Cut) (index : Nat) (text : List Char) : List Char :=
  retain (fun p => !cuts.any (covers · p)) index text

section Keep

variable {cuts other : List Cut} {index : Nat}

@[simp] theorem keep_nil : keep cuts index [] = [] := rfl

theorem keep_append (s t : List Char) :
    keep cuts index (s ++ t) = keep cuts index s ++ keep cuts (index + s.length) t :=
  retain_append s t

theorem keep_take_drop (n : Nat) (s : List Char) :
    keep cuts index s = keep cuts index (s.take n) ++ keep cuts (index + n) (s.drop n) := by
  have hsplit : keep cuts index (s.take n ++ s.drop n) = _ := keep_append (s.take n) (s.drop n)
  rw [List.take_append_drop] at hsplit
  rw [hsplit]
  by_cases hn : n ≤ s.length
  · rw [List.length_take, Nat.min_eq_left hn]
  · rw [List.drop_eq_nil_of_le (by omega), keep_nil, keep_nil]

theorem keep_congr {s : List Char}
    (h : ∀ p, index ≤ p → p < index + s.length →
      cuts.any (covers · p) = other.any (covers · p)) :
    keep cuts index s = keep other index s :=
  retain_congr fun p hp hp' => congrArg (!·) (h p hp hp')

theorem keep_uncovered {s : List Char}
    (h : ∀ p, index ≤ p → p < index + s.length → cuts.any (covers · p) = false) :
    keep cuts index s = s :=
  retain_whole fun p hp hp' => congrArg (!·) (h p hp hp')

theorem keep_covered {s : List Char}
    (h : ∀ p, index ≤ p → p < index + s.length → cuts.any (covers · p) = true) :
    keep cuts index s = [] :=
  retain_none fun p hp hp' => congrArg (!·) (h p hp hp')

theorem keep_no_cuts (index : Nat) (s : List Char) : keep [] index s = s :=
  keep_uncovered fun _ _ _ => rfl

theorem keep_sublist (cuts : List Cut) (index : Nat) (s : List Char) :
    (keep cuts index s).Sublist s :=
  retain_sublist _ index s

/-- A cut that covers a character makes the text shorter. -/
theorem length_keep_lt {s : List Char} {p : Nat} (hp : index ≤ p) (hs : p < index + s.length)
    (hcover : cuts.any (covers · p) = true) : (keep cuts index s).length < s.length :=
  length_retain_lt hp hs (congrArg (!·) hcover)

end Keep

/-! ### Cuts elsewhere -/

/-- No cut reaches into the text from `a` to `b`. -/
def Outside (cuts : List Cut) (a b : Nat) : Prop :=
  ∀ cut ∈ cuts, cut.stop ≤ a ∨ b ≤ cut.start

theorem Outside.any_covers {cuts : List Cut} {a b p : Nat} (h : Outside cuts a b) (ha : a ≤ p)
    (hb : p < b) : cuts.any (covers · p) = false := by
  rw [List.any_eq_false]
  intro cut hcut
  have hside := h cut hcut
  rw [covers_iff]
  omega

theorem Outside.append {xs ys : List Cut} {a b : Nat} (hx : Outside xs a b)
    (hy : Outside ys a b) : Outside (xs ++ ys) a b := by
  intro cut hcut
  rcases List.mem_append.mp hcut with hcut | hcut
  · exact hx cut hcut
  · exact hy cut hcut

section Outside

variable {cuts other : List Cut} {index : Nat} {s : List Char}
  (h : Outside other index (index + s.length))

include h

theorem keep_outside : keep other index s = s :=
  keep_uncovered fun _ hp hp' => h.any_covers hp hp'

theorem keep_append_outside : keep (cuts ++ other) index s = keep cuts index s := by
  apply keep_congr
  intro p hp hp'
  rw [List.any_append, h.any_covers hp hp', Bool.or_false]

theorem keep_outside_append : keep (other ++ cuts) index s = keep cuts index s := by
  apply keep_congr
  intro p hp hp'
  rw [List.any_append, h.any_covers hp hp', Bool.false_or]

end Outside

/-- Cuts that stay inside the middle part of a text leave the rest of it alone. -/
theorem keep_middle {cuts : List Cut} {s m t : List Char} {index : Nat}
    (h : ∀ cut ∈ cuts, index + s.length ≤ cut.start ∧ cut.stop ≤ index + s.length + m.length) :
    keep cuts index (s ++ (m ++ t)) = s ++ (keep cuts (index + s.length) m ++ t) := by
  have hfront : Outside cuts index (index + s.length) := fun cut hcut => .inr (h cut hcut).1
  have hbehind : Outside cuts (index + s.length + m.length)
      (index + s.length + m.length + t.length) := fun cut hcut => .inl (h cut hcut).2
  rw [keep_append, keep_append, keep_outside hfront, keep_outside hbehind]

/-- The first of several cuts takes its stretch, and the others go on behind it. -/
theorem keep_first {cut : Cut} {cuts : List Cut} {index : Nat} (hindex : index ≤ cut.start)
    (hcut : cut.start ≤ cut.stop) (hlater : ∀ other ∈ cuts, cut.stop ≤ other.start) (s : List Char) :
    keep (cut :: cuts) index s =
      s.take (cut.start - index) ++ keep cuts cut.stop (s.drop (cut.stop - index)) := by
  have hfront : Outside (cut :: cuts) index (index + (s.take (cut.start - index)).length) := by
    have htake := List.length_take_le (cut.start - index) s
    intro other hother
    rcases List.mem_cons.mp hother with rfl | hother
    · exact .inr (by omega)
    · have hle := hlater other hother
      exact .inr (by omega)
  have hinside : keep (cut :: cuts) cut.start
      ((s.drop (cut.start - index)).take (cut.stop - cut.start)) = [] := by
    have htake := List.length_take_le (cut.stop - cut.start) (s.drop (cut.start - index))
    apply keep_covered
    intro p hp hp'
    rw [List.any_cons, covers_iff.mpr ⟨hp, by omega⟩, Bool.true_or]
  have hpassed : Outside [cut] cut.stop (cut.stop + (s.drop (cut.stop - index)).length) := by
    intro other hother
    obtain rfl := List.mem_singleton.mp hother
    exact .inl (Nat.le_refl _)
  have hbehind : keep (cut :: cuts) cut.stop (s.drop (cut.stop - index)) =
      keep cuts cut.stop (s.drop (cut.stop - index)) := keep_outside_append hpassed
  have hdrop : cut.start - index + (cut.stop - cut.start) = cut.stop - index := by omega
  rw [keep_take_drop (cut.start - index) s, keep_outside hfront, Nat.add_sub_cancel' hindex,
    keep_take_drop (cut.stop - cut.start) (s.drop (cut.start - index)), hinside,
    Nat.add_sub_cancel' hcut, List.drop_drop, hdrop, hbehind, List.nil_append]

/-! ### The sweep -/

theorem precedes_trans (a b c : Cut) (hab : a.precedes b = true) (hbc : b.precedes c = true) :
    a.precedes c = true := by
  simp only [precedes, Bool.or_eq_true, Bool.and_eq_true, decide_eq_true_eq, beq_iff_eq] at *
  omega

theorem precedes_total (a b : Cut) : (a.precedes b || b.precedes a) = true := by
  simp only [precedes, Bool.or_eq_true, Bool.and_eq_true, decide_eq_true_eq, beq_iff_eq]
  omega

theorem start_le_of_precedes {a b : Cut} (h : a.precedes b = true) : a.start ≤ b.start := by
  simp only [precedes, Bool.or_eq_true, Bool.and_eq_true, decide_eq_true_eq, beq_iff_eq] at h
  omega

theorem sweep_eq_keep {cuts : List Cut} (hsorted : cuts.Pairwise fun a b => a.start ≤ b.start)
    (hle : ∀ cut ∈ cuts, cut.start ≤ cut.stop) (index : Nat) (rest : List Char) :
    sweep index rest cuts = keep cuts index rest := by
  induction cuts generalizing index rest with
  | nil => exact (keep_no_cuts index rest).symm
  | cons cut cuts ih =>
      obtain ⟨hfirst, hsorted⟩ := List.pairwise_cons.mp hsorted
      have hcut := hle cut (by simp)
      have hlater : ∀ p, p < cut.start → cuts.any (covers · p) = false := by
        intro p hp
        rw [List.any_eq_false]
        intro other hother
        have hstart := hfirst other hother
        simp only [covers_iff, not_and]
        omega
      have hih := ih hsorted fun other hother => hle other (by simp [hother])
      rw [sweep]
      split_ifs with hstop
      · -- the cut lies behind the sweep
        rw [hih]
        apply keep_congr
        intro p hp _
        have hcover : cut.covers p = false := covers_eq_false_iff.mpr (by omega)
        rw [List.any_cons, hcover, Bool.false_or]
      · rw [hih]
        -- in front of the cut, inside it and behind it
        have hfront : keep (cut :: cuts) index (rest.take (cut.start - index)) =
            rest.take (cut.start - index) := by
          apply keep_uncovered
          intro p hp hp'
          have htake := List.length_take_le (cut.start - index) rest
          have hcover : cut.covers p = false := covers_eq_false_iff.mpr (by omega)
          rw [List.any_cons, hcover, Bool.false_or, hlater p (by omega)]
        have hinside : keep (cut :: cuts) (index + (cut.start - index))
            ((rest.drop (cut.start - index)).take (cut.stop - max cut.start index)) = [] := by
          apply keep_covered
          intro p hp hp'
          have htake := List.length_take_le (cut.stop - max cut.start index)
            (rest.drop (cut.start - index))
          have hcover : cut.covers p = true := covers_iff.mpr (by omega)
          rw [List.any_cons, hcover, Bool.true_or]
        have hbehind : keep (cut :: cuts) cut.stop (rest.drop (cut.stop - index)) =
            keep cuts cut.stop (rest.drop (cut.stop - index)) := by
          apply keep_congr
          intro p hp _
          have hcover : cut.covers p = false := covers_eq_false_iff.mpr (by omega)
          rw [List.any_cons, hcover, Bool.false_or]
        have hdrop : cut.start - index + (cut.stop - max cut.start index) = cut.stop - index := by
          omega
        have hindex : index + (cut.start - index) + (cut.stop - max cut.start index) =
            cut.stop := by
          omega
        rw [keep_take_drop (cut.start - index) rest, hfront,
          keep_take_drop (cut.stop - max cut.start index) (rest.drop (cut.start - index)), hinside,
          hindex, List.drop_drop, hdrop, hbehind, List.nil_append]

/-- All cuts at once leave what none of them covers. -/
theorem applyAll_eq_keep (text : List Char) {cuts : List Cut}
    (hle : ∀ cut ∈ cuts, cut.start ≤ cut.stop) : applyAll text cuts = keep cuts 0 text := by
  have hsorted := (List.pairwise_mergeSort precedes_trans precedes_total cuts).imp
    fun {a b} h => start_le_of_precedes (a := a) (b := b) h
  have hle' : ∀ cut ∈ cuts.mergeSort precedes, cut.start ≤ cut.stop := by
    intro cut hcut
    exact hle cut (List.mem_mergeSort.mp hcut)
  rw [applyAll, sweep_eq_keep hsorted hle']
  apply keep_congr
  intro p _ _
  rw [Bool.eq_iff_iff]
  simp [List.any_eq_true]

/-- Cuts that cover the same indices leave the same text. -/
theorem applyAll_congr (text : List Char) {cuts other : List Cut}
    (hle : ∀ cut ∈ cuts, cut.start ≤ cut.stop) (hle' : ∀ cut ∈ other, cut.start ≤ cut.stop)
    (h : ∀ p, p < text.length → cuts.any (covers · p) = other.any (covers · p)) :
    applyAll text cuts = applyAll text other := by
  rw [applyAll_eq_keep text hle, applyAll_eq_keep text hle']
  apply keep_congr
  intro p _ hp
  apply h
  omega

/-- Cuts leave the characters at the indices that none of them covers, in order. They may overlap,
repeat, touch, be empty or reach beyond the text, and their order does not matter. -/
theorem applyAll_eq_uncovered (text : List Char) (cuts : List Cut)
    (hle : ∀ cut ∈ cuts, cut.start ≤ cut.stop) :
    applyAll text cuts = (text.zipIdx.filter fun x =>
      ∀ cut ∈ cuts, ¬ (cut.start ≤ x.2 ∧ x.2 < cut.stop)).map Prod.fst ∧
    ∀ other : List Cut, other.Perm cuts → applyAll text other = applyAll text cuts := by
  constructor
  · rw [applyAll_eq_keep text hle, keep, retain_eq_filter]
    congr 1
    apply List.filter_congr
    intro x _
    rw [Bool.eq_iff_iff, Bool.not_eq_true', List.any_eq_false, decide_eq_true_iff]
    simp only [covers_iff]
  · intro other hperm
    apply applyAll_congr
    · intro cut hcut
      exact hle cut (hperm.subset hcut)
    · exact hle
    · intro p _
      exact hperm.any_eq

theorem applyAll_eq_uncovered_nested :
    (∀ cut ∈ [⟨8, 30⟩, ⟨2, 6⟩, ⟨3, 4⟩, ⟨5, 7⟩, ⟨2, 6⟩, ⟨1, 1⟩], Cut.start cut ≤ cut.stop) ∧
      applyAll "abcdefghij".toList [⟨8, 30⟩, ⟨2, 6⟩, ⟨3, 4⟩, ⟨5, 7⟩, ⟨2, 6⟩, ⟨1, 1⟩] =
        "abh".toList ∧
      applyAll "abcdefghij".toList [⟨1, 1⟩, ⟨2, 6⟩, ⟨5, 7⟩, ⟨3, 4⟩, ⟨2, 6⟩, ⟨8, 30⟩] =
        "abh".toList := by
  have hle : ∀ cut ∈ [⟨8, 30⟩, ⟨2, 6⟩, ⟨3, 4⟩, ⟨5, 7⟩, ⟨2, 6⟩, ⟨1, 1⟩],
      Cut.start cut ≤ cut.stop := by
    decide
  obtain ⟨hleft, hany⟩ := applyAll_eq_uncovered "abcdefghij".toList _ hle
  have htext : applyAll "abcdefghij".toList
      [⟨8, 30⟩, ⟨2, 6⟩, ⟨3, 4⟩, ⟨5, 7⟩, ⟨2, 6⟩, ⟨1, 1⟩] = "abh".toList := by
    rw [hleft]
    decide +kernel
  exact ⟨hle, htext, (hany _ (List.reverse_perm _)).trans htext⟩

end Pruner.Object.Cut
