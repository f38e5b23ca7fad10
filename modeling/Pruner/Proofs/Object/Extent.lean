import Mathlib.Data.List.Nodup
import Pruner.Proofs.Object.Joints
import Pruner.Proofs.Object.Lookup
import Pruner.Proofs.Scan.Laminar

/-!
# What a removal deletes

A listed property goes from its first character that is no blank up to the next such character behind
its comma, but not beyond the brace that closes its span. A removal leaves exactly the characters
that belong to no listed property of any span, and it counts every listed property once, also one that
lies inside another.
-/

namespace Pruner.Text

/-- The first index from `start` on with a character that is no blank. -/
def firstSolid (text : List Char) (start : Nat) : Nat :=
  start + (text.drop start).findIdx fun c => !isBlank c

theorem blanks_eq_findIdx (text : List Char) : blanks text = text.findIdx fun c => !isBlank c := by
  rw [blanks, List.takeWhile_eq_take_findIdx_not, List.length_take,
    Nat.min_eq_left List.findIdx_le_length]

theorem blanks_take (n : Nat) (text : List Char) : blanks (text.take n) = min n (blanks text) := by
  rw [blanks, blanks, ← List.take_takeWhile, List.length_take]

end Pruner.Text

namespace Pruner.Scan

/-! ### The order of the segments -/

namespace Segment

theorem start_le_of_mem_between {start stop : Nat} {separators : List Nat}
    (h : ∀ part ∈ between start separators stop, part.start ≤ part.stop) :
    ∀ part ∈ between start separators stop, start ≤ part.start := by
  induction separators generalizing start with
  | nil => simp
  | cons p ps ih =>
      rw [between_cons, List.forall_mem_cons] at h ⊢
      obtain ⟨hfirst, hlater⟩ := h
      refine ⟨Nat.le_refl _, fun part hpart => ?_⟩
      have hle := ih hlater part hpart
      dsimp only at hfirst
      omega

/-- Each segment ends in front of all that come later. -/
theorem pairwise_between {start stop : Nat} {separators : List Nat}
    (h : ∀ part ∈ between start separators stop, part.start ≤ part.stop) :
    (between start separators stop).Pairwise fun a b => a.stop < b.start := by
  induction separators generalizing start with
  | nil => exact List.pairwise_singleton _ _
  | cons p ps ih =>
      rw [between_cons, List.forall_mem_cons] at h
      exact List.pairwise_cons.mpr ⟨start_le_of_mem_between h.2, ih h.2⟩

end Segment

/-- The segments of a span are stretches of the text that do not reach beyond its closer. -/
theorem Span.within_segments {text : List Char} {s : Span} (hs : s ∈ spans text) :
    ∀ part ∈ s.segments, part.Within text ∧ part.stop ≤ s.stop := by
  obtain ⟨stack, F, tail, -, hdrop, -, -, heq⟩ := mem_spans_iff_found.mp hs
  rw [heq]
  intro part hpart
  have hbounds := F.bounds_between (Nat.le_refl (s.start + 1)) part hpart
  exact ⟨within_of_drop hdrop part hpart, hbounds.2⟩

theorem Span.pairwise_segments {text : List Char} {s : Span} (hs : s ∈ spans text) :
    s.segments.Pairwise fun a b => a.stop < b.start := by
  apply Segment.pairwise_between
  intro part hpart
  exact (within_segments hs part hpart).1.1

theorem Span.nodup_segments {text : List Char} {s : Span} (hs : s ∈ spans text) :
    s.segments.Nodup := by
  apply (pairwise_segments hs).imp_of_mem
  rintro part _ hpart - hlt rfl
  exact Nat.not_lt.mpr (within_segments hs part hpart).1.1 hlt

end Pruner.Scan

namespace Pruner.Object.Selection

open Scan Text Cut

variable (sel : Selection) (text : List Char)

/-- What goes with a property of a span. -/
def extent (s : Span) (part : Segment) : Cut :=
  ⟨min part.stop (firstSolid text part.start),
    if part.stop = s.stop then s.stop else min s.stop (firstSolid text (part.stop + 1))⟩

/-- The listed properties of all spans, each with its span. -/
def listed : List (Span × Segment) :=
  (spans text).flatMap fun s =>
    (s.segments.filter fun part => sel.selects (part.slice text)).map (Prod.mk s)

theorem selects_iff (property : List Char) :
    sel.selects property = true ↔ ∃ key ∈ sel.names, key? sel.shorthand property = some key := by
  rw [selects]
  cases key? sel.shorthand property <;> simp

theorem mem_listed_iff {s : Span} {part : Segment} :
    (s, part) ∈ sel.listed text ↔ s ∈ spans text ∧ part ∈ s.segments ∧
      ∃ key ∈ sel.names, key? sel.shorthand (part.slice text) = some key := by
  simp only [listed, List.mem_flatMap, List.mem_map, List.mem_filter, selects_iff, Prod.mk.injEq]
  constructor
  · rintro ⟨_, hs, _, ⟨hpart, hkey⟩, rfl, rfl⟩
    exact ⟨hs, hpart, hkey⟩
  · rintro ⟨hs, hpart, hkey⟩
    exact ⟨s, hs, part, ⟨hpart, hkey⟩, rfl, rfl⟩

theorem nodup_listed : (sel.listed text).Nodup := by
  apply List.nodup_flatMap.mpr
  constructor
  · intro s hs
    apply ((Span.nodup_segments hs).filter _).map
    intro a b hab
    exact (Prod.mk.inj hab).2
  · apply (nodup_spans text).imp
    intro s t hne q hq hq'
    obtain ⟨_, -, rfl⟩ := List.mem_map.mp hq
    obtain ⟨_, -, heq⟩ := List.mem_map.mp hq'
    exact hne (Prod.mk.inj heq).1.symm

variable {text}

/-- The cut of a listed property takes its extent. -/
theorem cut?_eq_extent {s : Span} (hs : s ∈ spans text) {part : Segment}
    (hpart : part ∈ s.segments) :
    sel.cut? text s.stop part =
      if sel.selects (part.slice text) then some (extent text s part) else none := by
  obtain ⟨⟨hle, hlength⟩, hstop⟩ := Span.within_segments hs part hpart
  have hfirst : part.start + blanks (part.slice text) =
      min part.stop (firstSolid text part.start) := by
    rw [firstSolid, ← blanks_eq_findIdx, Segment.slice, blanks_take]
    omega
  have hlast : min ((if part.stop < s.stop then part.stop + 1 else part.stop) +
      blanks (text.drop (if part.stop < s.stop then part.stop + 1 else part.stop))) s.stop =
        if part.stop = s.stop then s.stop else min s.stop (firstSolid text (part.stop + 1)) := by
    by_cases hend : part.stop = s.stop
    · rw [if_pos hend, if_neg (by omega)]
      omega
    · rw [if_neg hend, if_pos (by omega), firstSolid, ← blanks_eq_findIdx, Nat.min_comm]
  simp only [cut?, extent, hfirst, hlast]

theorem flatMap_spanCuts (text : List Char) :
    (spans text).flatMap (sel.spanCuts text) =
      (sel.listed text).map fun q => extent text q.1 q.2 := by
  rw [listed, List.map_flatMap]
  apply List.flatMap_congr
  intro s hs
  rw [spanCuts, cuts, List.map_map, ← List.filterMap_eq_map, List.filterMap_filter]
  apply List.filterMap_congr
  intro part hpart
  rw [sel.cut?_eq_extent hs hpart]
  rfl

/-- A removal leaves the characters outside the extents of all listed properties, in order, and counts
these properties. Reading by index it does the same. -/
theorem removeAll_eq_outside_extents (sel : Selection) (text : List Char) :
    (sel.listed text).Nodup ∧
    (∀ s part, (s, part) ∈ sel.listed text ↔ s ∈ spans text ∧ part ∈ s.segments ∧
      ∃ key ∈ sel.names, key? sel.shorthand (part.slice text) = some key) ∧
    sel.removeAll text =
      ⟨(text.zipIdx.filter fun x => ∀ q ∈ sel.listed text,
          ¬ ((extent text q.1 q.2).start ≤ x.2 ∧ x.2 < (extent text q.1 q.2).stop)).map Prod.fst,
        (sel.listed text).length⟩ ∧
    sel.removeAllAt text = .ok (sel.removeAll text) := by
  refine ⟨sel.nodup_listed text, fun s part => sel.mem_listed_iff text, ?_, sel.removeAllAt_eq text⟩
  have hcount : (sel.removeAll text).count = (sel.listed text).length := by
    rw [removeAll, flatMap_spanCuts, List.length_map]
  have htext := sel.removeAll_eq_keep text
  rw [flatMap_spanCuts, keep, retain_eq_filter] at htext
  have hfilter : (text.zipIdx.filter fun x => !((sel.listed text).map fun q =>
      extent text q.1 q.2).any (covers · x.2)) =
        text.zipIdx.filter fun x => ∀ q ∈ sel.listed text,
          ¬ ((extent text q.1 q.2).start ≤ x.2 ∧ x.2 < (extent text q.1 q.2).stop) := by
    apply List.filter_congr
    intro x _
    rw [Bool.eq_iff_iff, Bool.not_eq_true', List.any_eq_false, List.forall_mem_map,
      decide_eq_true_iff]
    simp only [covers_iff]
  rw [hfilter] at htext
  calc
    sel.removeAll text = ⟨(sel.removeAll text).text, (sel.removeAll text).count⟩ := rfl
    _ = _ := by rw [htext, hcount]

end Pruner.Object.Selection
