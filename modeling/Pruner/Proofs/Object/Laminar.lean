import Pruner.Proofs.Object.Extent
import Pruner.Proofs.Scan.Split

/-!
# How the cuts of a removal lie to each other

A cut reaches beyond its property, over the comma behind it and the blanks up to the next property. It
still stays inside its span, and it never ends inside another cut that it does not hold: the cuts of one
span come one after the other, and a span within another lies as a whole inside one property, so its cuts
are inside the cut of that property or apart from it. This is why the sweep may skip a cut that ends
inside what is already gone.
-/

namespace Pruner.Text

/-- A character stands at this index, and it is no blank. -/
def SolidAt (text : List Char) (p : Nat) : Prop :=
  ∃ c, text[p]? = some c ∧ isBlank c = false

section FirstSolid

variable {text : List Char} {start p : Nat}

theorem le_firstSolid (text : List Char) (start : Nat) : start ≤ firstSolid text start :=
  Nat.le_add_right _ _

theorem firstSolid_le (hstart : start ≤ p) (hp : SolidAt text p) : firstSolid text start ≤ p := by
  obtain ⟨c, hc, hsolid⟩ := hp
  apply Nat.le_of_not_lt
  intro hlt
  have hindex : p - start < (text.drop start).findIdx fun c => !isBlank c := by
    rw [firstSolid] at hlt
    omega
  have hblank := List.not_of_lt_findIdx hindex
  obtain ⟨hp, rfl⟩ := List.getElem?_eq_some_iff.mp hc
  simp [Nat.add_sub_cancel' hstart, hsolid] at hblank

theorem solidAt_firstSolid (h : firstSolid text start < text.length) :
    SolidAt text (firstSolid text start) := by
  have hindex : ((text.drop start).findIdx fun c => !isBlank c) < (text.drop start).length := by
    rw [firstSolid] at h
    rw [List.length_drop]
    omega
  refine ⟨_, List.getElem?_eq_getElem h, ?_⟩
  have hsolid := List.findIdx_getElem (w := hindex)
  rw [List.getElem_drop, Bool.not_eq_true'] at hsolid
  exact hsolid

end FirstSolid

end Pruner.Text

namespace Pruner.Scan

open Text

theorem Segment.start_of_mem_between {start stop : Nat} {separators : List Nat} {part : Segment}
    (h : part ∈ between start separators stop) :
    part.start = start ∨ ∃ k ∈ separators, part.start = k + 1 := by
  induction separators generalizing start with
  | nil =>
      obtain rfl := List.mem_singleton.mp h
      exact .inl rfl
  | cons p ps ih =>
      rcases List.mem_cons.mp h with rfl | h
      · exact .inl rfl
      · right
        rcases ih h with hstart | ⟨k, hk, hstart⟩
        · exact ⟨p, List.mem_cons_self, hstart⟩
        · exact ⟨k, List.mem_cons_of_mem p hk, hstart⟩

namespace Span

variable {text : List Char} {s t : Span}

theorem solidAt_start (hs : s ∈ spans text) : SolidAt text s.start :=
  ⟨'{', (bounds hs).1.1, by decide⟩

theorem start_lt_of_mem_segments (hs : s ∈ spans text) {part : Segment} (hpart : part ∈ s.segments) :
    s.start < part.start := by
  apply Segment.start_le_of_mem_between _ part hpart
  intro other hother
  exact (within_segments hs other hother).1.1

/-- A span within another lies inside one of its segments, and so in front of each of the others or
behind it. -/
theorem Before.segment_cases (h : t.Before s) (ht : t ∈ spans text) (hwithin : s.start < t.start)
    {part : Segment} (hpart : part ∈ s.segments) :
    t.stop < part.start ∨ part.stop < t.start ∨ part.start ≤ t.start ∧ t.stop < part.stop := by
  have hlt := (bounds ht).1.2.2.1
  have hstop := h.stop_lt
  have hfirst : part.start ≤ t.start ∨ t.stop < part.start := by
    rcases Segment.start_of_mem_between hpart with hstart | ⟨k, hk, hstart⟩
    · exact .inl (by omega)
    · have hside := h.commas k hk
      omega
  have hlast : t.stop < part.stop ∨ part.stop < t.start := by
    rcases Segment.stop_of_mem_between hpart with hcomma | hclose
    · have hside := h.commas part.stop hcomma
      omega
    · exact .inl (by omega)
  omega

end Span

end Pruner.Scan

namespace Pruner.Object

open Scan Text

/-- Two cuts without a common index. -/
def Cut.Apart (a b : Cut) : Prop :=
  a.stop ≤ b.start ∨ b.stop ≤ a.start

/-- One cut takes nothing that the other does not take. -/
def Cut.Inside (a b : Cut) : Prop :=
  b.start ≤ a.start ∧ a.stop ≤ b.stop

/-- The cut goes from the first character of a property that is no blank to the next such character
behind the property and its comma, or to the closer of the span. -/
structure Cut.Takes (text : List Char) (s : Span) (part : Segment) (cut : Cut) : Prop where
  inside : part.start ≤ cut.start ∧ cut.start < part.stop ∧ part.stop ≤ cut.stop ∧ cut.stop ≤ s.stop
  comma : part.stop < s.stop → part.stop < cut.stop
  solid_start : SolidAt text cut.start
  solid_stop : SolidAt text cut.stop
  start_le : ∀ p, part.start ≤ p → SolidAt text p → cut.start ≤ p
  stop_le : ∀ p, part.stop < p → SolidAt text p → cut.stop ≤ p

namespace Selection

variable {sel : Selection} {text : List Char} {s t : Span}

/-- A property with a key is not blank throughout. -/
theorem blanks_lt_of_selects {property : List Char} (h : sel.selects property = true) :
    blanks property < property.length := by
  apply Nat.lt_of_not_le
  intro hle
  have hkey : key? sel.shorthand property = none := by
    rw [key?, List.drop_eq_nil_of_le hle, leadingKey?]
    cases sel.shorthand <;> rfl
  rw [selects, hkey] at h
  cases h

theorem firstSolid_lt_of_selects {part : Segment} (hwithin : part.Within text)
    (h : sel.selects (part.slice text) = true) : firstSolid text part.start < part.stop := by
  have hblanks := blanks_lt_of_selects h
  rw [hwithin.length_slice, Segment.slice, blanks_take] at hblanks
  rw [firstSolid, ← blanks_eq_findIdx]
  omega

theorem takes_of_cut? (hs : s ∈ spans text) {part : Segment} (hpart : part ∈ s.segments) {cut : Cut}
    (hcut : sel.cut? text s.stop part = some cut) : cut.Takes text s part := by
  obtain ⟨hwithin, hstop⟩ := Span.within_segments hs part hpart
  have hlength := (Span.bounds hs).1.2.2.2
  have hbehind : ∀ d, text[cut.stop]? = some d → isBlank d = false :=
    fun d hd => (sel.char_behind_cut hs hpart hcut hd).1
  rw [cut?_eq_extent sel hs hpart] at hcut
  split_ifs at hcut with hselects
  obtain rfl := Option.some.inj hcut
  have hfirst := firstSolid_lt_of_selects hwithin hselects
  have hpos := le_firstSolid text part.start
  have hnext := le_firstSolid text (part.stop + 1)
  have hstart : (extent text s part).start = firstSolid text part.start :=
    Nat.min_eq_right (Nat.le_of_lt hfirst)
  have hlast : part.stop = s.stop ∧ (extent text s part).stop = s.stop ∨
      part.stop < s.stop ∧
        (extent text s part).stop = min s.stop (firstSolid text (part.stop + 1)) := by
    rcases Nat.lt_or_eq_of_le hstop with hlt | heq
    · exact .inr ⟨hlt, if_neg (Nat.ne_of_lt hlt)⟩
    · exact .inl ⟨heq, if_pos heq⟩
  refine ⟨by omega, by omega, ?_, ?_, fun p hp hsolid => ?_, fun p hp hsolid => ?_⟩
  · rw [hstart]
    exact solidAt_firstSolid (by omega)
  · have hlt : (extent text s part).stop < text.length := by omega
    exact ⟨_, List.getElem?_eq_getElem hlt, hbehind _ (List.getElem?_eq_getElem hlt)⟩
  · rw [hstart]
    exact firstSolid_le hp hsolid
  · have hle : firstSolid text (part.stop + 1) ≤ p := firstSolid_le hp hsolid
    omega

theorem mem_spanCuts_iff {cut : Cut} :
    cut ∈ sel.spanCuts text s ↔ ∃ part ∈ s.segments, sel.cut? text s.stop part = some cut :=
  List.mem_filterMap

theorem pairwise_spanCuts (hs : s ∈ spans text) :
    (sel.spanCuts text s).Pairwise fun a b => a.stop ≤ b.start := by
  apply List.pairwise_filterMap.mpr
  apply (Span.pairwise_segments hs).imp_of_mem
  intro part next hpart hnext hlt a ha b hb
  have htaken := takes_of_cut? hs hpart ha
  have hlater := takes_of_cut? hs hnext hb
  apply htaken.stop_le b.start _ hlater.solid_start
  exact Nat.lt_of_lt_of_le hlt hlater.inside.1

/-- The cuts of two properties next to each other touch. -/
theorem stop_eq_start (hs : s ∈ spans text) {part next : Segment} (h : [part, next] <:+: s.segments)
    {a b : Cut} (ha : sel.cut? text s.stop part = some a) (hb : sel.cut? text s.stop next = some b) :
    a.stop = b.start := by
  have hstart := List.IsChain.infix (Segment.isChain_between (s.start + 1) s.stop s.commas) h
  rw [List.isChain_pair] at hstart
  have htaken := takes_of_cut? hs (h.subset (by simp)) ha
  have hlater := takes_of_cut? hs (h.subset (by simp)) hb
  have hinside := hlater.inside
  apply Nat.le_antisymm
  · exact htaken.stop_le b.start (by omega) hlater.solid_start
  · have hcomma := htaken.comma (by omega)
    exact hlater.start_le a.stop (by omega) htaken.solid_stop

/-- A cut of a span within another is inside a cut of the other, or apart from it. -/
theorem apart_or_inside (h : t.Before s) (hs : s ∈ spans text) (ht : t ∈ spans text) {a b : Cut}
    (ha : a ∈ sel.spanCuts text s) (hb : b ∈ sel.spanCuts text t) : a.Apart b ∨ b.Inside a := by
  obtain ⟨part, hpart, ha⟩ := mem_spanCuts_iff.mp ha
  obtain ⟨inner, hinner, hb⟩ := mem_spanCuts_iff.mp hb
  have htaken := takes_of_cut? hs hpart ha
  have hwithin := takes_of_cut? ht hinner hb
  have hab := htaken.inside
  have hbb := hwithin.inside
  have hbstart := Span.start_lt_of_mem_segments ht hinner
  have hastart := Span.start_lt_of_mem_segments hs hpart
  rcases h.apart_or_inside with hapart | hnested
  · exact .inl (.inr (by omega))
  · -- the opening brace of `t` is no blank: the cut of a property around `t` begins in front of it, and
    -- the cut of a property in front of `t` ends there at the latest
    rcases h.segment_cases ht hnested hpart with hfront | hbehind | ⟨hfirst, hlast⟩
    · exact .inl (.inr (by omega))
    · have hstop := htaken.stop_le t.start hbehind (Span.solidAt_start ht)
      exact .inl (.inl (by omega))
    · have hstart := htaken.start_le t.start hfirst (Span.solidAt_start ht)
      exact .inr ⟨by omega, by omega⟩

/-- The cuts of a removal never partly overlap. Each takes something, behind the opening brace of its span
and not beyond the closing one. The cuts of one span come one after the other, and those of adjacent
properties touch. Cuts of different spans have nothing in common, or one is inside the other. -/
theorem cuts_laminar (sel : Selection) (text : List Char) :
    sel.removeAllAt text = .ok ⟨Cut.applyAll text ((spans text).flatMap (sel.spanCuts text)),
      ((spans text).flatMap (sel.spanCuts text)).length⟩ ∧
    (∀ s ∈ spans text, ∀ cut ∈ sel.spanCuts text s,
      s.start < cut.start ∧ cut.start < cut.stop ∧ cut.stop ≤ s.stop) ∧
    (∀ s ∈ spans text, (sel.spanCuts text s).Pairwise fun a b => a.stop ≤ b.start) ∧
    (∀ s ∈ spans text, ∀ part next, [part, next] <:+: s.segments → ∀ a b,
      sel.cut? text s.stop part = some a → sel.cut? text s.stop next = some b → a.stop = b.start) ∧
    ∀ s ∈ spans text, ∀ t ∈ spans text, s ≠ t → ∀ a ∈ sel.spanCuts text s,
      ∀ b ∈ sel.spanCuts text t, a.Apart b ∨ a.Inside b ∨ b.Inside a := by
  refine ⟨sel.removeAllAt_eq text, ?_, fun s hs => pairwise_spanCuts hs, ?_, ?_⟩
  · intro s hs cut hcut
    obtain ⟨part, hpart, hcut⟩ := mem_spanCuts_iff.mp hcut
    have hinside := (takes_of_cut? hs hpart hcut).inside
    have hstart := Span.start_lt_of_mem_segments hs hpart
    omega
  · intro s hs part next hadjacent a b ha hb
    exact stop_eq_start hs hadjacent ha hb
  · intro s hs t ht hne a ha b hb
    rcases before_or_before hs ht hne with hbefore | hbefore
    · rcases apart_or_inside hbefore ht hs hb ha with hapart | hinside
      · exact .inl hapart.symm
      · exact .inr (.inl hinside)
    · rcases apart_or_inside hbefore hs ht ha hb with hapart | hinside
      · exact .inl hapart
      · exact .inr (.inr hinside)

-- one cut inside another, and two that touch
example : (spans "{a: {b: 1}, b: 2}".toList).map
      (spanCuts ⟨["a".toList, "b".toList], false⟩ "{a: {b: 1}, b: 2}".toList) =
    [[⟨5, 9⟩], [⟨1, 12⟩, ⟨12, 16⟩]] := by
  cbv

end Selection

end Pruner.Object
