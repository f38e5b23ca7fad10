import Pruner.Proofs.Comma.Runs
import Pruner.Proofs.Object.Composition
import Pruner.Proofs.Scan.Laminar

/-!
# Where cuts join a text

A cut ends in front of the brace that closes its span, or in front of the next property. So what
stands behind it is no blank, and it is a comma only if that comma came right behind another one. This
is why the removal of properties doubles no commas.
-/

namespace Pruner.Text

open Comma

section Joints

variable {text : List Char} {kept : Nat → Bool} {P : Prop}
  (hjoint : ∀ q d, kept q = false → kept (q + 1) = true → text[q + 1]? = some d →
    isBlank d = false ∧ (d = ',' → P))

include hjoint

theorem of_comma_behind_gap {s : List Char} {p : Nat} (hgone : kept p = false)
    (hdrop : text.drop (p + 1) = s)
    (h : (retain kept (p + 1) s)[blanks (retain kept (p + 1) s)]? = some ',') : P := by
  induction s generalizing p with
  | nil => simp [retain] at h
  | cons c cs ih =>
      have hget : text[p + 1]? = some c := by
        rw [← List.head?_drop, hdrop, List.head?_cons]
      have hnext : text.drop (p + 1 + 1) = cs := by
        rw [← List.tail_drop, hdrop, List.tail_cons]
      cases hkept : kept (p + 1) with
      | true =>
          obtain ⟨hsolid, hcomma⟩ := hjoint p c hgone hkept hget
          rw [retain, if_pos hkept, getElem?_blanks_solid hsolid] at h
          exact hcomma (Option.some.inj h)
      | false =>
          rw [retain, if_neg (by simp [hkept])] at h
          exact ih hkept hnext h

theorem comma_ahead_of_retain {s : List Char} {p : Nat} (hdrop : text.drop p = s)
    (h : (retain kept p s)[blanks (retain kept p s)]? = some ',') :
    s[blanks s]? = some ',' ∨ P := by
  induction s generalizing p with
  | nil => simp [retain] at h
  | cons c cs ih =>
      have hnext : text.drop (p + 1) = cs := by
        rw [← List.tail_drop, hdrop, List.tail_cons]
      cases hkept : kept p with
      | true =>
          rw [retain, if_pos hkept] at h
          cases hc : isBlank c with
          | true =>
              rw [getElem?_blanks_blank hc] at h ⊢
              exact ih hnext h
          | false =>
              rw [getElem?_blanks_solid hc] at h ⊢
              exact .inl h
      | false =>
          rw [retain, if_neg (by simp [hkept])] at h
          exact .inr (of_comma_behind_gap hjoint hkept hnext h)

/-- Deleting text doubles a comma only where a deletion ends at one. -/
theorem doubled_of_retain {s : List Char} {p : Nat} (hdrop : text.drop p = s)
    (h : Meets ',' ',' (retain kept p s)) : Meets ',' ',' s ∨ P := by
  have hsolid : isBlank ',' = false := by decide
  induction s generalizing p with
  | nil => exact absurd h (not_meets_nil _ _)
  | cons c cs ih =>
      have hnext : text.drop (p + 1) = cs := by
        rw [← List.tail_drop, hdrop, List.tail_cons]
      rw [meets_cons_iff hsolid]
      rw [retain] at h
      split_ifs at h
      · rcases (meets_cons_iff hsolid).mp h with ⟨rfl, hahead⟩ | h
        · rcases comma_ahead_of_retain hjoint hnext hahead with hahead | hP
          · exact .inl (.inl ⟨rfl, hahead⟩)
          · exact .inr hP
        · exact (ih hnext h).imp_left .inr
      · exact (ih hnext h).imp_left .inr

end Joints

end Pruner.Text

namespace Pruner.Scan

variable {text : List Char}

theorem Segment.stop_of_mem_between {start stop : Nat} {separators : List Nat} {part : Segment}
    (h : part ∈ between start separators stop) : part.stop ∈ separators ∨ part.stop = stop := by
  induction separators generalizing start with
  | nil =>
      rw [between_nil, List.mem_singleton] at h
      exact .inr (by rw [h])
  | cons p ps ih =>
      rw [between_cons, List.mem_cons] at h
      rcases h with rfl | h
      · exact .inl (by simp)
      · exact (ih h).imp_left (List.mem_cons_of_mem p)

/-- A segment ends at a comma or at the closing brace. -/
theorem Span.getElem?_stop {s : Span} (hs : s ∈ spans text) :
    text[s.stop]? = some '}' ∧
      ∀ part ∈ s.segments, part.stop = s.stop ∨ text[part.stop]? = some ',' := by
  obtain ⟨⟨-, hclose, -⟩, -, hcommas⟩ := bounds hs
  refine ⟨hclose, fun part hpart => ?_⟩
  rcases Segment.stop_of_mem_between hpart with hcomma | hstop
  · exact .inr (hcommas part.stop hcomma).2.2
  · exact .inl hstop

end Pruner.Scan

namespace Pruner.Object.Selection

open Scan Text Cut Comma

variable (sel : Selection)

theorem removeAll_eq_keep (text : List Char) :
    (sel.removeAll text).text = keep ((spans text).flatMap (sel.spanCuts text)) 0 text := by
  obtain ⟨R, rfl, hR⟩ := Course.exists_course text
  apply applyAll_eq_keep
  intro cut hcut
  rw [Course.spans_eq hR, sel.flatMap_spans_course hR ⟨rfl, rfl⟩] at hcut
  exact Nat.le_of_lt (sel.innerCuts_bounds R.flat 0 cut hcut).2.1

theorem char_behind_cut {text : List Char} {s : Span} (hs : s ∈ spans text) {part : Segment}
    (hpart : part ∈ s.segments) {cut : Cut} (hcut : sel.cut? text s.stop part = some cut) {d : Char}
    (hd : text[cut.stop]? = some d) : isBlank d = false ∧ (d = ',' → Meets ',' ',' text) := by
  obtain ⟨hclose, hparts⟩ := Span.getElem?_stop hs
  have hbrace : cut.stop = s.stop → isBlank d = false ∧ (d = ',' → Meets ',' ',' text) := by
    intro hstop
    rw [hstop, hclose] at hd
    obtain rfl := Option.some.inj hd
    exact ⟨by decide, fun h => absurd h (by decide)⟩
  simp only [cut?] at hcut
  split_ifs at hcut with hsel hlt
  · obtain rfl := Option.some.inj hcut
    simp only at hd hbrace
    by_cases hle : s.stop ≤ part.stop + 1 + blanks (text.drop (part.stop + 1))
    · exact hbrace (Nat.min_eq_right hle)
    · -- the cut takes a comma and the blanks behind it, and no more
      have hcomma : text[part.stop]? = some ',' :=
        (hparts part hpart).resolve_left (Nat.ne_of_lt hlt)
      rw [Nat.min_eq_left (by omega), ← List.getElem?_drop] at hd
      refine ⟨isBlank_of_getElem?_blanks hd, ?_⟩
      rintro rfl
      exact meets_of_getElem? hcomma hd
  · obtain rfl := Option.some.inj hcut
    exact hbrace (Nat.min_eq_right (by omega))

theorem doubled_of_removeAll {text : List Char} (h : Meets ',' ',' (sel.removeAll text).text) :
    Meets ',' ',' text := by
  rw [removeAll_eq_keep] at h
  refine (doubled_of_retain ?_ rfl h).elim id id
  intro q d hgone hkept hd
  simp only [Bool.not_eq_false', Bool.not_eq_true', List.any_eq_true, List.any_eq_false] at hgone hkept
  obtain ⟨cut, hcut, hcover⟩ := hgone
  have hstop : cut.stop = q + 1 := by
    have hafter := hkept cut hcut
    rw [covers_iff] at hafter hcover
    omega
  obtain ⟨s, hs, hcut⟩ := List.mem_flatMap.mp hcut
  obtain ⟨part, hpart, hcut⟩ := List.mem_filterMap.mp hcut
  exact sel.char_behind_cut hs hpart hcut (hstop ▸ hd)

end Pruner.Object.Selection
