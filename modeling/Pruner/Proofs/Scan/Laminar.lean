import Mathlib.Data.List.Nodup
import Mathlib.Data.List.Pairwise
import Pruner.Proofs.Scan.Agreement

/-!
# How the spans of a text lie to each other

Spans are reported in the order of their closers. Of two spans, the one reported first lies in front of
the other or strictly inside it, and either way it holds none of the commas of the other. So a comma
belongs to the innermost span around it and to no other.
-/

namespace Pruner.Scan

/-- A span lies to one reported after it in this way. -/
structure Span.Before (s t : Span) : Prop where
  stop_lt : s.stop < t.stop
  apart_or_inside : s.stop < t.start ∨ t.start < s.start
  commas : ∀ k ∈ t.commas, k < s.start ∨ s.stop < k

namespace Fragment

variable (F : Fragment) (index : Nat)

/-! ### Commas -/

theorem bounds_commas : ∀ k ∈ F.commas index, index ≤ k ∧ k < index + F.text.length := by
  induction F generalizing index with
  | nil => simp [commas]
  | literal s rest ih =>
      intro k hk
      have hbounds := ih (index + s.length) k hk
      rw [text_literal, List.length_append]
      omega
  | plain c rest ih =>
      intro k hk
      rw [commas_plain] at hk
      rw [text_plain, List.length_cons]
      rcases List.mem_append.mp hk with hk | hk
      · split_ifs at hk
        · obtain rfl := List.mem_singleton.mp hk
          omega
        · simp at hk
      · have hbounds := ih (index + 1) k hk
        omega
  | group a b inner rest _ ih =>
      intro k hk
      have hbounds := ih (index + 1 + inner.text.length + 1) k hk
      rw [← end_group]
      omega

theorem pairwise_commas : (F.commas index).Pairwise (· < ·) := by
  induction F generalizing index with
  | nil => exact .nil
  | literal s rest ih => exact ih _
  | plain c rest ih =>
      rw [commas]
      split_ifs
      · apply List.Pairwise.cons
        · intro k hk
          exact (rest.bounds_commas (index + 1) k hk).1
        · exact ih _
      · exact ih _
  | group a b inner rest _ ih => exact ih _

/-- The commas of a fragment that stands in a text are commas of that text. -/
theorem getElem?_commas {text tail : List Char} {prior : Option Char}
    (hcur : Cursor text index prior (F.text ++ tail)) : ∀ k ∈ F.commas index, text[k]? = some ',' := by
  induction F generalizing index prior with
  | nil => simp [commas]
  | literal s rest ih =>
      rw [text_literal, List.append_assoc] at hcur
      exact ih _ hcur.advance
  | plain c rest ih =>
      intro k hk
      rw [commas_plain] at hk
      rcases List.mem_append.mp hk with hk | hk
      · split_ifs at hk with hc
        · obtain rfl := List.mem_singleton.mp hk
          rw [hcur.getElem?_eq, hc]
        · simp at hk
      · exact ih _ hcur.advance_char k hk
  | group a b inner rest _ ih =>
      rw [text_group_append] at hcur
      exact ih _ hcur.advance_opener.advance.advance_closer

/-! ### Spans -/

theorem bounds_spans :
    ∀ s ∈ F.spans index, index ≤ s.start ∧ s.start < s.stop ∧ s.stop < index + F.text.length := by
  induction F generalizing index with
  | nil => simp [spans]
  | literal t rest ih =>
      intro s hs
      have hbounds := ih (index + t.length) s hs
      rw [text_literal, List.length_append]
      omega
  | plain c rest ih =>
      intro s hs
      have hbounds := ih (index + 1) s hs
      rw [text_plain, List.length_cons]
      omega
  | group a b inner rest ihi ihr =>
      intro s hs
      rw [← end_group]
      rw [spans, List.mem_append, List.mem_append] at hs
      rcases hs with (hs | hs) | hs
      · have hbounds := ihi (index + 1) s hs
        omega
      · split_ifs at hs
        · obtain rfl := List.mem_singleton.mp hs
          dsimp only
          omega
        · simp at hs
      · have hbounds := ihr (index + 1 + inner.text.length + 1) s hs
        omega

/-- A span has its commas between its braces. -/
theorem commas_inside : ∀ s ∈ F.spans index, ∀ k ∈ s.commas, s.start < k ∧ k < s.stop := by
  induction F generalizing index with
  | nil => simp [spans]
  | literal t rest ih => exact ih _
  | plain c rest ih => exact ih _
  | group a b inner rest ihi ihr =>
      intro s hs
      rw [spans, List.mem_append, List.mem_append] at hs
      rcases hs with (hs | hs) | hs
      · exact ihi _ s hs
      · split_ifs at hs
        · obtain rfl := List.mem_singleton.mp hs
          exact inner.bounds_commas (index + 1)
        · simp at hs
      · exact ihr _ s hs

/-- The commas outside all brackets are outside all spans. -/
theorem commas_outside : ∀ k ∈ F.commas index, ∀ s ∈ F.spans index, k < s.start ∨ s.stop < k := by
  induction F generalizing index with
  | nil => simp [commas]
  | literal t rest ih => exact ih _
  | plain c rest ih =>
      intro k hk s hs
      rw [commas_plain] at hk
      rcases List.mem_append.mp hk with hk | hk
      · split_ifs at hk
        · obtain rfl := List.mem_singleton.mp hk
          exact .inl (rest.bounds_spans (k + 1) s hs).1
        · simp at hk
      · exact ih _ k hk s hs
  | group a b inner rest _ ih =>
      intro k hk s hs
      have hbehind := (rest.bounds_commas (index + 1 + inner.text.length + 1) k hk).1
      rw [spans, List.mem_append, List.mem_append] at hs
      rcases hs with (hs | hs) | hs
      · have hbounds := inner.bounds_spans (index + 1) s hs
        exact .inr (by omega)
      · split_ifs at hs
        · obtain rfl := List.mem_singleton.mp hs
          exact .inr (by dsimp only; omega)
        · simp at hs
      · exact ih _ k hk s hs

end Fragment

namespace Span.Before

theorem of_apart {s t : Span} (hst : s.stop < t.start) (ht : t.start < t.stop)
    (hcommas : ∀ k ∈ t.commas, t.start < k) : s.Before t := by
  constructor
  · exact Nat.lt_trans hst ht
  · exact .inl hst
  · intro k hk
    exact .inr (Nat.lt_trans hst (hcommas k hk))

/-- Two spans, one of which is reported first, share no comma. -/
theorem disjoint_commas {s t : Span} (h : s.Before t)
    (hs : ∀ k ∈ s.commas, s.start < k ∧ k < s.stop) : s.commas.Disjoint t.commas := by
  intro k hk hk'
  have hinside := hs k hk
  have houtside := h.commas k hk'
  omega

end Span.Before

/-- Spans of a fragment come in the order of their closers: those inside a group, then the group, then
those behind it. -/
theorem Fragment.pairwise_spans (F : Fragment) (index : Nat) :
    (F.spans index).Pairwise Span.Before := by
  induction F generalizing index with
  | nil => exact .nil
  | literal t rest ih => exact ih _
  | plain c rest ih => exact ih _
  | group a b inner rest ihi ihr =>
      have hinner := inner.bounds_spans (index + 1)
      rw [spans]
      apply List.pairwise_append.mpr
      refine ⟨List.pairwise_append.mpr ⟨ihi _, ?_, ?_⟩, ihr _, ?_⟩
      · split_ifs <;> simp
      · intro s hs t ht
        have hs' := hinner s hs
        split_ifs at ht
        · obtain rfl := List.mem_singleton.mp ht
          refine ⟨by dsimp only; omega, .inr (by dsimp only; omega), ?_⟩
          intro k hk
          exact inner.commas_outside (index + 1) k hk s hs
        · simp at ht
      · intro s hs t ht
        have ht' := rest.bounds_spans (index + 1 + inner.text.length + 1) t ht
        have hstop : s.stop < index + 1 + inner.text.length + 1 := by
          rcases List.mem_append.mp hs with hs | hs
          · have hs' := hinner s hs
            omega
          · split_ifs at hs
            · obtain rfl := List.mem_singleton.mp hs
              dsimp only
              omega
            · simp at hs
        apply Span.Before.of_apart
        · omega
        · exact ht'.2.1
        · intro k hk
          exact (rest.commas_inside _ t ht k hk).1

/-! ### Whole texts -/

namespace Course

theorem bounds_spans (R : Course) (index : Nat) :
    ∀ s ∈ R.spans index, index ≤ s.start ∧ s.start < s.stop ∧ ∀ k ∈ s.commas, s.start < k := by
  induction R generalizing index with
  | done tail => simp [spans]
  | literal t rest ih =>
      intro s hs
      have hbounds := ih (index + t.length) s hs
      exact ⟨by omega, hbounds.2⟩
  | plain c rest ih | opening b rest ih | closing b rest ih =>
      intro s hs
      have hbounds := ih (index + 1) s hs
      exact ⟨by omega, hbounds.2⟩
  | group b inner rest ih =>
      intro s hs
      rw [spans, List.mem_append] at hs
      rcases hs with hs | hs
      · have hbounds := (Fragment.group b b inner .nil).bounds_spans index s hs
        have hcommas := (Fragment.group b b inner .nil).commas_inside index s hs
        exact ⟨hbounds.1, hbounds.2.1, fun k hk => (hcommas k hk).1⟩
      · have hbounds := ih (index + 1 + inner.text.length + 1) s hs
        exact ⟨by omega, hbounds.2⟩

theorem pairwise_spans (R : Course) (index : Nat) : (R.spans index).Pairwise Span.Before := by
  induction R generalizing index with
  | done tail => exact .nil
  | literal t rest ih => exact ih _
  | plain c rest ih | opening b rest ih | closing b rest ih => exact ih _
  | group b inner rest ih =>
      rw [spans]
      apply List.pairwise_append.mpr
      refine ⟨Fragment.pairwise_spans _ _, ih _, ?_⟩
      intro s hs t ht
      have hs' := (Fragment.group b b inner .nil).bounds_spans index s hs
      have ht' := rest.bounds_spans (index + 1 + inner.text.length + 1) t ht
      rw [← Fragment.end_group, Fragment.text_nil, List.length_nil] at hs'
      exact .of_apart (by omega) ht'.2.1 ht'.2.2

end Course

theorem pairwise_spans (text : List Char) : (spans text).Pairwise Span.Before := by
  obtain ⟨R, rfl, hR⟩ := Course.exists_course text
  rw [Course.spans_eq hR]
  exact R.pairwise_spans 0

theorem nodup_spans (text : List Char) : (spans text).Nodup := by
  apply (pairwise_spans text).imp
  rintro s t hbefore rfl
  exact Nat.lt_irrefl _ hbefore.stop_lt

/-- Of two spans of a text, one is reported before the other. -/
theorem before_or_before {text : List Char} {s t : Span} (hs : s ∈ spans text) (ht : t ∈ spans text)
    (hne : s ≠ t) : s.Before t ∨ t.Before s := by
  have hsymm : Std.Symm fun s t : Span => s.Before t ∨ t.Before s := ⟨fun _ _ => Or.symm⟩
  have hpairwise : (spans text).Pairwise fun s t => s.Before t ∨ t.Before s :=
    (pairwise_spans text).imp Or.inl
  exact hpairwise.forall hs ht hne

/-- A span stands between two braces of the text, and its commas stand between these in order. -/
theorem Span.bounds {text : List Char} {s : Span} (hs : s ∈ spans text) :
    (text[s.start]? = some '{' ∧ text[s.stop]? = some '}' ∧ s.start < s.stop ∧
      s.stop < text.length) ∧
    s.commas.Pairwise (· < ·) ∧
      ∀ k ∈ s.commas, s.start < k ∧ k < s.stop ∧ text[k]? = some ',' := by
  obtain ⟨stack, F, tail, -, hdrop, -, -, heq⟩ := mem_spans_iff_found.mp hs
  have hcur : Cursor text s.start _ ('{' :: (F.text ++ '}' :: tail)) := ⟨rfl, hdrop⟩
  have hinside := hcur.advance_opener (b := .brace)
  have hclose := hinside.advance.getElem?_eq
  obtain ⟨hlt, -⟩ := List.getElem?_eq_some_iff.mp hclose
  rw [heq]
  refine ⟨⟨hcur.getElem?_eq, hclose, by dsimp only; omega, hlt⟩, F.pairwise_commas _, ?_⟩
  intro k hk
  obtain ⟨hfirst, hlast⟩ := F.bounds_commas (s.start + 1) k hk
  exact ⟨hfirst, hlast, F.getElem?_commas _ hinside k hk⟩

/-- The spans of a text are laminar: each stands between two braces, closers come in order, openers
differ, and two spans lie apart or one strictly inside the other. Each owns the commas that it reports,
which stand between its braces in order: none of them is inside a span within, and none belongs to
another span. -/
theorem spans_laminar (text : List Char) :
    (∀ s ∈ spans text, text[s.start]? = some '{' ∧ text[s.stop]? = some '}' ∧ s.start < s.stop ∧
      s.stop < text.length) ∧
    ((spans text).map Span.stop).Pairwise (· < ·) ∧ ((spans text).map Span.start).Nodup ∧
    (∀ s ∈ spans text, ∀ t ∈ spans text, s ≠ t →
      (s.stop < t.start ∨ t.stop < s.start) ∨
        (s.start < t.start ∧ t.stop < s.stop) ∨ (t.start < s.start ∧ s.stop < t.stop)) ∧
    (∀ s ∈ spans text, s.commas.Pairwise (· < ·) ∧
      ∀ k ∈ s.commas, s.start < k ∧ k < s.stop ∧ text[k]? = some ',') ∧
    (∀ s ∈ spans text, ∀ t ∈ spans text, s.start < t.start → t.stop < s.stop →
      ∀ k ∈ s.commas, ¬ (t.start ≤ k ∧ k ≤ t.stop)) ∧
    ∀ s ∈ spans text, ∀ t ∈ spans text, s ≠ t → s.commas.Disjoint t.commas := by
  have hinside : ∀ s ∈ spans text, ∀ k ∈ s.commas, s.start < k ∧ k < s.stop := by
    intro s hs k hk
    obtain ⟨-, -, hcommas⟩ := Span.bounds hs
    exact ⟨(hcommas k hk).1, (hcommas k hk).2.1⟩
  refine ⟨fun s hs => (Span.bounds hs).1, ?_, ?_, ?_, fun s hs => (Span.bounds hs).2, ?_, ?_⟩
  · apply List.pairwise_map.mpr
    exact (pairwise_spans text).imp Span.Before.stop_lt
  · apply List.pairwise_map.mpr
    apply (pairwise_spans text).imp_of_mem
    intro s t hs ht hbefore heq
    have hside := hbefore.apart_or_inside
    have hlt := (Span.bounds hs).1.2.2.1
    omega
  · intro s hs t ht hne
    rcases before_or_before hs ht hne with hbefore | hbefore
    · have hlt := hbefore.stop_lt
      have hside := hbefore.apart_or_inside
      omega
    · have hlt := hbefore.stop_lt
      have hside := hbefore.apart_or_inside
      omega
  · intro s hs t ht hstart hstop k hk hcovered
    have hne : t ≠ s := by
      rintro rfl
      exact Nat.lt_irrefl _ hstart
    rcases before_or_before ht hs hne with hbefore | hbefore
    · have houtside := hbefore.commas k hk
      omega
    · have hlt := hbefore.stop_lt
      omega
  · intro s hs t ht hne
    rcases before_or_before hs ht hne with hbefore | hbefore
    · exact hbefore.disjoint_commas (hinside s hs)
    · exact List.disjoint_comm.mp (hbefore.disjoint_commas (hinside t ht))

end Pruner.Scan
