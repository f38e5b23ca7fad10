import Pruner.Proofs.Object.Levels
import Pruner.Proofs.Object.Steady

/-!
# Removal from all spans

Removal strips every group on the course of a text, and the pass goes the stripped course through
what is left. So the removals for two lists of names, one after the other, are the removal for both
lists at once.
-/

namespace Pruner.Scan.Course

open Object

/-- A course as a fragment in which brackets that close nothing, or never close, are characters. -/
def flat : Course → Fragment
  | done tail => .literal tail .nil
  | literal s rest => .literal s rest.flat
  | plain c rest => .plain c rest.flat
  | opening b rest => .plain b.opener rest.flat
  | closing b rest => .plain b.closer rest.flat
  | group b inner rest => .group b b inner rest.flat

theorem text_flat (R : Course) : R.flat.text = R.text := by
  induction R with
  | done tail => simp [flat, text]
  | literal s rest ih => simp [flat, text, ih]
  | plain c rest ih => simp [flat, text, ih]
  | opening b rest ih => simp [flat, text, ih]
  | closing b rest ih => simp [flat, text, ih]
  | group b inner rest ih => simp [flat, text, ih]

def strip (sel : Selection) : Course → Course
  | done tail => done tail
  | literal s rest => literal s (rest.strip sel)
  | plain c rest => plain c (rest.strip sel)
  | opening b rest => opening b (rest.strip sel)
  | closing b rest => closing b (rest.strip sel)
  | group b inner rest =>
      group b (if b = .brace then sel.prune (sel.strip inner) else sel.strip inner)
        (rest.strip sel)

theorem flat_strip (sel : Selection) (R : Course) : (R.strip sel).flat = sel.strip R.flat := by
  induction R with
  | done tail => rfl
  | literal s rest ih => simp [strip, flat, Selection.strip, ih]
  | plain c rest ih => simp [strip, flat, Selection.strip, ih]
  | opening b rest ih => simp [strip, flat, Selection.strip, ih]
  | closing b rest ih => simp [strip, flat, Selection.strip, ih]
  | group b inner rest ih => simp [strip, flat, Selection.strip, ih]

theorem text_strip (sel : Selection) (R : Course) :
    (R.strip sel).text = (sel.strip R.flat).text := by
  rw [← flat_strip, text_flat]

theorem head?_text_strip (sel : Selection) (R : Course) :
    (R.strip sel).text.head? = R.text.head? := by
  induction R with
  | literal s rest ih => simp [strip, text, List.head?_append, ih]
  | done tail => rfl
  | plain c rest _ => rfl
  | opening b rest _ => rfl
  | closing b rest _ => rfl
  | group b inner rest _ => rfl

theorem Steady.strip (sel : Selection) {R : Course} {kinds : List Bracket} (hR : R.Steady kinds) :
    (R.strip sel).Steady kinds := by
  induction R generalizing kinds with
  | done tail => exact hR
  | literal s rest ih =>
      obtain ⟨hkinds, hs, hrest⟩ := hR
      refine ⟨hkinds, hs.imp_right fun h => ⟨h.1, ?_⟩, ih hrest⟩
      exact atLineEnd_congr (head?_text_strip sel rest).symm h.2
  | plain c rest ih =>
      obtain ⟨hopen, hclose, hc, hrest⟩ := hR
      exact ⟨hopen, hclose, hc, ih hrest⟩
  | opening b rest ih => exact ih hR
  | closing b rest ih => exact ⟨hR.1, ih hR.2⟩
  | group b inner rest ih =>
      obtain ⟨hb, hm, hinner, hrest⟩ := hR
      have hboth : ∀ φ : Fragment.Shape, inner.Fits φ →
          (if b = .brace then sel.prune (sel.strip inner) else sel.strip inner).Fits φ := by
        intro φ hφ
        split_ifs
        · exact (sel.fits_strip hφ).prune sel
        · exact sel.fits_strip hφ
      exact ⟨hb, Fragment.matched_iff_fits.mpr (hboth _ (Fragment.matched_iff_fits.mp hm)),
        hboth _ hinner, ih hrest⟩

/-- Stripping some names and then others strips all of them. -/
theorem strip_strip {xs ys : List (List Char)} {shorthand : Bool} {R : Course}
    {kinds : List Bracket} (hR : R.Steady kinds) :
    (R.strip ⟨xs, shorthand⟩).strip ⟨ys, shorthand⟩ = R.strip ⟨xs ++ ys, shorthand⟩ := by
  induction R generalizing kinds with
  | done tail => rfl
  | literal s rest ih => simp only [strip, ih hR.2.2]
  | plain c rest ih => simp only [strip, ih hR.2.2.2]
  | opening b rest ih => simp only [strip, ih hR]
  | closing b rest ih => simp only [strip, ih hR.2]
  | group b inner rest ih =>
      obtain ⟨-, -, hinner, hrest⟩ := hR
      have hsound : (Fragment.group b b inner .nil).Fits Fragment.soundShape :=
        ⟨trivial, Fragment.sound_of_steady hinner, trivial⟩
      have hgroup := Selection.strip_strip xs ys shorthand hsound
      simp only [Selection.strip, Fragment.group.injEq] at hgroup
      simp only [strip, ih hrest, hgroup]

end Pruner.Scan.Course

namespace Pruner.Object.Selection

open Scan Text Cut

variable (sel : Selection)

theorem cutsStrip_flat {R : Course} {kinds : List Bracket} {prior : Option Char}
    (hR : R.Follows kinds prior) : sel.CutsStrip R.flat := by
  induction R generalizing kinds prior with
  | done tail => exact cutsStrip_literal fun _ => rfl
  | literal s rest ih => exact cutsStrip_literal (ih hR.2.2.2)
  | plain c rest ih => exact cutsStrip_plain (ih hR.2.2.2)
  | opening b rest ih => exact cutsStrip_plain (ih hR)
  | closing b rest ih => exact cutsStrip_plain (ih hR.2)
  | group b inner rest ih =>
      obtain ⟨-, -, hinner, hrest⟩ := hR
      have hsound := Fragment.sound_of_reads hinner
      obtain ⟨hcut, hfirst, hothers⟩ := sel.cutsStrip_all inner hsound
      exact cutsStrip_group hcut hfirst hothers hsound (ih hrest)

theorem flatMap_spans_course {text : List Char} {index : Nat} {prior : Option Char} {R : Course}
    {kinds : List Bracket} (hR : R.Follows kinds prior) (hcur : Cursor text index prior R.text) :
    (R.spans index).flatMap (sel.spanCuts text) = sel.innerCuts R.flat index := by
  induction R generalizing kinds prior index with
  | done tail => rfl
  | literal s rest ih => exact ih hR.2.2.2 hcur.advance
  | plain c rest ih => exact ih hR.2.2.2 hcur.advance_char
  | opening b rest ih => exact ih hR hcur.advance_opener
  | closing b rest ih => exact ih hR.2 hcur.advance_closer
  | group b inner rest ih =>
      obtain ⟨-, hm, hinner, hrest⟩ := hR
      have hreads : (Fragment.group b b inner .nil).Reads prior rest.text := ⟨hinner, trivial⟩
      have hgroup := sel.flatMap_spans (.group b b inner .nil) (by simp [Fragment.matched, hm])
        hreads (by simpa [Course.text] using hcur)
      have hlater := ih hrest hcur.advance_opener.advance.advance_closer
      rw [Course.spans, List.flatMap_append, hgroup, hlater]
      simp [innerCuts, Course.flat]

theorem keep_course {R : Course} (hR : R.Follows [] none) :
    keep (sel.innerCuts R.flat 0) 0 R.text = (R.strip sel).text := by
  rw [Course.text_strip, ← sel.cutsStrip_flat hR 0, Course.text_flat]

/-- The cuts of a text are those inside the groups of its course. -/
theorem removeAll_course {R : Course} (hR : R.Follows [] none) :
    sel.removeAll R.text = ⟨(R.strip sel).text, (sel.innerCuts R.flat 0).length⟩ := by
  have hcur : Cursor R.text 0 none R.text := ⟨rfl, rfl⟩
  have hbounds := sel.innerCuts_bounds R.flat 0
  rw [removeAll, Course.spans_eq hR, sel.flatMap_spans_course hR hcur,
    applyAll_eq_keep R.text fun cut hcut => Nat.le_of_lt (hbounds cut hcut).2.1,
    sel.keep_course hR]

/-- A removal that changes nothing has made no cuts. -/
theorem count_eq_zero_of_text_eq {text : List Char} (h : (sel.removeAll text).text = text) :
    (sel.removeAll text).count = 0 := by
  obtain ⟨R, rfl, hR⟩ := Course.exists_course text
  rw [sel.removeAll_course hR] at h ⊢
  rw [List.length_eq_zero_iff, List.eq_nil_iff_forall_not_mem]
  intro cut hcut
  obtain ⟨hstart, hlt, hstop⟩ := sel.innerCuts_bounds R.flat 0 cut hcut
  have hcover : (sel.innerCuts R.flat 0).any (covers · cut.start) = true :=
    List.any_eq_true.mpr ⟨cut, hcut, covers_iff.mpr ⟨Nat.le_refl _, hlt⟩⟩
  rw [Course.text_flat] at hstop
  have hshorter := length_keep_lt hstart (by omega : cut.start < 0 + R.text.length) hcover
  rw [sel.keep_course hR] at hshorter
  exact absurd (congrArg List.length h) (Nat.ne_of_lt hshorter)

theorem removeAll_sublist (text : List Char) : (sel.removeAll text).text.Sublist text := by
  obtain ⟨R, rfl, hR⟩ := Course.exists_course text
  rw [sel.removeAll_course hR, ← sel.keep_course hR]
  exact keep_sublist _ _ _

/-- A text stays as it is exactly when no span of it has a selected property. -/
theorem removeAll_eq_self_iff (text : List Char) :
    (sel.removeAll text).text = text ↔
      ∀ s ∈ spans text, ∀ part ∈ s.segments, sel.selects (part.slice text) = false := by
  constructor
  · intro h s hs part hpart
    have hcuts := List.length_eq_zero_iff.mp (sel.count_eq_zero_of_text_eq h)
    have hnone := List.filterMap_eq_nil_iff.mp (List.flatMap_eq_nil_iff.mp hcuts s hs) part hpart
    cases hsel : sel.selects (part.slice text) with
    | false => rfl
    | true => simp [cut?, hsel] at hnone
  · intro h
    have hcuts : (spans text).flatMap (sel.spanCuts text) = [] := by
      apply List.flatMap_eq_nil_iff.mpr
      intro s hs
      apply List.filterMap_eq_nil_iff.mpr
      intro part hpart
      simp [cut?, h s hs part hpart]
    simp [removeAll, hcuts]

theorem removeAll_no_names (shorthand : Bool) (text : List Char) :
    ((Selection.mk [] shorthand).removeAll text).text = text := by
  apply (removeAll_eq_self_iff _ text).mpr
  intro s _ part _
  rw [selects]
  split <;> rfl

/-- Of the names, only which they are matters. -/
theorem removeAll_congr {xs ys : List (List Char)} (h : ∀ name, name ∈ xs ↔ name ∈ ys)
    (shorthand : Bool) :
    (Selection.mk xs shorthand).removeAll = (Selection.mk ys shorthand).removeAll := by
  have hselects : (Selection.mk xs shorthand).selects = (Selection.mk ys shorthand).selects := by
    funext property
    simp only [selects]
    cases key? shorthand property with
    | none => rfl
    | some key => rw [Bool.eq_iff_iff, List.contains_iff_mem, List.contains_iff_mem, h]
  have hcut : (Selection.mk xs shorthand).cut? = (Selection.mk ys shorthand).cut? := by
    funext text close segment
    rw [cut?, cut?, hselects]
  have hspan : (Selection.mk xs shorthand).spanCuts = (Selection.mk ys shorthand).spanCuts := by
    funext text span
    rw [spanCuts, spanCuts, cuts, cuts, hcut]
  funext text
  rw [removeAll, removeAll, hspan]

/-! ### Two removals -/

section Steady

variable {R : Course} (hR : R.Steady [])

include hR

theorem text_removeAll : (sel.removeAll R.text).text = (R.strip sel).text := by
  rw [sel.removeAll_course (Course.follows_of_steady hR none)]

theorem removeAll_append (xs ys : List (List Char)) (shorthand : Bool) :
    ((Selection.mk ys shorthand).removeAll ((Selection.mk xs shorthand).removeAll R.text).text).text =
      ((Selection.mk (xs ++ ys) shorthand).removeAll R.text).text := by
  rw [text_removeAll _ hR, text_removeAll _ (hR.strip _), text_removeAll _ hR,
    Course.strip_strip hR]

theorem foldl_removeAll (names : List (List Char)) (shorthand : Bool) :
    names.foldl (fun text name => ((Selection.mk [name] shorthand).removeAll text).text) R.text =
      ((Selection.mk names shorthand).removeAll R.text).text := by
  induction names generalizing R with
  | nil => exact (removeAll_no_names shorthand R.text).symm
  | cons name names ih =>
      rw [List.foldl_cons, text_removeAll _ hR, ih (hR.strip _), ← text_removeAll _ hR,
        removeAll_append hR]
      rfl

end Steady

/-- While a span is open, every slash that the pass for spans meets opens a comment. -/
def SlashesOpenComments (text : List Char) : Prop :=
  ∀ (stack : Nesting) (i : Nat), ScanAt text stack i → stack ≠ [] → ¬ BareSlash text i

theorem exists_steady_course {text : List Char} (h : SlashesOpenComments text) :
    ∃ R : Course, R.text = text ∧ R.Steady [] := by
  obtain ⟨R, rfl, hR⟩ := Course.exists_course text
  have hcur : Cursor R.text 0 none R.text := ⟨rfl, rfl⟩
  refine ⟨R, rfl, R.steady_of_stops hR hcur fun i hi => ?_⟩
  obtain ⟨stack, hstack, hscan⟩ := (ScanAt.pass_course R [] hR .start hcur).2 i hi
  exact h stack i hscan hstack

/-- Removal for one list of names and then for another is removal for both at once, and so is
removal name by name. The order of the two lists does not matter, and names that have already been
removed leave the text alone. -/
theorem removeAll_removeAll (text : List Char) (hslash : SlashesOpenComments text)
    (xs ys : List (List Char)) (shorthand : Bool) :
    ((Selection.mk ys shorthand).removeAll ((Selection.mk xs shorthand).removeAll text).text).text =
        ((Selection.mk (xs ++ ys) shorthand).removeAll text).text ∧
      ((Selection.mk ys shorthand).removeAll
          ((Selection.mk xs shorthand).removeAll text).text).text =
        ((Selection.mk xs shorthand).removeAll
          ((Selection.mk ys shorthand).removeAll text).text).text ∧
      xs.foldl (fun text name => ((Selection.mk [name] shorthand).removeAll text).text) text =
        ((Selection.mk xs shorthand).removeAll text).text ∧
      ((∀ name ∈ ys, name ∈ xs) →
        ((Selection.mk ys shorthand).removeAll
            ((Selection.mk xs shorthand).removeAll text).text).text =
          ((Selection.mk xs shorthand).removeAll text).text ∧
        ((Selection.mk ys shorthand).removeAll
            ((Selection.mk xs shorthand).removeAll text).text).count = 0) := by
  obtain ⟨R, rfl, hR⟩ := exists_steady_course hslash
  refine ⟨removeAll_append hR xs ys shorthand, ?_, foldl_removeAll hR xs shorthand, fun hys => ?_⟩
  · have hcomm : ∀ name, name ∈ xs ++ ys ↔ name ∈ ys ++ xs := by
      intro name
      rw [List.mem_append, List.mem_append, or_comm]
    rw [removeAll_append hR, removeAll_append hR, removeAll_congr hcomm]
  · have hboth : ∀ name, name ∈ xs ++ ys ↔ name ∈ xs := by
      intro name
      rw [List.mem_append]
      exact ⟨fun h => h.elim id (hys name), .inl⟩
    have htext := removeAll_append hR xs ys shorthand
    rw [removeAll_congr hboth] at htext
    exact ⟨htext, count_eq_zero_of_text_eq _ htext⟩

theorem removeAll_removeAll_nested :
    ((Selection.mk ["b".toList] false).removeAll ((Selection.mk ["a".toList] false).removeAll
        "if ( \x7b b: \x7ba: 1, c\x7d, \x7b a: '\x7d', b: [2, 3], c: \x7bb: 1\x7d\x7d".toList).text).text =
      "if ( \x7b b: \x7bc\x7d, \x7b c: \x7b\x7d\x7d".toList := by
  have hboth : ((Selection.mk ["a".toList, "b".toList] false).removeAll
      "if ( \x7b b: \x7ba: 1, c\x7d, \x7b a: '\x7d', b: [2, 3], c: \x7bb: 1\x7d\x7d".toList).text =
        "if ( \x7b b: \x7bc\x7d, \x7b c: \x7b\x7d\x7d".toList := by
    rw [removeAll, applyAll_eq_keep _ (by decide +kernel)]
    decide +kernel
  have hnone : '/' ∉
      "if ( \x7b b: \x7ba: 1, c\x7d, \x7b a: '\x7d', b: [2, 3], c: \x7bb: 1\x7d\x7d".toList := by
    decide +kernel
  rw [(removeAll_removeAll _ ?_ ["a".toList] ["b".toList] false).1]
  · exact hboth
  · intro stack i _ _ hslash
    exact hnone (List.mem_of_getElem? hslash.1)

end Pruner.Object.Selection
