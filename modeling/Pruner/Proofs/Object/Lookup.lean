import Pruner.Proofs.Object.Composition
import Pruner.Proofs.Scan.Traversal

/-!
# Removing properties by index

The removals again, with every look-up that can miss. Beyond what the scans ask for, the cuts of a span
match blanks and keys between two indices, and between indices in the wrong order nothing matches, not
even an empty text. The segments of a span are always in order, so the look-ups never miss.
-/

namespace Pruner.Scan

namespace Segment

/-- The segment is a stretch of the text. -/
def Within (text : List Char) (s : Segment) : Prop :=
  s.start ≤ s.stop ∧ s.stop ≤ text.length

theorem Within.length_slice {text : List Char} {s : Segment} (h : s.Within text) :
    (s.slice text).length = s.stop - s.start := by
  obtain ⟨hle, hstop⟩ := h
  rw [slice, List.length_take, List.length_drop]
  omega

theorem slice_add (text : List Char) (s : Segment) (n : Nat) :
    slice text ⟨s.start + n, s.stop⟩ = (s.slice text).drop n := by
  simp only [slice, List.drop_take, List.drop_drop, Nat.sub_sub]

theorem Within.add {text : List Char} {s : Segment} (h : s.Within text) {n : Nat}
    (hn : n ≤ (s.slice text).length) : Within text ⟨s.start + n, s.stop⟩ := by
  have hlength := h.length_slice
  obtain ⟨hle, hstop⟩ := h
  exact ⟨by dsimp only; omega, hstop⟩

end Segment

theorem Fragment.bounds_between (F : Fragment) {start index : Nat} (hle : start ≤ index) :
    ∀ part ∈ Segment.between start (F.commas index) (index + F.text.length),
      part.start ≤ part.stop ∧ part.stop ≤ index + F.text.length := by
  induction F generalizing start index with
  | nil => simpa [commas] using hle
  | literal s rest ih =>
      have hrest := ih (Nat.le_trans hle (Nat.le_add_right index s.length))
      simpa [commas, Nat.add_assoc] using hrest
  | plain c rest ih =>
      have hend : index + 1 + rest.text.length = index + (plain c rest).text.length := by
        simp
        omega
      rw [commas, ← hend]
      split
      · intro part hpart
        rw [Segment.between_cons, List.mem_cons] at hpart
        rcases hpart with rfl | hpart
        · exact ⟨hle, by dsimp only; omega⟩
        · exact ih (Nat.le_refl _) part hpart
      · exact ih (by omega)
  | group a b inner rest _ ih =>
      rw [commas, ← end_group]
      exact ih (by omega)

theorem within_of_drop {text : List Char} {start : Nat} {F : Fragment} {tail : List Char}
    (hdrop : text.drop start = '{' :: (F.text ++ '}' :: tail)) :
    ∀ part ∈ Segment.between (start + 1) (F.commas (start + 1)) (start + 1 + F.text.length),
      part.Within text := by
  have hlength := congrArg List.length hdrop
  simp only [List.length_drop, List.length_cons, List.length_append] at hlength
  intro part hpart
  obtain ⟨hle, hstop⟩ := F.bounds_between (Nat.le_refl (start + 1)) part hpart
  exact ⟨hle, by omega⟩

end Pruner.Scan

namespace Pruner.Object

open Scan Text

/-! ### Blanks and keys between two indices -/

/-- Index after the blanks at the start of a segment. Indices behind the end of the text stand for its
end. -/
def blanksEndAt (text : List Char) (s : Segment) : Except Miss Nat :=
  let clamped : Segment := ⟨min s.start text.length, min s.stop text.length⟩
  if clamped.stop < clamped.start then .error .pattern
  else .ok (clamped.start + blanks (clamped.slice text))

theorem blanksEndAt_eq {text : List Char} {s : Segment} (h : s.Within text) :
    blanksEndAt text s = .ok (s.start + blanks (s.slice text)) := by
  obtain ⟨hle, hstop⟩ := h
  simp only [blanksEndAt, Nat.min_eq_left (Nat.le_trans hle hstop), Nat.min_eq_left hstop]
  rw [if_neg (Nat.not_lt.mpr hle)]

/-- The lone identifier that a segment starts with. -/
def shorthandKeyAt (text : List Char) (s : Segment) : Except Miss (Option (List Char)) :=
  match s.slice text with
  | [] => .ok none
  | c :: cs =>
    if isKeyStart c then do
      let name := c :: cs.takeWhile isIdentifierChar
      let stop ← blanksEndAt text ⟨s.start + name.length, s.stop⟩
      return if stop = s.stop then some name else none
    else .ok none

def leadingKeyAt (shorthand : Bool) (text : List Char) (s : Segment) :
    Except Miss (Option (List Char)) :=
  match explicitKey? (s.slice text) with
  | some key => .ok (some key)
  | none => if shorthand then shorthandKeyAt text s else .ok none

theorem all_isBlank_iff (text : List Char) : text.all isBlank = true ↔ blanks text = text.length := by
  induction text with
  | nil => simp
  | cons c cs ih => cases hc : isBlank c <;> simp [blanks_cons, hc, ih]

theorem drop_takeWhile_length {p : Char → Bool} (cs : List Char) :
    cs.drop (cs.takeWhile p).length = cs.dropWhile p := by
  calc
    cs.drop (cs.takeWhile p).length =
        (cs.takeWhile p ++ cs.dropWhile p).drop (cs.takeWhile p).length := by
      rw [List.takeWhile_append_dropWhile]
    _ = cs.dropWhile p := List.drop_left

theorem shorthandKeyAt_eq {text : List Char} {s : Segment} (h : s.Within text) :
    shorthandKeyAt text s = .ok (shorthandKey? (s.slice text)) := by
  have hlength := h.length_slice
  rw [shorthandKeyAt]
  cases hslice : s.slice text with
  | nil => rfl
  | cons c cs =>
      rw [hslice, List.length_cons] at hlength
      cases hstart : isKeyStart c with
      | false => simp [shorthandKey?, hstart]
      | true =>
          have hrest : (s.slice text).drop ((cs.takeWhile isIdentifierChar).length + 1) =
              cs.dropWhile isIdentifierChar := by
            rw [hslice, List.drop_succ_cons, drop_takeWhile_length]
          have hsplit := congrArg List.length
            (List.takeWhile_append_dropWhile (p := isIdentifierChar) (l := cs))
          rw [List.length_append] at hsplit
          have hname := h.add (n := (cs.takeWhile isIdentifierChar).length + 1)
            (by rw [hslice, List.length_cons]; omega)
          -- the identifier is alone when the blanks behind it reach the end of the segment
          have halone : s.start + ((cs.takeWhile isIdentifierChar).length + 1) +
              blanks (cs.dropWhile isIdentifierChar) = s.stop ↔
                (cs.dropWhile isIdentifierChar).all isBlank = true := by
            rw [all_isBlank_iff]
            omega
          simp only [List.length_cons, blanksEndAt_eq hname, Segment.slice_add, hrest, hstart,
            shorthandKey?, Miss.bind_ok, if_true, Bool.true_and, halone]
          rfl

theorem leadingKeyAt_eq (shorthand : Bool) {text : List Char} {s : Segment} (h : s.Within text) :
    leadingKeyAt shorthand text s = .ok (leadingKey? shorthand (s.slice text)) := by
  rw [leadingKeyAt, leadingKey?, shorthandKeyAt_eq h]
  cases explicitKey? (s.slice text) with
  | some key => rfl
  | none => cases shorthand <;> rfl

namespace Selection

variable (sel : Selection)

def selectsAt (text : List Char) (s : Segment) : Except Miss Bool := do
  match ← leadingKeyAt sel.shorthand text s with
  | some key => return sel.names.contains key
  | none => return false

def cutAt (text : List Char) (close : Nat) (segment : Segment) : Except Miss (Option Cut) := do
  let first ← blanksEndAt text segment
  if ← sel.selectsAt text ⟨first, segment.stop⟩ then
    let after := if segment.stop < close then segment.stop + 1 else segment.stop
    let last ← blanksEndAt text ⟨after, text.length⟩
    return some ⟨first, min last close⟩
  else return none

theorem selectsAt_eq {text : List Char} {s : Segment} (h : s.Within text) :
    sel.selectsAt text ⟨s.start + blanks (s.slice text), s.stop⟩ =
      .ok (sel.selects (s.slice text)) := by
  rw [selectsAt, leadingKeyAt_eq sel.shorthand (h.add (blanks_le_length (s.slice text))),
    Segment.slice_add, Miss.bind_ok, selects, key?]
  cases leadingKey? sel.shorthand ((s.slice text).drop (blanks (s.slice text))) <;> rfl

theorem cutAt_eq {text : List Char} {segment : Segment} {close : Nat} (h : segment.Within text)
    (hclose : close ≤ text.length) :
    sel.cutAt text close segment = .ok (sel.cut? text close segment) := by
  rw [cutAt, blanksEndAt_eq h, Miss.bind_ok, sel.selectsAt_eq h, Miss.bind_ok, cut?]
  generalize hafter : (if segment.stop < close then segment.stop + 1 else segment.stop) = after
  have hwithin : Segment.Within text ⟨after, text.length⟩ := by
    have hstop := h.2
    refine ⟨?_, Nat.le_refl _⟩
    dsimp only
    split at hafter <;> omega
  have hrest : Segment.slice text ⟨after, text.length⟩ = text.drop after := by
    rw [Segment.slice, List.take_of_length_le (by simp)]
  simp only [blanksEndAt_eq hwithin, hrest]
  cases sel.selects (segment.slice text) <;> rfl

def spanCutsAt (text : List Char) (span : Span) : Except Miss (List Cut) := do
  let cuts ← span.segments.mapM (sel.cutAt text span.stop)
  return cuts.filterMap id

def removeAllAt (text : List Char) : Except Miss Removal := do
  if sel.names = [] then return ⟨text, 0⟩
  let found ← (← spansAt text).mapM (sel.spanCutsAt text)
  return ⟨Cut.applyAll text found.flatten, found.flatten.length⟩

def removeInAt (text : List Char) (start : Nat) : Except Miss Removal := do
  match ← closingAt text start with
  | none => return ⟨text, 0⟩
  | some close =>
    match segmentsAt text (start + 1) close with
    | .error .value => return ⟨text, 0⟩
    | .error miss => throw miss
    | .ok parts =>
      let cuts ← sel.spanCutsAt text ⟨start, close, parts.dropLast.map Segment.stop⟩
      return ⟨Cut.applyAll text cuts, cuts.length⟩

theorem spanCutsAt_eq {text : List Char} {start : Nat} {F : Fragment} {tail : List Char}
    (hdrop : text.drop start = '{' :: (F.text ++ '}' :: tail)) :
    sel.spanCutsAt text ⟨start, start + 1 + F.text.length, F.commas (start + 1)⟩ =
      .ok (sel.spanCuts text ⟨start, start + 1 + F.text.length, F.commas (start + 1)⟩) := by
  have hwithin := within_of_drop hdrop
  have hstop : start + 1 + F.text.length ≤ text.length := by
    have hlength := congrArg List.length hdrop
    simp only [List.length_drop, List.length_cons, List.length_append] at hlength
    omega
  have hcuts := Miss.mapM_eq_ok fun part hpart => sel.cutAt_eq (hwithin part hpart) hstop
  rw [spanCutsAt, Span.segments, hcuts, Miss.bind_ok, List.filterMap_map]
  rfl

theorem removeAllAt_eq (text : List Char) : sel.removeAllAt text = .ok (sel.removeAll text) := by
  rw [removeAllAt]
  split
  · rename_i hnames
    obtain ⟨names, shorthand⟩ := sel
    obtain rfl : names = [] := hnames
    have htext := removeAll_no_names shorthand text
    have hcount := count_eq_zero_of_text_eq _ htext
    change _ = Except.ok (Removal.mk (removeAll _ text).text (removeAll _ text).count)
    rw [htext, hcount]
    rfl
  · have hcuts : ∀ s ∈ spans text, sel.spanCutsAt text s = .ok (sel.spanCuts text s) := by
      intro s hs
      obtain ⟨stack, F, tail, -, hdrop, -, -, heq⟩ := mem_spans_iff_found.mp hs
      rw [heq]
      exact sel.spanCutsAt_eq hdrop
    rw [spansAt_eq, Miss.bind_ok, Miss.mapM_eq_ok hcuts, Miss.bind_ok, ← List.flatMap_def]
    rfl

theorem removeInAt_eq (text : List Char) (start : Nat) :
    sel.removeInAt text start = .ok (sel.removeIn text start) := by
  rw [removeInAt, closingAt_eq, Miss.bind_ok, removeIn]
  cases hclose : closing? text start with
  | none => rfl
  | some close =>
      obtain ⟨F, tail, hdrop, hF, rfl⟩ := closing?_eq_some_iff.mp hclose
      simp only [segmentsAt_inside hdrop hF, segments_inside hdrop hF, Segment.dropLast_between,
        sel.spanCutsAt_eq hdrop]
      rfl

end Selection

end Pruner.Object
