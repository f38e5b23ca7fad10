import Pruner.Proofs.Scan.Course

/-!
# Where the readers come

The walk over a stretch of text and the pass for spans go from index to index: over a literal in one
step, over any other character one at a time. The pass looks for literals only while a bracket is
open.
-/

namespace Pruner.Scan

/-- The walk over a text from `start` comes to this index. -/
inductive WalkAt (text : List Char) (start : Nat) : Nat → Prop where
  | start : WalkAt text start start
  | literal {i j : Nat} : WalkAt text start i → literalEnd text i = .ok j → j ≠ i →
      WalkAt text start j
  | char {i : Nat} : WalkAt text start i → literalEnd text i = .ok i → WalkAt text start (i + 1)

/-- The pass for spans comes to this index with these brackets open. -/
inductive ScanAt (text : List Char) : Nesting → Nat → Prop where
  | start : ScanAt text [] 0
  | literal {stack : Nesting} {i j : Nat} : ScanAt text stack i → stack ≠ [] →
      literalEnd text i = .ok j → j ≠ i → ScanAt text stack j
  | char {stack : Nesting} {i : Nat} {c : Char} : ScanAt text stack i → text[i]? = some c →
      (stack ≠ [] → literalEnd text i = .ok i) → ScanAt text (stack.step i c).1 (i + 1)

/-! ### Cursors -/

/-- At this index a reader of the text has seen `prior` and has `rest` in front of it. -/
structure Cursor (text : List Char) (index : Nat) (prior : Option Char) (rest : List Char) :
    Prop where
  prior_eq : lastSignificant none (text.take index) = prior
  rest_eq : text.drop index = rest

namespace Cursor

variable {text : List Char} {index : Nat} {prior : Option Char}

theorem ofIndex (text : List Char) (index : Nat) :
    Cursor text index (lastSignificant none (text.take index)) (text.drop index) :=
  ⟨rfl, rfl⟩

theorem of_getElem? {c : Char} (h : text[index]? = some c) :
    Cursor text index (lastSignificant none (text.take index)) (c :: text.drop (index + 1)) := by
  obtain ⟨hlt, rfl⟩ := List.getElem?_eq_some_iff.mp h
  exact ⟨rfl, List.drop_eq_getElem_cons hlt⟩

theorem advance {s t : List Char} (h : Cursor text index prior (s ++ t)) :
    Cursor text (index + s.length) (lastSignificant prior s) t := by
  constructor
  · rw [List.take_add, lastSignificant_append, h.prior_eq, h.rest_eq, List.take_left]
  · rw [← List.drop_drop, h.rest_eq, List.drop_left]

theorem advance_char {c : Char} {t : List Char} (h : Cursor text index prior (c :: t)) :
    Cursor text (index + 1) (lastSignificant prior [c]) t :=
  advance (s := [c]) h

theorem advance_opener {b : Bracket} {t : List Char} (h : Cursor text index prior (b.opener :: t)) :
    Cursor text (index + 1) (some b.opener) t := by
  have hnext := h.advance_char
  rwa [Bracket.lastSignificant_opener] at hnext

theorem advance_closer {b : Bracket} {t : List Char} (h : Cursor text index prior (b.closer :: t)) :
    Cursor text (index + 1) (some b.closer) t := by
  have hnext := h.advance_char
  rwa [Bracket.lastSignificant_closer] at hnext

theorem getElem?_eq {c : Char} {t : List Char} (h : Cursor text index prior (c :: t)) :
    text[index]? = some c := by
  rw [← List.head?_drop, h.rest_eq]
  rfl

theorem literalEnd_eq {c : Char} {t : List Char} (h : Cursor text index prior (c :: t)) {n : Nat}
    (hn : literalLength prior (c :: t) = .ok n) : literalEnd text index = .ok (index + n) := by
  simp [literalEnd, h.rest_eq, h.prior_eq, hn]

theorem literalEnd_literal {s t : List Char} (h : Cursor text index prior (s ++ t)) (hs : s ≠ [])
    (hn : literalLength prior (s ++ t) = .ok s.length) :
    literalEnd text index = .ok (index + s.length) := by
  cases s with
  | nil => exact absurd rfl hs
  | cons c cs => exact h.literalEnd_eq hn

end Cursor

theorem literalLength_of_literalEnd {text : List Char} {i j : Nat}
    (h : literalEnd text i = .ok j) :
    i < text.length ∧ i ≤ j ∧
      literalLength (lastSignificant none (text.take i)) (text.drop i) = .ok (j - i) := by
  cases hdrop : text.drop i with
  | nil => simp [literalEnd, hdrop] at h
  | cons c rest =>
      have hlength := congrArg List.length hdrop
      rw [List.length_drop, List.length_cons] at hlength
      simp only [literalEnd, hdrop] at h
      cases hn : literalLength (lastSignificant none (text.take i)) (c :: rest) with
      | error what => simp [hn] at h
      | ok n =>
          obtain rfl : i + n = j := by simpa [hn] using h
          exact ⟨by omega, by omega, by rw [Nat.add_sub_cancel_left]⟩

/-- A literal at an index is some text in front of that index's rest. -/
theorem exists_literal_of_literalEnd {text : List Char} {i j : Nat} (h : literalEnd text i = .ok j)
    (hne : j ≠ i) :
    ∃ s t, Cursor text i (lastSignificant none (text.take i)) (s ++ t) ∧ s ≠ [] ∧
      literalLength (lastSignificant none (text.take i)) (s ++ t) = .ok s.length ∧
      j = i + s.length := by
  obtain ⟨hi, hij, hlen⟩ := literalLength_of_literalEnd h
  have hle := literalLength_le hlen
  have hcur := Cursor.ofIndex text i
  have htake : ((text.drop i).take (j - i)).length = j - i := List.length_take_of_le hle
  rw [← List.take_append_drop (j - i) (text.drop i)] at hcur hlen
  refine ⟨_, _, hcur, ?_, by rw [hlen, htake], by omega⟩
  apply List.ne_nil_of_length_pos
  omega

theorem Cursor.literalLength_eq_zero {text t : List Char} {i : Nat} {prior : Option Char} {c : Char}
    (hcur : Cursor text i prior (c :: t)) (h : literalEnd text i = .ok i) :
    literalLength prior (c :: t) = .ok 0 := by
  obtain ⟨-, -, hlen⟩ := literalLength_of_literalEnd h
  rwa [hcur.prior_eq, hcur.rest_eq, Nat.sub_self] at hlen

/-! ### Steps along a cursor -/

section Steps

variable {text : List Char} {start index : Nat} {prior : Option Char} {stack : Nesting}

theorem WalkAt.pass_literal {s t : List Char} (h : WalkAt text start index)
    (hcur : Cursor text index prior (s ++ t)) (hs : s ≠ [])
    (hn : literalLength prior (s ++ t) = .ok s.length) :
    WalkAt text start (index + s.length) := by
  have hpos := List.length_pos_iff.mpr hs
  exact h.literal (hcur.literalEnd_literal hs hn) (by omega)

theorem WalkAt.pass_char {c : Char} {t : List Char} (h : WalkAt text start index)
    (hcur : Cursor text index prior (c :: t)) (hn : literalLength prior (c :: t) = .ok 0) :
    WalkAt text start (index + 1) :=
  h.char (hcur.literalEnd_eq hn)

theorem ScanAt.pass_literal {s t : List Char} (h : ScanAt text stack index) (hstack : stack ≠ [])
    (hcur : Cursor text index prior (s ++ t)) (hs : s ≠ [])
    (hn : literalLength prior (s ++ t) = .ok s.length) :
    ScanAt text stack (index + s.length) := by
  have hpos := List.length_pos_iff.mpr hs
  exact h.literal hstack (hcur.literalEnd_literal hs hn) (by omega)

theorem ScanAt.pass_char {c : Char} {t : List Char} (h : ScanAt text stack index)
    (hcur : Cursor text index prior (c :: t))
    (hn : stack ≠ [] → literalLength prior (c :: t) = .ok 0) :
    ScanAt text (stack.step index c).1 (index + 1) :=
  h.char hcur.getElem?_eq fun hstack => hcur.literalEnd_eq (hn hstack)

/-- Where a reader stops in a fragment that begins at `index`. -/
def Fragment.stops : Fragment → Nat → List Nat
  | .nil, _ => []
  | .literal s rest, index => index :: rest.stops (index + s.length)
  | .plain _ rest, index => index :: rest.stops (index + 1)
  | .group _ _ inner rest, index =>
      index :: (inner.stops (index + 1) ++
        (index + 1 + inner.text.length) :: rest.stops (index + 1 + inner.text.length + 1))

/-- Where the pass stops inside a span on a course that begins at `index`. -/
def Course.stops : Course → List Bracket → Nat → List Nat
  | .done _, _, _ => []
  | .literal s rest, kinds, index => index :: rest.stops kinds (index + s.length)
  | .plain _ rest, kinds, index =>
      (if kinds = [] then [] else [index]) ++ rest.stops kinds (index + 1)
  | .opening b rest, kinds, index => rest.stops (push b kinds) (index + 1)
  | .closing _ rest, _, index => rest.stops [] (index + 1)
  | .group _ inner rest, kinds, index =>
      inner.stops (index + 1) ++ rest.stops kinds (index + 1 + inner.text.length + 1)

theorem WalkAt.pass_fragment (F : Fragment) {tail : List Char} (hF : F.Reads prior tail)
    (h : WalkAt text start index) (hcur : Cursor text index prior (F.text ++ tail)) :
    WalkAt text start (index + F.text.length) ∧ ∀ i ∈ F.stops index, WalkAt text start i := by
  induction F generalizing prior index tail with
  | nil => exact ⟨h, by simp [Fragment.stops]⟩
  | literal s rest ih =>
      obtain ⟨hs, hlen, hrest⟩ := hF
      rw [Fragment.text_literal, List.append_assoc] at hcur
      obtain ⟨hend, hstops⟩ := ih hrest (h.pass_literal hcur hs hlen) hcur.advance
      rw [Nat.add_assoc, ← List.length_append] at hend
      exact ⟨hend, List.forall_mem_cons.mpr ⟨h, hstops⟩⟩
  | plain c rest ih =>
      obtain ⟨_, _, hlen, hrest⟩ := hF
      obtain ⟨hend, hstops⟩ := ih hrest (h.pass_char hcur hlen) hcur.advance_char
      rw [Nat.add_assoc, Nat.add_comm 1] at hend
      exact ⟨hend, List.forall_mem_cons.mpr ⟨h, hstops⟩⟩
  | group a b inner rest ihi ihr =>
      obtain ⟨hinner, hrest⟩ := hF
      rw [Fragment.text_group_append] at hcur
      have hcurInner := hcur.advance_opener
      have hcurClose := hcurInner.advance
      have hcurRest := hcurClose.advance_closer
      obtain ⟨hendInner, hstopsInner⟩ :=
        ihi hinner (h.pass_char hcur (Bracket.literalLength_opener _ a _)) hcurInner
      obtain ⟨hend, hstops⟩ :=
        ihr hrest (hendInner.pass_char hcurClose (Bracket.literalLength_closer _ b _)) hcurRest
      constructor
      · rwa [← Fragment.end_group]
      · intro i hi
        simp only [Fragment.stops, List.mem_cons, List.mem_append] at hi
        rcases hi with rfl | hi | rfl | hi
        · exact h
        · exact hstopsInner i hi
        · exact hendInner
        · exact hstops i hi

/-- From any point of the pass on, the remaining spans come last. -/
theorem ScanAt.spans_eq_append (h : ScanAt text stack index) :
    ∃ found, spans text =
      found ++ spansFrom stack (lastSignificant none (text.take index)) index (text.drop index) := by
  induction h with
  | start => exact ⟨[], by simp [spans]⟩
  | @literal stack i j _ hstack hend hne ih =>
      obtain ⟨found, hfound⟩ := ih
      obtain ⟨s, t, hcur, hs, hlen, rfl⟩ := exists_literal_of_literalEnd hend hne
      have hnext := hcur.advance
      rw [hcur.rest_eq, spansFrom_literal hstack hs hlen, ← hnext.prior_eq, ← hnext.rest_eq] at hfound
      exact ⟨found, hfound⟩
  | @char stack i c _ hc hend ih =>
      obtain ⟨found, hfound⟩ := ih
      have hcur := Cursor.of_getElem? hc
      have hlen : stack ≠ [] →
          literalLength (lastSignificant none (text.take i)) (c :: text.drop (i + 1)) = .ok 0 :=
        fun hstack => hcur.literalLength_eq_zero (hend hstack)
      have hnext := hcur.advance_char
      rw [hcur.rest_eq, spansFrom_char hlen, ← List.append_assoc, ← hnext.prior_eq] at hfound
      exact ⟨_, hfound⟩

end Steps

end Pruner.Scan
