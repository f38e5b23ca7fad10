import Pruner.Proofs.Scan.Fragment

/-!
# The course of the pass for spans

One pass over a text finds bracket groups that close in kind. What is left between them are
characters, literals, openers that never close and closers that close nothing. A course writes this
down, so that a change inside the groups can be followed through the whole text.
-/

namespace Pruner.Scan

/-! ### One character -/

namespace Nesting

variable {top : Opening} {outer stack : Nesting}

/-- The kinds of the brackets that are open. -/
def kinds (stack : Nesting) : List Bracket :=
  stack.map Opening.bracket

theorem ne_nil_of_kinds (h : stack.kinds ≠ []) : stack ≠ [] := by
  rintro rfl
  exact h rfl

theorem step_opener {b : Bracket} (h : b = .brace ∨ stack ≠ []) (index : Nat) :
    step stack index b.opener = (⟨b, index, []⟩ :: stack, none) := by
  cases b with
  | brace => rfl
  | square =>
      cases stack with
      | nil => simp at h
      | cons top outer => rfl
  | round =>
      cases stack with
      | nil => simp at h
      | cons top outer => rfl

theorem step_opener_outside {b : Bracket} (h : b ≠ .brace) (index : Nat) :
    step [] index b.opener = ([], none) := by
  cases b with
  | brace => exact absurd rfl h
  | square => rfl
  | round => rfl

theorem step_closer (top : Opening) (outer : Nesting) (index : Nat) :
    step (top :: outer) index top.bracket.closer =
      (outer, if top.bracket = .brace then some ⟨top.start, index, top.commas.reverse⟩
        else none) := by
  simp only [step, Bracket.opened?_closer, Bracket.closed?_closer, ne_eq, not_true_eq_false,
    if_false]
  split_ifs <;> rfl

theorem step_closer_unmatched {b : Bracket} (h : stack.kinds.head? ≠ some b) (index : Nat) :
    step stack index b.closer = ([], none) := by
  cases stack with
  | nil => simp [step]
  | cons top outer =>
      have hne : top.bracket ≠ b := fun heq => h (by simp [kinds, heq])
      simp [step, hne]

end Nesting

namespace Opening

/-- Adds commas, oldest first, to those already found. -/
def gather (top : Opening) (commas : List Nat) : Opening :=
  { top with commas := commas.reverse ++ top.commas }

@[simp] theorem gather_nil (top : Opening) : top.gather [] = top := rfl

theorem gather_append (top : Opening) (xs ys : List Nat) :
    (top.gather xs).gather ys = top.gather (xs ++ ys) := by
  simp [gather]

@[simp] theorem gather_bracket (top : Opening) (xs : List Nat) :
    (top.gather xs).bracket = top.bracket := rfl

@[simp] theorem gather_start (top : Opening) (xs : List Nat) :
    (top.gather xs).start = top.start := rfl

end Opening

theorem Nesting.step_plain {c : Char} (hopen : Bracket.opened? c = none)
    (hclose : Bracket.closed? c = none) (top : Opening) (outer : Nesting) (index : Nat) :
    Nesting.step (top :: outer) index c =
      (top.gather (if c = ',' then [index] else []) :: outer, none) := by
  simp only [Nesting.step, hopen, hclose]
  split_ifs <;> rfl

theorem Nesting.step_plain_outside {c : Char} (hopen : Bracket.opened? c = none)
    (hclose : Bracket.closed? c = none) (index : Nat) :
    Nesting.step [] index c = ([], none) := by
  simp [Nesting.step, hopen, hclose]

/-! ### Fragments inside a span -/

namespace Fragment

/-- The brace groups of a fragment that begins at `index`, in the order of their closers. -/
def spans : Fragment → Nat → List Span
  | nil, _ => []
  | literal s rest, index => rest.spans (index + s.length)
  | plain _ rest, index => rest.spans (index + 1)
  | group a _ inner rest, index =>
      inner.spans (index + 1) ++
        (if a = .brace then
            [⟨index, index + 1 + inner.text.length, inner.commas (index + 1)⟩] else []) ++
          rest.spans (index + 1 + inner.text.length + 1)

end Fragment

section Spans

variable {prior : Option Char} {index : Nat} {tail : List Char}

theorem spansFrom_literal {s t : List Char} {stack : Nesting} (hstack : stack ≠ []) (hs : s ≠ [])
    (h : literalLength prior (s ++ t) = .ok s.length) :
    spansFrom stack prior index (s ++ t) =
      spansFrom stack (lastSignificant prior s) (index + s.length) t := by
  cases s with
  | nil => exact absurd rfl hs
  | cons c cs =>
      cases stack with
      | nil => exact absurd rfl hstack
      | cons top outer =>
          rw [List.cons_append] at h ⊢
          rw [spansFrom, Nesting.literalLength, h]
          simp

theorem spansFrom_char {c : Char} {t : List Char} {stack : Nesting}
    (h : stack ≠ [] → literalLength prior (c :: t) = .ok 0) :
    spansFrom stack prior index (c :: t) =
      (stack.step index c).2.toList ++
        spansFrom (stack.step index c).1 (lastSignificant prior [c]) (index + 1) t := by
  cases stack with
  | nil => rw [spansFrom, Nesting.literalLength]
  | cons top outer => rw [spansFrom, Nesting.literalLength, h (by simp)]

/-- A group yields the spans in it and, when it is one of braces, itself. -/
theorem spansFrom_enclosed {stack : Nesting} {b : Bracket} (hb : b = .brace ∨ stack ≠ [])
    {inner : Fragment} {t : List Char}
    (hinner : spansFrom (⟨b, index, []⟩ :: stack) (some b.opener) (index + 1)
        (inner.text ++ b.closer :: t) =
      inner.spans (index + 1) ++
        spansFrom (Opening.gather ⟨b, index, []⟩ (inner.commas (index + 1)) :: stack)
          (lastSignificant (some b.opener) inner.text) (index + 1 + inner.text.length)
          (b.closer :: t)) :
    spansFrom stack prior index (b.opener :: (inner.text ++ b.closer :: t)) =
      (Fragment.group b b inner .nil).spans index ++
        spansFrom stack (some b.closer) (index + 1 + inner.text.length + 1) t := by
  rw [spansFrom_char fun _ => Bracket.literalLength_opener prior b _, Nesting.step_opener hb,
    Bracket.lastSignificant_opener]
  simp only [Option.toList_none, List.nil_append]
  have hclose := Nesting.step_closer (Opening.gather ⟨b, index, []⟩ (inner.commas (index + 1)))
    stack (index + 1 + inner.text.length)
  simp only [Opening.gather_bracket, Opening.gather_start] at hclose
  rw [hinner, spansFrom_char fun _ => Bracket.literalLength_closer _ b t, hclose,
    Bracket.lastSignificant_closer]
  simp only [Fragment.spans, List.append_assoc, List.append_nil]
  congr 2
  split_ifs with hbrace <;> simp [Opening.gather, hbrace]

/-- Inside a span, a fragment yields its groups and leaves its commas to the bracket around it. -/
theorem spansFrom_fragment (F : Fragment) (hmatched : F.matched = true) (h : F.Reads prior tail)
    (top : Opening) (outer : Nesting) :
    spansFrom (top :: outer) prior index (F.text ++ tail) =
      F.spans index ++
        spansFrom (top.gather (F.commas index) :: outer) (lastSignificant prior F.text)
          (index + F.text.length) tail := by
  induction F generalizing prior index tail top outer with
  | nil => simp [Fragment.spans, Fragment.commas]
  | literal s rest ih =>
      obtain ⟨hs, hlen, hrest⟩ := h
      rw [Fragment.text_literal, List.append_assoc, spansFrom_literal (by simp) hs hlen,
        ih hmatched hrest, lastSignificant_append, List.length_append, ← Nat.add_assoc]
      rfl
  | plain c rest ih =>
      obtain ⟨hopen, hclose, hlen, hrest⟩ := h
      rw [Fragment.lastSignificant_plain, Fragment.text_plain, List.cons_append,
        spansFrom_char fun _ => hlen, Nesting.step_plain hopen hclose, ih hmatched hrest,
        Opening.gather_append, Fragment.commas_plain, List.length_cons,
        Nat.add_comm rest.text.length, ← Nat.add_assoc]
      rfl
  | group a b inner rest ihi ihr =>
      obtain ⟨hinner, hrest⟩ := h
      simp only [Fragment.matched, Bool.and_eq_true, decide_eq_true_eq] at hmatched
      obtain ⟨rfl, hmi, hmr⟩ := hmatched
      rw [Fragment.lastSignificant_group, Fragment.text_group_append, ← Fragment.end_group,
        spansFrom_enclosed (.inr (by simp)) (ihi hmi hinner _ _), ihr hmr hrest]
      simp [Fragment.spans, Fragment.commas]

theorem spansFrom_group {stack : Nesting} {b : Bracket} (hb : b = .brace ∨ stack ≠ [])
    (prior : Option Char) (index : Nat) {inner : Fragment} {t : List Char}
    (hmatched : inner.matched = true) (h : inner.Reads (some b.opener) (b.closer :: t)) :
    spansFrom stack prior index (b.opener :: (inner.text ++ b.closer :: t)) =
      (Fragment.group b b inner .nil).spans index ++
        spansFrom stack (some b.closer) (index + 1 + inner.text.length + 1) t :=
  spansFrom_enclosed hb (spansFrom_fragment inner hmatched h _ stack)

end Spans

/-! ### Whole texts -/

inductive Course where
  | done (tail : List Char)
  | literal (s : List Char) (rest : Course)
  | plain (c : Char) (rest : Course)
  | opening (b : Bracket) (rest : Course)
  | closing (b : Bracket) (rest : Course)
  | group (b : Bracket) (inner : Fragment) (rest : Course)
  deriving DecidableEq, Repr

namespace Course

def text : Course → List Char
  | done tail => tail
  | literal s rest => s ++ rest.text
  | plain c rest => c :: rest.text
  | opening b rest => b.opener :: rest.text
  | closing b rest => b.closer :: rest.text
  | group b inner rest => b.opener :: (inner.text ++ b.closer :: rest.text)

/-- The brackets open behind an opener: outside all spans only a brace counts. -/
def push (b : Bracket) (kinds : List Bracket) : List Bracket :=
  if b = .brace ∨ kinds ≠ [] then b :: kinds else []

/-- The pass goes this course when brackets of these kinds are open and `prior` has been seen. -/
def Follows : Course → List Bracket → Option Char → Prop
  | done tail, kinds, prior =>
      tail = [] ∨ kinds ≠ [] ∧ ∃ what, literalLength prior tail = .error what
  | literal s rest, kinds, prior =>
      kinds ≠ [] ∧ s ≠ [] ∧ literalLength prior (s ++ rest.text) = .ok s.length ∧
        rest.Follows kinds (lastSignificant prior s)
  | plain c rest, kinds, prior =>
      Bracket.opened? c = none ∧ Bracket.closed? c = none ∧
        (kinds ≠ [] → literalLength prior (c :: rest.text) = .ok 0) ∧
          rest.Follows kinds (lastSignificant prior [c])
  | opening b rest, kinds, _ => rest.Follows (push b kinds) (some b.opener)
  | closing b rest, kinds, _ => kinds.head? ≠ some b ∧ rest.Follows [] (some b.closer)
  | group b inner rest, kinds, _ =>
      (b = .brace ∨ kinds ≠ []) ∧ inner.matched = true ∧
        inner.Reads (some b.opener) (b.closer :: rest.text) ∧ rest.Follows kinds (some b.closer)

/-- The spans of a course that begins at `index`, in the order of their closers. -/
def spans : Course → Nat → List Span
  | done _, _ => []
  | literal s rest, index => rest.spans (index + s.length)
  | plain _ rest, index => rest.spans (index + 1)
  | opening _ rest, index => rest.spans (index + 1)
  | closing _ rest, index => rest.spans (index + 1)
  | group b inner rest, index =>
      (Fragment.group b b inner .nil).spans index ++
        rest.spans (index + 1 + inner.text.length + 1)

/-- The text has a course, or else it runs up to the closer of the innermost open bracket. -/
def Charted (kinds : List Bracket) (prior : Option Char) (text : List Char) : Prop :=
  (∃ R : Course, R.text = text ∧ R.Follows kinds prior) ∨
    ∃ (b : Bracket) (F : Fragment) (tail : List Char), kinds.head? = some b ∧
      text = F.text ++ b.closer :: tail ∧ F.matched = true ∧ F.Reads prior (b.closer :: tail)

section Charted

variable {kinds : List Bracket} {prior : Option Char} {t : List Char}

theorem charted_literal {s : List Char} (hkinds : kinds ≠ []) (hs : s ≠ [])
    (hlen : literalLength prior (s ++ t) = .ok s.length)
    (h : Charted kinds (lastSignificant prior s) t) : Charted kinds prior (s ++ t) := by
  rcases h with ⟨R, rfl, hR⟩ | ⟨b, F, tail, hb, rfl, hm, hF⟩
  · exact .inl ⟨.literal s R, rfl, hkinds, hs, hlen, hR⟩
  · exact .inr ⟨b, .literal s F, tail, hb, by simp, hm, hs, hlen, hF⟩

theorem charted_plain {c : Char} (hopen : Bracket.opened? c = none)
    (hclose : Bracket.closed? c = none)
    (hlen : kinds ≠ [] → literalLength prior (c :: t) = .ok 0)
    (h : Charted kinds (lastSignificant prior [c]) t) : Charted kinds prior (c :: t) := by
  rcases h with ⟨R, rfl, hR⟩ | ⟨b, F, tail, hb, rfl, hm, hF⟩
  · exact .inl ⟨.plain c R, rfl, hopen, hclose, hlen, hR⟩
  · have hkinds : kinds ≠ [] := by
      rintro rfl
      simp at hb
    exact .inr ⟨b, .plain c F, tail, hb, rfl, hm, hopen, hclose, hlen hkinds, hF⟩

theorem charted_closer {b : Bracket} (h : Charted [] (some b.closer) t) :
    Charted kinds prior (b.closer :: t) := by
  by_cases hb : kinds.head? = some b
  · exact .inr ⟨b, .nil, t, hb, rfl, rfl, trivial⟩
  · rcases h with ⟨R, rfl, hR⟩ | ⟨_, _, _, hnone, _⟩
    · exact .inl ⟨.closing b R, rfl, hb, hR⟩
    · simp at hnone

theorem charted_opener {a : Bracket} (hinner : Charted (push a kinds) (some a.opener) t)
    (hrest : ∀ (F : Fragment) (tail : List Char), t = F.text ++ a.closer :: tail →
      Charted kinds (some a.closer) tail) : Charted kinds prior (a.opener :: t) := by
  rcases hinner with ⟨R, rfl, hR⟩ | ⟨b, F, tail, hb, rfl, hm, hF⟩
  · exact .inl ⟨.opening a R, rfl, hR⟩
  · unfold push at hb
    split_ifs at hb with ha
    · obtain rfl : a = b := by simpa using hb
      -- the bracket closes, and what stands behind it is read as if it had not been there
      rcases hrest F tail rfl with ⟨R, rfl, hR⟩ | ⟨d, G, tail', hd, rfl, hmG, hG⟩
      · exact .inl ⟨.group a F R, rfl, ha, hm, hF, hR⟩
      · exact .inr ⟨d, .group a a F G, tail', hd, by simp, by simp [Fragment.matched, hm, hmG],
          hF, hG⟩
    · simp at hb

end Charted

theorem charted (kinds : List Bracket) (prior : Option Char) (text : List Char) :
    Charted kinds prior text := by
  induction hn : text.length using Nat.strongRecOn generalizing kinds prior text with
  | ind n ih =>
      subst hn
      have hopener (a : Bracket) (t : List Char) (ht : text = a.opener :: t) :
          Charted kinds prior text := by
        subst ht
        apply charted_opener (ih t.length (by simp) _ _ t rfl)
        intro F tail heq
        subst heq
        exact ih tail.length (by simp; omega) _ _ tail rfl
      have hcloser (b : Bracket) (t : List Char) (ht : text = b.closer :: t) :
          Charted kinds prior text := by
        subst ht
        exact charted_closer (ih t.length (by simp) _ _ t rfl)
      by_cases hkinds : kinds = []
      · -- outside all spans nothing is a literal
        cases text with
        | nil => exact .inl ⟨.done [], rfl, .inl rfl⟩
        | cons c t =>
            cases hopen : Bracket.opened? c with
            | some a => exact hopener a t (by rw [Bracket.eq_opener_of_opened? hopen])
            | none =>
                cases hclose : Bracket.closed? c with
                | some b => exact hcloser b t (by rw [Bracket.eq_closer_of_closed? hclose])
                | none =>
                    exact charted_plain hopen hclose (absurd hkinds) (ih t.length (by simp) _ _ t rfl)
      · cases front prior text with
        | stop => exact .inl ⟨.done [], rfl, .inl rfl⟩
        | broken what hne hlen => exact .inl ⟨.done text, rfl, .inr ⟨hkinds, what, hlen⟩⟩
        | literal s t hs hlen =>
            have hpos := List.length_pos_iff.mpr hs
            exact charted_literal hkinds hs hlen
              (ih t.length (by rw [List.length_append]; omega) _ _ t rfl)
        | plain c t hopen hclose hlen =>
            exact charted_plain hopen hclose (fun _ => hlen) (ih t.length (by simp) _ _ t rfl)
        | opener a t => exact hopener a t rfl
        | closer b t => exact hcloser b t rfl

/-- Every text has a course. -/
theorem exists_course (text : List Char) : ∃ R : Course, R.text = text ∧ R.Follows [] none := by
  rcases charted [] none text with h | ⟨_, _, _, hnone, _⟩
  · exact h
  · simp at hnone

theorem kinds_push (b : Bracket) (stack : Nesting) (index : Nat) :
    (stack.step index b.opener).1.kinds = push b stack.kinds ∧
      (stack.step index b.opener).2 = none := by
  cases stack with
  | cons top outer =>
      rw [Nesting.step_opener (.inr (by simp)), push, if_pos (.inr (by simp [Nesting.kinds]))]
      exact ⟨rfl, rfl⟩
  | nil =>
      by_cases hb : b = .brace
      · rw [Nesting.step_opener (.inl hb), push, if_pos (.inl hb)]
        exact ⟨rfl, rfl⟩
      · rw [Nesting.step_opener_outside hb, push]
        simp [hb, Nesting.kinds]

/-- The pass yields the groups of the course and nothing else. -/
theorem spansFrom_text (R : Course) (stack : Nesting) (prior : Option Char) (index : Nat)
    (h : R.Follows stack.kinds prior) : spansFrom stack prior index R.text = R.spans index := by
  induction R generalizing stack prior index with
  | done tail =>
      rcases h with rfl | ⟨hkinds, what, hwhat⟩
      · rw [text, spansFrom, spans]
      · cases stack with
        | nil => exact absurd rfl hkinds
        | cons top outer =>
            cases tail with
            | nil => rw [text, spansFrom, spans]
            | cons c cs =>
                rw [text, spansFrom, Nesting.literalLength, hwhat, spans]
  | literal s rest ih =>
      obtain ⟨hkinds, hs, hlen, hrest⟩ := h
      rw [text, spansFrom_literal (Nesting.ne_nil_of_kinds hkinds) hs hlen, ih _ _ _ hrest, spans]
  | plain c rest ih =>
      obtain ⟨hopen, hclose, hlen, hrest⟩ := h
      cases stack with
      | nil =>
          rw [text, spansFrom_char (absurd rfl), Nesting.step_plain_outside hopen hclose,
            ih _ _ _ hrest, spans]
          rfl
      | cons top outer =>
          rw [text, spansFrom_char fun _ => hlen (by simp [Nesting.kinds]),
            Nesting.step_plain hopen hclose]
          -- commas change, the kinds of the open brackets do not
          exact ih (top.gather _ :: outer) _ _ hrest
  | opening b rest ih =>
      obtain ⟨hpush, hnone⟩ := kinds_push b stack index
      rw [text, spansFrom_char fun _ => Bracket.literalLength_opener prior b _, hnone,
        Bracket.lastSignificant_opener, ih _ _ _ (hpush ▸ h), spans]
      rfl
  | closing b rest ih =>
      obtain ⟨hhead, hrest⟩ := h
      rw [text, spansFrom_char fun _ => Bracket.literalLength_closer prior b _,
        Nesting.step_closer_unmatched hhead, Bracket.lastSignificant_closer, ih [] _ _ hrest,
        spans]
      rfl
  | group b inner rest ih =>
      obtain ⟨hb, hm, hinner, hrest⟩ := h
      rw [text, spansFrom_group (hb.imp_right Nesting.ne_nil_of_kinds) _ _ hm hinner, ih _ _ _ hrest, spans]

theorem spans_eq {R : Course} (h : R.Follows [] none) : Scan.spans R.text = R.spans 0 :=
  spansFrom_text R [] none 0 h

end Course

end Pruner.Scan
