import Pruner.Proofs.Scan.Reach

/-!
# One pass for all spans against one scan for each

The pass with its stack of openings finds a span exactly where it comes to a brace whose closer,
found by counting alone, leaves brackets between the two that close in kind. It also splits the
inside of the span at the same commas.
-/

namespace Pruner.Scan

/-- The characters outside literals from `start` up to `stop`. -/
def walk (text : List Char) (start stop : Nat) : Except Fault (List Visit) :=
  visits (lastSignificant none (text.take start)) start stop (text.drop start)

theorem Cursor.walk_eq {text rest : List Char} {index : Nat} {prior : Option Char}
    (h : Cursor text index prior rest) (stop : Nat) :
    walk text index stop = visits prior index stop rest := by
  rw [walk, h.prior_eq, h.rest_eq]

section Stretches

variable {text tail : List Char} {index : Nat} {prior : Option Char} {F : Fragment}

theorem walk_fragment (hcur : Cursor text index prior (F.text ++ tail)) (hF : F.Reads prior tail) :
    walk text index (index + F.text.length) = .ok (F.visits index) := by
  rw [hcur.walk_eq, visits_fragment F hF (Nat.le_refl _), visits_self]
  simp [Except.map]

theorem segments_fragment (hcur : Cursor text index prior (F.text ++ tail))
    (hF : F.Reads prior tail) :
    segments text index (index + F.text.length) =
      .ok (Segment.between index (F.commas index) (index + F.text.length)) := by
  have hwalk := walk_fragment hcur hF
  have hcommas := topCommas_fragment F hF index 0 []
  rw [List.append_nil, if_pos rfl, topCommas_nil, List.append_nil] at hcommas
  rw [segments]
  rw [walk] at hwalk
  rw [hwalk]
  exact congrArg (fun cs => Except.ok (Segment.between index cs (index + F.text.length))) hcommas

/-- The walk over a span shows its two braces and the characters between them. -/
theorem walk_span (hcur : Cursor text index prior ('{' :: (F.text ++ '}' :: tail)))
    (hF : F.Reads (some '{') ('}' :: tail)) :
    walk text index (index + 1 + F.text.length + 1) =
      .ok (⟨index, '{'⟩ :: (F.visits (index + 1) ++
        [⟨index + 1 + F.text.length, '}'⟩])) := by
  have hopen := Bracket.literalLength_opener prior .brace (F.text ++ '}' :: tail)
  have hclose := Bracket.literalLength_closer (lastSignificant (some '{') F.text) .brace tail
  have hprior := Bracket.lastSignificant_opener prior .brace
  rw [Bracket.opener] at hopen hprior
  rw [Bracket.closer] at hclose
  rw [hcur.walk_eq, visits_char hopen (by omega), hprior,
    visits_fragment F hF (by omega), visits_char hclose (by omega), visits_self]
  rfl

end Stretches

/-- A span that stands in the text behind an opening brace which the pass comes to. -/
def Found (text : List Char) (s : Span) : Prop :=
  ∃ (stack : Nesting) (F : Fragment) (tail : List Char), ScanAt text stack s.start ∧
    text.drop s.start = '{' :: (F.text ++ '}' :: tail) ∧ F.Reads (some '{') ('}' :: tail) ∧
      F.matched = true ∧ s = ⟨s.start, s.start + 1 + F.text.length, F.commas (s.start + 1)⟩

section Pass

variable {text tail : List Char} {index : Nat} {prior : Option Char}

theorem ScanAt.pass_opener {stack : Nesting} {b : Bracket} (hscan : ScanAt text stack index)
    (hb : b = .brace ∨ stack ≠ []) (hcur : Cursor text index prior (b.opener :: tail)) :
    ScanAt text (⟨b, index, []⟩ :: stack) (index + 1) := by
  have hnext := hscan.pass_char hcur fun _ => Bracket.literalLength_opener prior b tail
  rwa [Nesting.step_opener hb] at hnext

theorem ScanAt.pass_closer {top : Opening} {outer : Nesting}
    (hscan : ScanAt text (top :: outer) index)
    (hcur : Cursor text index prior (top.bracket.closer :: tail)) :
    ScanAt text outer (index + 1) := by
  have hnext := hscan.pass_char hcur fun _ => Bracket.literalLength_closer prior top.bracket tail
  rwa [Nesting.step_closer] at hnext

/-- Inside a span the pass goes through a fragment with the same brackets open. On its way it comes to
each group and stops wherever a reader does. -/
theorem ScanAt.pass_fragment (F : Fragment) (hmatched : F.matched = true)
    (hF : F.Reads prior tail) {top : Opening} {outer : Nesting}
    (hscan : ScanAt text (top :: outer) index) (hcur : Cursor text index prior (F.text ++ tail)) :
    ScanAt text (top.gather (F.commas index) :: outer) (index + F.text.length) ∧
      (∀ s ∈ F.spans index, Found text s) ∧
        ∀ i ∈ F.stops index, ∃ stack, stack ≠ [] ∧ ScanAt text stack i := by
  have hhere : ∀ {i : Nat} {top : Opening} {outer : Nesting}, ScanAt text (top :: outer) i →
      ∃ stack, stack ≠ [] ∧ ScanAt text stack i := by
    intro i top outer h
    exact ⟨top :: outer, by simp, h⟩
  induction F generalizing prior index tail top outer with
  | nil => exact ⟨hscan, by simp [Fragment.spans], by simp [Fragment.stops]⟩
  | literal s rest ih =>
      obtain ⟨hs, hlen, hrest⟩ := hF
      rw [Fragment.text_literal, List.append_assoc] at hcur
      obtain ⟨hend, hfound, hstops⟩ :=
        ih hmatched hrest (hscan.pass_literal (by simp) hcur hs hlen) hcur.advance
      rw [Nat.add_assoc, ← List.length_append] at hend
      exact ⟨hend, hfound, List.forall_mem_cons.mpr ⟨hhere hscan, hstops⟩⟩
  | plain c rest ih =>
      obtain ⟨hopen, hclose, hlen, hrest⟩ := hF
      have hstep := hscan.pass_char hcur fun _ => hlen
      rw [Nesting.step_plain hopen hclose] at hstep
      obtain ⟨hend, hfound, hstops⟩ := ih hmatched hrest hstep hcur.advance_char
      rw [Opening.gather_append, ← Fragment.commas_plain, Nat.add_assoc, Nat.add_comm 1] at hend
      exact ⟨hend, hfound, List.forall_mem_cons.mpr ⟨hhere hscan, hstops⟩⟩
  | group a b inner rest ihi ihr =>
      obtain ⟨hinner, hrest⟩ := hF
      simp only [Fragment.matched, Bool.and_eq_true, decide_eq_true_eq] at hmatched
      obtain ⟨rfl, hmi, hmr⟩ := hmatched
      rw [Fragment.text_group_append] at hcur
      have hcurInner := hcur.advance_opener
      have hcurClose := hcurInner.advance
      have hcurRest := hcurClose.advance_closer
      obtain ⟨hscanInner, hfoundInner, hstopsInner⟩ :=
        ihi hmi hinner (hscan.pass_opener (.inr (by simp)) hcur) hcurInner
      obtain ⟨hscanRest, hfoundRest, hstopsRest⟩ :=
        ihr hmr hrest (hscanInner.pass_closer hcurClose) hcurRest
      refine ⟨?_, ?_, ?_⟩
      · rw [← Fragment.end_group]
        exact hscanRest
      · intro s hs
        simp only [Fragment.spans, List.mem_append] at hs
        rcases hs with (hs | hs) | hs
        · exact hfoundInner s hs
        · split_ifs at hs with ha
          · subst ha
            obtain rfl := List.mem_singleton.mp hs
            exact ⟨_, inner, _, hscan, hcur.rest_eq, hinner, hmi, rfl⟩
          · simp at hs
        · exact hfoundRest s hs
      · intro i hi
        simp only [Fragment.stops, List.mem_cons, List.mem_append] at hi
        rcases hi with rfl | hi | rfl | hi
        · exact hhere hscan
        · exact hstopsInner i hi
        · exact hhere hscanInner
        · exact hstopsRest i hi

/-- The pass comes to every group of its course, and inside a span it stops wherever the course
does. -/
theorem ScanAt.pass_course (R : Course) (stack : Nesting) (hR : R.Follows stack.kinds prior)
    (hscan : ScanAt text stack index) (hcur : Cursor text index prior R.text) :
    (∀ s ∈ R.spans index, Found text s) ∧
      ∀ i ∈ R.stops stack.kinds index, ∃ stack, stack ≠ [] ∧ ScanAt text stack i := by
  induction R generalizing stack prior index with
  | done rest => simp [Course.spans, Course.stops]
  | literal s rest ih =>
      obtain ⟨hkinds, hs, hlen, hrest⟩ := hR
      have hstack := Nesting.ne_nil_of_kinds hkinds
      obtain ⟨hfound, hstops⟩ := ih stack hrest (hscan.pass_literal hstack hcur hs hlen) hcur.advance
      exact ⟨hfound, List.forall_mem_cons.mpr ⟨⟨stack, hstack, hscan⟩, hstops⟩⟩
  | plain c rest ih =>
      obtain ⟨hopen, hclose, hlen, hrest⟩ := hR
      cases stack with
      | nil =>
          have hstep := hscan.pass_char hcur (absurd rfl)
          rw [Nesting.step_plain_outside hopen hclose] at hstep
          exact ih [] hrest hstep hcur.advance_char
      | cons top outer =>
          have hstep := hscan.pass_char hcur fun _ => hlen (by simp [Nesting.kinds])
          rw [Nesting.step_plain hopen hclose] at hstep
          obtain ⟨hfound, hstops⟩ := ih (top.gather _ :: outer) hrest hstep hcur.advance_char
          exact ⟨hfound, List.forall_mem_cons.mpr ⟨⟨top :: outer, by simp, hscan⟩, hstops⟩⟩
  | opening b rest ih =>
      have hstep := hscan.pass_char hcur fun _ => Bracket.literalLength_opener prior b rest.text
      have hkinds := (Course.kinds_push b stack index).1
      rw [Course.stops, ← hkinds]
      exact ih _ (hkinds ▸ hR) hstep hcur.advance_opener
  | closing b rest ih =>
      obtain ⟨hhead, hrest⟩ := hR
      have hstep := hscan.pass_char hcur fun _ => Bracket.literalLength_closer prior b rest.text
      rw [Nesting.step_closer_unmatched hhead] at hstep
      exact ih [] hrest hstep hcur.advance_closer
  | group b inner rest ih =>
      obtain ⟨hb, hm, hinner, hrest⟩ := hR
      have hcurInner := hcur.advance_opener
      have hcurClose := hcurInner.advance
      obtain ⟨hscanInner, hfoundInner, hstopsInner⟩ :=
        (hscan.pass_opener (hb.imp_right Nesting.ne_nil_of_kinds) hcur).pass_fragment inner hm hinner
          hcurInner
      obtain ⟨hfound, hstops⟩ :=
        ih stack hrest (hscanInner.pass_closer hcurClose) hcurClose.advance_closer
      refine ⟨fun s hs => ?_, fun i hi => (List.mem_append.mp hi).elim (hstopsInner i) (hstops i)⟩
      simp only [Course.spans, Fragment.spans, List.append_nil, List.mem_append] at hs
      rcases hs with (hs | hs) | hs
      · exact hfoundInner s hs
      · split_ifs at hs with ha
        · subst ha
          obtain rfl := List.mem_singleton.mp hs
          exact ⟨_, inner, _, hscan, hcur.rest_eq, hinner, hm, rfl⟩
        · simp at hs
      · exact hfound s hs

end Pass

theorem mem_spans_iff_found {text : List Char} {s : Span} : s ∈ spans text ↔ Found text s := by
  constructor
  · intro hs
    obtain ⟨R, rfl, hR⟩ := Course.exists_course text
    rw [Course.spans_eq hR] at hs
    exact (ScanAt.pass_course R [] hR .start ⟨rfl, rfl⟩).1 s hs
  · rintro ⟨stack, F, tail, hscan, hdrop, hF, hm, hs⟩
    obtain ⟨found, hfound⟩ := hscan.spans_eq_append
    have hgroup := spansFrom_group (.inl rfl : Bracket.brace = .brace ∨ stack ≠ [])
      (lastSignificant none (text.take s.start)) s.start hm hF
    rw [Bracket.opener, Bracket.closer] at hgroup
    rw [hfound, hdrop, hgroup, hs]
    simp [Fragment.spans]

theorem Segment.dropLast_between (start stop : Nat) (separators : List Nat) :
    (Segment.between start separators stop).dropLast.map Segment.stop = separators := by
  induction separators generalizing start with
  | nil => rfl
  | cons p ps ih =>
      have hne : Segment.between (p + 1) ps stop ≠ [] := by cases ps <;> simp
      rw [Segment.between_cons, List.dropLast_cons_of_ne_nil hne, List.map_cons, ih]

/-- The pass reports a span from `o` to `c` exactly when it comes to a brace at `o`, the count of
brackets closes that brace at `c`, and the brackets that the walk over the span meets close in kind.
Splitting the inside of a reported span at top level then gives the commas reported with it. -/
theorem spans_iff_closing_nested (text : List Char) :
    (∀ o c : Nat, (∃ commas, ⟨o, c, commas⟩ ∈ spans text) ↔
      (∃ stack, ScanAt text stack o ∧ text[o]? = some '{') ∧ closing? text o = some c ∧
        ∃ vs, walk text o (c + 1) = .ok vs ∧ Bracket.nested [] (vs.map Visit.char) = true) ∧
    ∀ s ∈ spans text, segments text (s.start + 1) s.stop = .ok s.segments ∧
      s.segments.dropLast.map Segment.stop = s.commas := by
  have hnested : ∀ {F : Fragment} {tail : List Char} {o c : Nat},
      F.Reads (some '{') ('}' :: tail) →
      Bracket.nested [] ((⟨o, '{'⟩ :: (F.visits (o + 1) ++ [⟨c, '}'⟩])).map Visit.char) =
        F.matched := by
    intro F tail o c hF
    have hfrag := nested_fragment F hF (o + 1) [.brace] ['}']
    rw [List.map_cons, List.map_append]
    change Bracket.nested [.brace] ((F.visits (o + 1)).map Visit.char ++ ['}']) = F.matched
    rw [hfrag]
    exact Bool.and_true _
  refine ⟨fun o c => ⟨?_, ?_⟩, fun s hs => ⟨?_, Segment.dropLast_between _ _ _⟩⟩
  · rintro ⟨commas, hmem⟩
    obtain ⟨stack, F, tail, hscan, hdrop, hF, hm, hs⟩ := mem_spans_iff_found.mp hmem
    obtain ⟨rfl, rfl⟩ : c = o + 1 + F.text.length ∧ commas = F.commas (o + 1) := by
      simpa using hs
    have hcur : Cursor text o _ ('{' :: (F.text ++ '}' :: tail)) := ⟨rfl, hdrop⟩
    refine ⟨⟨stack, hscan, hcur.getElem?_eq⟩, closing?_eq_some_iff.mpr ⟨F, tail, hdrop, hF, rfl⟩, ?_⟩
    exact ⟨_, walk_span hcur hF, (hnested hF).trans hm⟩
  · rintro ⟨⟨stack, hscan, -⟩, hclosing, vs, hwalk, hkinds⟩
    obtain ⟨F, tail, hdrop, hF, rfl⟩ := closing?_eq_some_iff.mp hclosing
    have hcur : Cursor text o _ ('{' :: (F.text ++ '}' :: tail)) := ⟨rfl, hdrop⟩
    obtain rfl := Except.ok.inj ((walk_span hcur hF).symm.trans hwalk)
    have hm : F.matched = true := (hnested hF).symm.trans hkinds
    exact ⟨F.commas (o + 1), mem_spans_iff_found.mpr ⟨stack, F, tail, hscan, hdrop, hF, hm, rfl⟩⟩
  · obtain ⟨stack, F, tail, hscan, hdrop, hF, hm, hs⟩ := mem_spans_iff_found.mp hs
    have hcur : Cursor text s.start _ ('{' :: (F.text ++ '}' :: tail)) := ⟨rfl, hdrop⟩
    rw [hs]
    exact segments_fragment (hcur.advance_opener (b := .brace)) hF

end Pruner.Scan
