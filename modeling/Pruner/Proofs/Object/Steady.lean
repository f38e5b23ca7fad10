import Pruner.Proofs.Object.Stripping
import Pruner.Proofs.Scan.Reach

/-!
# Steady fragments

Where every slash outside strings opens a comment, a fragment reads the same whatever stands in front
of it and behind it. A line comment needs its line break, which no removal of pieces takes away.
-/

namespace Pruner.Scan

open Object Text

/-- A slash that opens no comment. -/
def BareSlash (text : List Char) (i : Nat) : Prop :=
  text[i]? = some '/' ∧ text[i + 1]? ≠ some '/' ∧ text[i + 1]? ≠ some '*'

theorem Cursor.commentFollows {text : List Char} {index : Nat} {prior : Option Char}
    {u : List Char} (hcur : Cursor text index prior ('/' :: u)) (h : ¬ BareSlash text index) :
    CommentFollows u := by
  have hhead := hcur.getElem?_eq
  have hnext := hcur.advance_char
  cases u with
  | nil =>
      have hnone : text[index + 1]? = none := by
        rw [← List.head?_drop, hnext.rest_eq]
        rfl
      exact absurd ⟨hhead, by simp [hnone], by simp [hnone]⟩ h
  | cons d u =>
      have hd := hnext.getElem?_eq
      refine ⟨d, u, rfl, ?_⟩
      by_cases hslash : d = '/'
      · exact .inl hslash
      · by_cases hstar : d = '*'
        · exact .inr hstar
        · exact absurd ⟨hhead, by simp [hd, hslash], by simp [hd, hstar]⟩ h

theorem literalLength_comment_ne_zero {prior : Option Char} {u : List Char}
    (h : CommentFollows u) : literalLength prior ('/' :: u) ≠ .ok 0 := by
  obtain ⟨d, t, rfl, rfl | rfl⟩ := h
  · simp [literalLength_slash, slashLength]
  · cases hlen : blockLength? t <;> simp [literalLength_slash, slashLength, hlen]

namespace Fragment

def steadyShape : Shape where
  literal s line := Standing s ∨ LineComment s ∧ line = true
  plain c := soundShape.plain c ∧ c ≠ '/'
  group _ _ := True
  literal_mono := by
    rintro s b (h | ⟨_, h⟩)
    · exact .inl h
    · cases h
  plain_blank := by
    intro c hc
    refine ⟨soundShape.plain_blank hc, ?_⟩
    rintro rfl
    exact absurd hc (by decide)
  plain_comma := ⟨soundShape.plain_comma, by decide⟩

theorem reads_of_steady {F : Fragment} (hF : F.Fits steadyShape) (prior : Option Char)
    (tail : List Char) : F.Reads prior tail := by
  induction F generalizing prior tail with
  | nil => trivial
  | literal s rest ih =>
      obtain ⟨hs, hrest⟩ := hF
      rcases hs with ⟨hne, hlen⟩ | ⟨hline, hstart⟩
      · exact ⟨hne, hlen prior _, ih hrest _ _⟩
      · have hend : AtLineEnd (rest.text ++ tail) := by
          cases rest with
          | plain c r =>
              obtain rfl : c = '\n' := by simpa [startsLine] using hstart
              exact .inr ⟨_, rfl⟩
          | nil => cases hstart
          | literal _ _ => cases hstart
          | group _ _ _ _ => cases hstart
        exact ⟨hline.ne_nil, lineComment_literalLength hline hend prior, ih hrest _ _⟩
  | plain c rest ih =>
      obtain ⟨⟨⟨hopen, hclose, hquote⟩, hslash⟩, hrest⟩ := hF
      exact ⟨hopen, hclose, literalLength_other hquote hslash prior _, ih hrest _ _⟩
  | group a b inner rest ihi ihr =>
      exact ⟨ihi hF.2.1 _ _, ihr hF.2.2 _ _⟩

theorem sound_of_steady {F : Fragment} (hF : F.Fits steadyShape) : F.Fits soundShape :=
  sound_of_reads (reads_of_steady hF none [])

/-- In front of a closer, a line comment has its line break in the fragment. -/
theorem startsLine_of_atLineEnd {F : Fragment} (hF : F.Fits soundShape) {b : Bracket}
    {tail : List Char} (h : AtLineEnd (F.text ++ b.closer :: tail)) : F.startsLine = true := by
  have hhead : ∃ t, F.text ++ b.closer :: tail = '\n' :: t := by
    rcases h with hnil | hline
    · simp at hnil
    · exact hline
  obtain ⟨t, ht⟩ := hhead
  cases F with
  | nil =>
      have hb := (List.cons.inj ht).1
      cases b <;> cases hb
  | literal s rest =>
      obtain ⟨hs, -⟩ := hF
      rcases hs with ⟨cs, rfl⟩ | ⟨quote, cs, hquote, rfl, -⟩
      · cases (List.cons.inj ht).1
      · obtain rfl := (List.cons.inj ht).1
        cases hquote
  | plain c rest => simpa [startsLine] using (List.cons.inj ht).1
  | group a _ inner rest =>
      have ha := (List.cons.inj ht).1
      cases a <;> cases ha

/-- A fragment in which no reader stops at a bare slash is steady. -/
theorem steady_of_stops {text tail : List Char} {index : Nat} {prior : Option Char} {b : Bracket}
    (F : Fragment) (hF : F.Reads prior (b.closer :: tail))
    (hcur : Cursor text index prior (F.text ++ b.closer :: tail))
    (hslash : ∀ i ∈ F.stops index, ¬ BareSlash text i) : F.Fits steadyShape := by
  induction F generalizing prior index tail b with
  | nil => trivial
  | literal s rest ih =>
      have hsound := (sound_of_reads hF).2
      obtain ⟨hs, hlen, hrest⟩ := hF
      rw [text_literal, List.append_assoc] at hcur
      obtain ⟨hhere, hlater⟩ := List.forall_mem_cons.mp hslash
      refine ⟨?_, ih hrest hcur.advance hlater⟩
      rcases literal_cases hs hlen fun u hu => (hu ▸ hcur).commentFollows hhere with
        hstanding | ⟨hline, hend⟩
      · exact .inl hstanding
      · exact .inr ⟨hline, startsLine_of_atLineEnd hsound hend⟩
  | plain c rest ih =>
      have hsound := (sound_of_reads hF).1
      obtain ⟨_, _, hlen, hrest⟩ := hF
      obtain ⟨hhere, hlater⟩ := List.forall_mem_cons.mp hslash
      refine ⟨⟨hsound, ?_⟩, ih hrest hcur.advance_char hlater⟩
      rintro rfl
      exact literalLength_comment_ne_zero (hcur.commentFollows hhere) hlen
  | group a d inner rest ihi ihr =>
      obtain ⟨hinner, hrest⟩ := hF
      rw [text_group_append] at hcur
      have hcurInner := hcur.advance_opener
      have hcurRest := hcurInner.advance.advance_closer
      refine ⟨trivial, ihi hinner hcurInner fun i hi => hslash i ?_,
        ihr hrest hcurRest fun i hi => hslash i ?_⟩
      · simp [stops, hi]
      · simp [stops, hi]

theorem stops_lt {F : Fragment} {prior : Option Char} {tail : List Char} (hF : F.Reads prior tail)
    (index : Nat) : ∀ i ∈ F.stops index, i < index + F.text.length := by
  induction F generalizing prior tail index with
  | nil => simp [stops]
  | literal s rest ih =>
      obtain ⟨hs, _, hrest⟩ := hF
      have hpos := List.length_pos_iff.mpr hs
      rw [text_literal, List.length_append]
      refine List.forall_mem_cons.mpr ⟨by omega, fun i hi => ?_⟩
      have hlt := ih hrest _ i hi
      omega
  | plain c rest ih =>
      obtain ⟨_, _, _, hrest⟩ := hF
      rw [text_plain, List.length_cons]
      refine List.forall_mem_cons.mpr ⟨by omega, fun i hi => ?_⟩
      have hlt := ih hrest _ i hi
      omega
  | group a b inner rest ihi ihr =>
      obtain ⟨hinner, hrest⟩ := hF
      intro i hi
      simp only [stops, List.mem_cons, List.mem_append] at hi
      simp only [text_group, List.length_cons, List.length_append]
      rcases hi with rfl | hi | rfl | hi
      · omega
      · have hlt := ihi hinner _ i hi
        omega
      · omega
      · have hlt := ihr hrest _ i hi
        omega

end Fragment

/-- The inside of a span over which the walk meets no bare slash. -/
theorem exists_steady_span {text : List Char} {start close : Nat}
    (hclose : closing? text start = some close)
    (hslash : ∀ i, WalkAt text start i → i < close → ¬ BareSlash text i) :
    ∃ (F : Fragment) (tail : List Char), text.drop start = '{' :: (F.text ++ '}' :: tail) ∧
      F.Fits Fragment.steadyShape ∧ close = start + 1 + F.text.length := by
  obtain ⟨F, tail, hdrop, hF, rfl⟩ := closing?_eq_some_iff.mp hclose
  have hcur : Cursor text start _ ('{' :: (F.text ++ '}' :: tail)) := ⟨rfl, hdrop⟩
  have hnext := hcur.advance_opener (b := .brace)
  have hwalk : WalkAt text start (start + 1) :=
    WalkAt.start.pass_char hcur (Bracket.literalLength_opener _ .brace _)
  refine ⟨F, tail, hdrop, F.steady_of_stops (b := .brace) hF hnext fun i hi => ?_, rfl⟩
  exact hslash i ((hwalk.pass_fragment F hF hnext).2 i hi) (F.stops_lt hF _ i hi)

namespace Fragment

/-- Groups close in kind. -/
def matchedShape : Shape where
  literal _ _ := True
  plain _ := True
  group a b := a = b
  literal_mono h := h
  plain_blank _ := trivial
  plain_comma := trivial

theorem matched_iff_fits {F : Fragment} : F.matched = true ↔ F.Fits matchedShape := by
  induction F with
  | nil => simp [matched, Fits]
  | literal s rest ih => simpa [matched, Fits, matchedShape] using ih
  | plain c rest ih => simpa [matched, Fits, matchedShape] using ih
  | group a b inner rest ihi ihr => simp [matched, Fits, matchedShape, ihi, ihr]

end Fragment

/-! ### Courses -/

theorem literalLength_error {prior : Option Char} {t : List Char} {what : Unterminated}
    (h : literalLength prior t = .error what) (prior' : Option Char) :
    literalLength prior' t = .error what := by
  cases t with
  | nil => simp [literalLength] at h
  | cons c cs =>
      by_cases hq : isQuote c = true
      · rw [literalLength_quote hq] at h ⊢
        exact h
      · by_cases hc : c = '/'
        · subst hc
          rw [literalLength_slash] at h ⊢
          unfold slashLength at h ⊢
          split at h
          · cases h
          · exact h
          · cases h
        · rw [literalLength_other (by simpa using hq) hc] at h
          cases h

theorem atLineEnd_congr {s t : List Char} (h : s.head? = t.head?) (hs : AtLineEnd s) :
    AtLineEnd t := by
  rcases hs with rfl | ⟨s', rfl⟩
  · exact .inl (List.head?_eq_none_iff.mp h.symm)
  · exact .inr (List.head?_eq_some_iff.mp h.symm)

namespace Course

/-- A course that the pass goes whatever it has seen before. -/
def Steady : Course → List Bracket → Prop
  | done tail, kinds =>
      tail = [] ∨ kinds ≠ [] ∧ ∃ what, ∀ prior, literalLength prior tail = .error what
  | literal s rest, kinds =>
      kinds ≠ [] ∧ (Standing s ∨ LineComment s ∧ AtLineEnd rest.text) ∧ rest.Steady kinds
  | plain c rest, kinds =>
      Bracket.opened? c = none ∧ Bracket.closed? c = none ∧
        (kinds ≠ [] → isQuote c = false ∧ c ≠ '/') ∧ rest.Steady kinds
  | opening b rest, kinds => rest.Steady (push b kinds)
  | closing b rest, kinds => kinds.head? ≠ some b ∧ rest.Steady []
  | group b inner rest, kinds =>
      (b = .brace ∨ kinds ≠ []) ∧ inner.matched = true ∧ inner.Fits Fragment.steadyShape ∧
        rest.Steady kinds

theorem follows_of_steady {R : Course} {kinds : List Bracket} (hR : R.Steady kinds)
    (prior : Option Char) : R.Follows kinds prior := by
  induction R generalizing kinds prior with
  | done tail =>
      rcases hR with hnil | ⟨hkinds, what, hwhat⟩
      · exact .inl hnil
      · exact .inr ⟨hkinds, what, hwhat prior⟩
  | literal s rest ih =>
      obtain ⟨hkinds, hs, hrest⟩ := hR
      rcases hs with ⟨hne, hlen⟩ | ⟨hline, hend⟩
      · exact ⟨hkinds, hne, hlen prior _, ih hrest _⟩
      · exact ⟨hkinds, hline.ne_nil, lineComment_literalLength hline hend prior, ih hrest _⟩
  | plain c rest ih =>
      obtain ⟨hopen, hclose, hc, hrest⟩ := hR
      exact ⟨hopen, hclose, fun hkinds => literalLength_other (hc hkinds).1 (hc hkinds).2 prior _,
        ih hrest _⟩
  | opening b rest ih => exact ih hR _
  | closing b rest ih => exact ⟨hR.1, ih hR.2 _⟩
  | group b inner rest ih =>
      obtain ⟨hb, hm, hinner, hrest⟩ := hR
      exact ⟨hb, hm, Fragment.reads_of_steady hinner _ _, ih hrest _⟩

/-- A course on which the pass stops at no bare slash is steady. -/
theorem steady_of_stops {text : List Char} {index : Nat} {prior : Option Char} (R : Course)
    {kinds : List Bracket} (hR : R.Follows kinds prior) (hcur : Cursor text index prior R.text)
    (hslash : ∀ i ∈ R.stops kinds index, ¬ BareSlash text i) : R.Steady kinds := by
  induction R generalizing kinds prior index with
  | done tail =>
      rcases hR with hnil | ⟨hkinds, what, hwhat⟩
      · exact .inl hnil
      · exact .inr ⟨hkinds, what, literalLength_error hwhat⟩
  | literal s rest ih =>
      obtain ⟨hkinds, hs, hlen, hrest⟩ := hR
      rw [Course.text] at hcur
      obtain ⟨hhere, hlater⟩ := List.forall_mem_cons.mp hslash
      refine ⟨hkinds, ?_, ih hrest hcur.advance hlater⟩
      exact literal_cases hs hlen fun u hu => (hu ▸ hcur).commentFollows hhere
  | plain c rest ih =>
      obtain ⟨hopen, hclose, hlen, hrest⟩ := hR
      refine ⟨hopen, hclose, fun hkinds => ?_, ih hrest hcur.advance_char fun i hi => hslash i ?_⟩
      · have hhere := hslash index (by simp [stops, hkinds])
        refine ⟨isQuote_of_literalLength (hlen hkinds), ?_⟩
        rintro rfl
        exact literalLength_comment_ne_zero (hcur.commentFollows hhere) (hlen hkinds)
      · simp [stops, hi]
  | opening b rest ih => exact ih hR hcur.advance_opener hslash
  | closing b rest ih => exact ⟨hR.1, ih hR.2 hcur.advance_closer hslash⟩
  | group b inner rest ih =>
      obtain ⟨hb, hm, hinner, hrest⟩ := hR
      have hcurInner := hcur.advance_opener
      refine ⟨hb, hm, ?_, ih hrest hcurInner.advance.advance_closer fun i hi => hslash i ?_⟩
      · exact inner.steady_of_stops hinner hcurInner fun i hi => hslash i (by simp [stops, hi])
      · simp [stops, hi]

end Course

end Pruner.Scan
