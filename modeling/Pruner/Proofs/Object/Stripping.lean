import Pruner.Proofs.Object.Keys

/-!
# Filtering at every level

Stripping filters every brace group of a fragment, inner groups first. What is stripped inside the
value of a property has no bearing on its key, so stripping one list of names after another is
stripping both at once.
-/

namespace Pruner.Scan.Fragment

open Object Text

/-! ### Conditions on the parts of a fragment -/

def startsLine : Fragment → Bool
  | plain c _ => c = '\n'
  | _ => false

/-- A condition on every literal, character and group. That on a literal may ask for a line break
right behind it. -/
structure Shape where
  literal : List Char → Bool → Prop
  plain : Char → Prop
  group : Bracket → Bracket → Prop
  literal_mono : ∀ {s : List Char} {b : Bool}, literal s false → literal s b
  plain_blank : ∀ {c : Char}, isBlank c = true → plain c
  plain_comma : plain ','

def Fits (φ : Shape) : Fragment → Prop
  | nil => True
  | literal s rest => φ.literal s rest.startsLine ∧ rest.Fits φ
  | plain c rest => φ.plain c ∧ rest.Fits φ
  | group a b inner rest => φ.group a b ∧ inner.Fits φ ∧ rest.Fits φ

section Fits

variable {φ : Shape} {F G : Fragment}

theorem Fits.append (hF : F.Fits φ) (hG : G.Fits φ) : (F ++ G).Fits φ := by
  induction F with
  | nil => exact hG
  | literal s rest ih =>
      obtain ⟨hs, hrest⟩ := hF
      refine ⟨?_, ih hrest⟩
      cases rest with
      | nil => exact φ.literal_mono hs
      | literal _ _ => exact hs
      | plain _ _ => exact hs
      | group _ _ _ _ => exact hs
  | plain c rest ih => exact ⟨hF.1, ih hF.2⟩
  | group a b inner rest _ ih => exact ⟨hF.1, hF.2.1, ih hF.2.2⟩

theorem Fits.first (hF : F.Fits φ) : F.first.Fits φ := by
  induction F with
  | nil => exact hF
  | literal s rest ih =>
      obtain ⟨hs, hrest⟩ := hF
      refine ⟨?_, ih hrest⟩
      cases rest with
      | nil => exact hs
      | literal _ _ => exact hs
      | plain c _ =>
          by_cases hc : c = ','
          · subst hc
            exact hs
          · rw [Fragment.first, if_neg hc]
            exact hs
      | group _ _ _ _ => exact hs
  | plain c rest ih =>
      rw [Fragment.first]
      split_ifs
      · trivial
      · exact ⟨hF.1, ih hF.2⟩
  | group a b inner rest _ ih => exact ⟨hF.1, hF.2.1, ih hF.2.2⟩

theorem Fits.others (hF : F.Fits φ) : ∀ s ∈ F.others, s.Fits φ := by
  induction F with
  | nil => simp [Fragment.others]
  | literal s rest ih => exact ih hF.2
  | plain c rest ih =>
      rw [Fragment.others]
      split_ifs
      · intro s hs
        rcases List.mem_cons.mp hs with rfl | hs
        · exact Fits.first hF.2
        · exact ih hF.2 s hs
      · exact ih hF.2
  | group a b inner rest _ ih => exact ih hF.2.2

theorem Fits.pieces (hF : F.Fits φ) : ∀ s ∈ F.pieces, s.Fits φ :=
  List.forall_mem_cons.mpr ⟨hF.first, hF.others⟩

theorem Fits.body (hF : F.Fits φ) : F.body.Fits φ := by
  induction F with
  | nil => exact hF
  | literal s rest _ => exact hF
  | plain c rest ih =>
      rw [Fragment.body]
      split_ifs
      · exact ih hF.2
      · exact hF
  | group a b inner rest _ _ => exact hF

theorem Fits.pad {cs : List Char} (hcs : ∀ c ∈ cs, isBlank c = true) (hF : F.Fits φ) :
    (pad cs F).Fits φ := by
  induction cs with
  | nil => exact hF
  | cons c cs ih =>
      exact ⟨φ.plain_blank (hcs c (by simp)), ih fun d hd => hcs d (by simp [hd])⟩

theorem Fits.pruneFrom (sel : Selection) {s : Fragment} {ss : List Fragment} (hs : s.Fits φ)
    (hss : ∀ t ∈ ss, Fits φ t) : (sel.pruneFrom s ss).Fits φ := by
  induction ss generalizing s with
  | nil =>
      rw [Selection.pruneFrom]
      split_ifs
      · trivial
      · exact hs.body
  | cons t ts ih =>
      have hnext := ih (hss t (by simp)) fun u hu => hss u (by simp [hu])
      rw [Selection.pruneFrom]
      split_ifs
      · exact hnext
      · exact hs.body.append ⟨φ.plain_comma, hnext.pad fun _ => isBlank_of_mem_lead⟩

theorem Fits.prune (sel : Selection) (hF : F.Fits φ) : (sel.prune F).Fits φ :=
  (Fits.pruneFrom sel hF.first hF.others).pad fun _ => isBlank_of_mem_lead

end Fits

/-! ### Fragments as they are read -/

/-- Strings end, and nothing else begins with a quote. -/
def soundShape : Shape where
  literal s _ := (∃ cs, s = '/' :: cs) ∨
    ∃ quote cs, isQuote quote = true ∧ s = quote :: cs ∧ stringLength? quote cs = some cs.length
  plain c := Bracket.opened? c = none ∧ Bracket.closed? c = none ∧ isQuote c = false
  group _ _ := True
  literal_mono h := h
  plain_blank := by
    intro c hc
    refine ⟨?_, ?_, ?_⟩
    · cases hb : Bracket.opened? c with
      | none => rfl
      | some b =>
          rw [Bracket.eq_opener_of_opened? hb, isBlank_opener] at hc
          cases hc
    · cases hb : Bracket.closed? c with
      | none => rfl
      | some b =>
          rw [Bracket.eq_closer_of_closed? hb, isBlank_closer] at hc
          cases hc
    · cases hq : isQuote c with
      | false => rfl
      | true =>
          rw [isBlank_of_isQuote hq] at hc
          cases hc
  plain_comma := by decide

theorem sound_of_reads {F : Fragment} {prior : Option Char} {tail : List Char}
    (h : F.Reads prior tail) : F.Fits soundShape := by
  induction F generalizing prior tail with
  | nil => trivial
  | literal s rest ih =>
      obtain ⟨hs, hlen, hrest⟩ := h
      refine ⟨?_, ih hrest⟩
      cases s with
      | nil => exact absurd rfl hs
      | cons c cs =>
          rw [List.cons_append] at hlen
          by_cases hq : isQuote c = true
          · rw [literalLength_quote hq] at hlen
            cases hstring : stringLength? c (cs ++ (rest.text ++ tail)) with
            | none => simp [hstring] at hlen
            | some n =>
                obtain rfl : n = cs.length := by simpa [hstring] using hlen
                exact .inr ⟨c, cs, hq, rfl, stringLength?_of_append hstring (Nat.le_refl _)⟩
          · by_cases hc : c = '/'
            · exact .inl ⟨cs, by rw [hc]⟩
            · rw [literalLength_other (by simpa using hq) hc] at hlen
              simp at hlen
  | plain c rest ih =>
      obtain ⟨hopen, hclose, hlen, hrest⟩ := h
      exact ⟨⟨hopen, hclose, isQuote_of_literalLength hlen⟩, ih hrest⟩
  | group a b inner rest ihi ihr => exact ⟨trivial, ihi h.1, ihr h.2⟩

end Pruner.Scan.Fragment

namespace Pruner.Object.Selection

open Scan Text

variable (sel : Selection)

def strip : Fragment → Fragment
  | .nil => .nil
  | .literal s rest => .literal s (strip rest)
  | .plain c rest => .plain c (strip rest)
  | .group a b inner rest =>
      .group a b (if a = .brace then sel.prune (strip inner) else strip inner) (strip rest)

@[simp] theorem strip_append (F G : Fragment) : sel.strip (F ++ G) = sel.strip F ++ sel.strip G := by
  induction F with
  | nil => rfl
  | literal s rest ih => simp [strip, ih]
  | plain c rest ih => simp [strip, ih]
  | group a b inner rest _ ih => simp [strip, ih]

@[simp] theorem strip_pad (cs : List Char) (F : Fragment) :
    sel.strip (.pad cs F) = .pad cs (sel.strip F) := by
  induction cs with
  | nil => rfl
  | cons c cs ih => simp [strip, ih]

theorem first_strip (F : Fragment) : (sel.strip F).first = sel.strip F.first := by
  induction F with
  | nil => rfl
  | literal s rest ih => simp [strip, Fragment.first, ih]
  | plain c rest ih => by_cases hc : c = ',' <;> simp [strip, Fragment.first, hc, ih]
  | group a b inner rest _ ih => simp [strip, Fragment.first, ih]

theorem others_strip (F : Fragment) : (sel.strip F).others = F.others.map sel.strip := by
  induction F with
  | nil => rfl
  | literal s rest ih => simp [strip, Fragment.others, ih]
  | plain c rest ih =>
      by_cases hc : c = ',' <;> simp [strip, Fragment.others, hc, ih, first_strip]
  | group a b inner rest _ ih => simp [strip, Fragment.others, ih]

@[simp] theorem lead_strip (F : Fragment) : (sel.strip F).lead = F.lead := by
  induction F with
  | nil => rfl
  | literal s rest _ => rfl
  | plain c rest ih => simp [strip, Fragment.lead, ih]
  | group a b inner rest _ _ => rfl

theorem body_strip (F : Fragment) : (sel.strip F).body = sel.strip F.body := by
  induction F with
  | nil => rfl
  | literal s rest _ => rfl
  | plain c rest ih => by_cases hc : isBlank c = true <;> simp [strip, Fragment.body, hc, ih]
  | group a b inner rest _ _ => rfl

theorem startsLine_strip (F : Fragment) : (sel.strip F).startsLine = F.startsLine := by
  cases F <;> rfl

theorem fits_strip {φ : Fragment.Shape} {F : Fragment} (hF : F.Fits φ) : (sel.strip F).Fits φ := by
  induction F with
  | nil => exact hF
  | literal s rest ih =>
      refine ⟨?_, ih hF.2⟩
      rw [startsLine_strip]
      exact hF.1
  | plain c rest ih => exact ⟨hF.1, ih hF.2⟩
  | group a b inner rest ihi ihr =>
      obtain ⟨hab, hinner, hrest⟩ := hF
      refine ⟨hab, ?_, ihr hrest⟩
      split_ifs
      · exact (ihi hinner).prune sel
      · exact ihi hinner

/-! ### Keys survive -/

theorem agrees_strip (F : Fragment) : Agrees F.text (sel.strip F).text := by
  induction F with
  | nil => exact .nil
  | literal s rest ih => exact ih.append_left s
  | plain c rest ih => exact .cons c ih
  | group a b inner rest _ _ => exact .opener a _ _

theorem key?_strip {F : Fragment} (hF : F.Fits Fragment.soundShape) (shorthand : Bool) :
    key? shorthand (sel.strip F).text = key? shorthand F.text := by
  have hblank : ∀ (c : Char) (t : List Char), isBlank c = true →
      key? shorthand (c :: t) = key? shorthand t := by
    intro c t hc
    exact key?_append_blanks shorthand (by simpa using hc : ∀ d ∈ [c], isBlank d = true) t
  have hother : ∀ (c : Char) (t : List Char), isBlank c = false →
      key? shorthand (c :: t) = leadingKey? shorthand (c :: t) := by
    intro c t hc
    rw [key?, blanks_cons, hc]
    rfl
  have hslash : isBlank '/' = false := by decide
  induction F with
  | nil => rfl
  | literal s rest _ =>
      obtain ⟨hs, -⟩ := hF
      have hagrees := (sel.agrees_strip rest)
      rcases hs with ⟨cs, rfl⟩ | ⟨quote, cs, hquote, rfl, hcs⟩
      · rw [strip, Fragment.text_literal, Fragment.text_literal, List.cons_append,
          List.cons_append, hother _ _ hslash, hother _ _ hslash]
        exact (leadingKey?_plain (by decide) (hagrees.append_left cs) shorthand).symm
      · have hq := isBlank_of_isQuote hquote
        rw [strip, Fragment.text_literal, Fragment.text_literal, List.cons_append,
          List.cons_append, hother _ _ hq, hother _ _ hq]
        exact (leadingKey?_quote hquote hcs hagrees shorthand).symm
  | plain c rest ih =>
      obtain ⟨⟨-, -, hquote⟩, hrest⟩ := hF
      rw [strip, Fragment.text_plain, Fragment.text_plain]
      cases hc : isBlank c with
      | true => rw [hblank _ _ hc, hblank _ _ hc, ih hrest]
      | false =>
          have hvalue : isValueQuote c = false := by
            simp only [isQuote, Bool.or_eq_false_iff] at hquote
            simp [isValueQuote, hquote.1]
          rw [hother _ _ hc, hother _ _ hc]
          exact (leadingKey?_plain hvalue (sel.agrees_strip rest) shorthand).symm
  | group a b inner rest _ _ =>
      have ha := isBlank_opener a
      rw [strip, Fragment.text_group, Fragment.text_group, hother _ _ ha, hother _ _ ha]
      cases a <;> cases shorthand <;> rfl

theorem selects_strip (other : Selection) {F : Fragment} (hF : F.Fits Fragment.soundShape) :
    other.selects (sel.strip F).text = other.selects F.text :=
  other.selects_congr (sel.key?_strip hF other.shorthand)

/-! ### Stripping twice -/

theorem strip_pruneFrom (other : Selection) {s : Fragment} {ss : List Fragment}
    (hs : s.Fits Fragment.soundShape) (hss : ∀ t ∈ ss, t.Fits Fragment.soundShape) :
    sel.strip (other.pruneFrom s ss) = other.pruneFrom (sel.strip s) (ss.map sel.strip) := by
  have hsel := sel.selects_strip other hs
  induction ss generalizing s with
  | nil =>
      rw [List.map_nil, pruneFrom, pruneFrom, hsel]
      split_ifs
      · rfl
      · exact (sel.body_strip s).symm
  | cons t ts ih =>
      have ht := hss t (by simp)
      have hnext := ih ht (fun u hu => hss u (by simp [hu])) (sel.selects_strip other ht)
      rw [List.map_cons, pruneFrom, pruneFrom, hsel]
      split_ifs
      · exact hnext
      · rw [strip_append, body_strip, strip, strip_pad, hnext, lead_strip]

theorem strip_prune (other : Selection) {F : Fragment} (hF : F.Fits Fragment.soundShape) :
    sel.strip (other.prune F) = other.prune (sel.strip F) := by
  rw [prune, prune, strip_pad, sel.strip_pruneFrom other hF.first hF.others, first_strip,
    others_strip, lead_strip]

/-- Stripping some names and then others is stripping all of them. -/
theorem strip_strip (xs ys : List (List Char)) (shorthand : Bool) {F : Fragment}
    (hF : F.Fits Fragment.soundShape) :
    (Selection.mk ys shorthand).strip ((Selection.mk xs shorthand).strip F) =
      (Selection.mk (xs ++ ys) shorthand).strip F := by
  induction F with
  | nil => rfl
  | literal s rest ih => simp only [strip, ih hF.2]
  | plain c rest ih => simp only [strip, ih hF.2]
  | group a b inner rest ihi ihr =>
      obtain ⟨-, hinner, hrest⟩ := hF
      simp only [strip, ihr hrest]
      by_cases ha : a = .brace
      · have hstripped := (Selection.mk xs shorthand).fits_strip hinner
        simp only [if_pos ha]
        rw [strip_prune _ _ hstripped, ihi hinner, prune_prune]
      · simp only [if_neg ha, ihi hinner]

end Pruner.Object.Selection
