import Pruner.Proofs.Scan.Excerpt

/-!
# Spans in front of a self-closing slash

The slash that closes a tag can end a regular expression that a slash inside the span seems to open.
Then the span runs on to the end of the tag and has no closer. Spaces in front of the slash do not
matter: with any number of them the span closes where it closes alone, or with any number of them it
does not close.
-/

namespace Pruner.Scan

/-- The end of a tag that closes itself, with spaces in front of its slash. -/
def selfClosing (gap : Nat) : List Char :=
  List.replicate gap ' ' ++ ['/', '>']

theorem selfClosing_succ (gap : Nat) : selfClosing (gap + 1) = ' ' :: selfClosing gap := by
  rw [selfClosing, List.replicate_succ, List.cons_append]
  rfl

theorem getLast?_ne_of_cons {c d : Char} {cs : List Char} (h : (c :: cs).getLast? ≠ some d) :
    cs.getLast? ≠ some d := by
  intro hcs
  apply h
  rw [List.getLast?_cons, hcs]
  rfl

theorem getLast?_append_ne {d : Char} {t : List Char} (ht : t ≠ []) (h : t.getLast? ≠ some d)
    (s : List Char) : (s ++ t).getLast? ≠ some d := by
  rwa [List.getLast?_append, Option.or_of_isSome (List.getLast?_isSome.mpr ht)]

/-! ### The slash that closes the tag -/

/-- A length that does not depend on the spaces: there is none, or it reaches through the slash. -/
def ThroughSlash (length : Nat → Option Nat) (n : Nat) : Prop :=
  (∀ gap, length gap = none) ∨ ∀ gap, length gap = some (n + gap + 1)

theorem ThroughSlash.add {length : Nat → Option Nat} {n : Nat} (h : ThroughSlash length n)
    (k : Nat) : ThroughSlash (fun gap => (length gap).map (· + k)) (n + k) := by
  rcases h with hnone | hsome
  · left
    intro gap
    simp only [hnone gap, Option.map_none]
  · right
    intro gap
    simp only [hsome gap, Option.map_some, Option.some.injEq]
    omega

theorem regexBodyLength?_selfClosing (inClass : Bool) (gap : Nat) :
    regexBodyLength? inClass (selfClosing gap) = if inClass then none else some (gap + 1) := by
  induction gap with
  | zero => cases inClass <;> rfl
  | succ gap ih =>
      have hclass : (decide (' ' = '[') || (decide (' ' ≠ ']') && inClass)) = inClass := by
        cases inClass <;> rfl
      rw [selfClosing_succ, regexBodyLength?_cons (by decide), if_neg (by decide),
        if_neg (not_and_of_not_left _ (by decide)), hclass, ih]
      cases inClass <;> rfl

/-- A body that does not end in a text ends with the slash behind it or not at all. -/
theorem regexBodyLength?_through_slash {inClass : Bool} {x : List Char}
    (hlast : x.getLast? ≠ some '\\') (h : regexBodyLength? inClass x = none) :
    ThroughSlash (fun gap => regexBodyLength? inClass (x ++ selfClosing gap)) x.length := by
  fun_induction regexBodyLength? inClass x with
  | case1 inClass =>
      simp only [List.nil_append, regexBodyLength?_selfClosing]
      cases inClass with
      | true => exact .inl fun gap => rfl
      | false => exact .inr fun gap => congrArg some (by rw [List.length_nil, Nat.zero_add])
  | case2 => exact absurd rfl hlast
  | case3 inClass c cs ih =>
      have hcs := getLast?_ne_of_cons (getLast?_ne_of_cons hlast)
      simp only [List.cons_append, regexBodyLength?]
      exact (ih hcs (Option.map_eq_none_iff.mp h)).add 2
  | case4 inClass cs hnil hcons =>
      left
      intro gap
      simp only [List.cons_append, regexBodyLength?_cons (ne_backslash hnil hcons), if_pos]
  | case5 => simp at h
  | case6 inClass c cs hnil hcons hline hslash ih =>
      simp only [List.cons_append, regexBodyLength?_cons (ne_backslash hnil hcons), if_neg hline,
        if_neg hslash]
      exact (ih (getLast?_ne_of_cons hlast) (Option.map_eq_none_iff.mp h)).add 1

section InTag

variable {prior : Option Char} {x : List Char}

/-- Behind the slash of the tag stands no flag. -/
theorem drop_through_slash (x : List Char) (gap : Nat) :
    (x ++ selfClosing gap).drop (x.length + gap + 1) = ['>'] := by
  have hsplit : x ++ selfClosing gap = (x ++ (List.replicate gap ' ' ++ ['/'])) ++ ['>'] := by
    simp [selfClosing]
  rw [hsplit, List.drop_left']
  simp [Nat.add_assoc]

theorem regexLength_in_tag (hlast : x.getLast? ≠ some '\\') (h : regexLength prior x = 0) :
    (∀ gap, regexLength prior (x ++ selfClosing gap) = 0) ∨
      ∀ gap, regexLength prior (x ++ selfClosing gap) = x.length + gap + 2 := by
  unfold regexLength at h ⊢
  split_ifs at h ⊢ with hadmits
  · have hbody : regexBodyLength? false x = none := by
      cases hx : regexBodyLength? false x with
      | none => rfl
      | some n => simp [hx] at h
    rcases regexBodyLength?_through_slash hlast hbody with hnone | hsome
    · left
      intro gap
      simp only [hnone gap]
    · right
      intro gap
      have hflags : ['>'].takeWhile isRegexFlag = [] := by decide
      simp only [hsome gap, drop_through_slash, hflags, List.length_nil]
      omega
  · exact .inl fun gap => rfl

/-- Where no literal begins in a text none begins in the tag, or else there is a slash whose regular
expression ends with the slash of the tag. -/
theorem literalLength_in_tag {c : Char} (hx : x ≠ []) (hlast : x.getLast? ≠ some '\\')
    (h : literalLength prior (c :: x) = .ok 0) :
    (∀ gap, literalLength prior (c :: (x ++ selfClosing gap)) = .ok 0) ∨
      ∀ gap, literalLength prior (c :: (x ++ selfClosing gap)) = .ok (x.length + gap + 2) := by
  have hquote := isQuote_of_literalLength h
  by_cases hc : c = '/'
  · subst hc
    obtain ⟨d, ds, rfl⟩ := List.exists_cons_of_ne_nil hx
    rw [literalLength_slash] at h
    have hline : d ≠ '/' := by
      rintro rfl
      simp [slashLength] at h
    have hblock : d ≠ '*' := by
      rintro rfl
      rw [slashLength] at h
      split at h
      · have hpos := Except.ok.inj h
        omega
      · cases h
    rw [slashLength_other hline hblock] at h
    simp only [literalLength_slash, List.cons_append, slashLength_other hline hblock]
    rcases regexLength_in_tag hlast (Except.ok.inj h) with hnone | hsome
    · left
      intro gap
      exact congrArg Except.ok (hnone gap)
    · right
      intro gap
      exact congrArg Except.ok (hsome gap)
  · left
    intro gap
    rw [literalLength_other hquote hc]

/-- A search that has passed the slash of the tag finds no closer. -/
theorem closingFrom?_through_slash {c : Char} {gap : Nat} (depth : Nat)
    (h : literalLength prior (c :: (x ++ selfClosing gap)) = .ok (x.length + gap + 2)) :
    closingFrom? depth prior (c :: (x ++ selfClosing gap)) = none := by
  have hsplit : c :: (x ++ selfClosing gap) =
      (c :: (x ++ (List.replicate gap ' ' ++ ['/']))) ++ ['>'] := by
    simp [selfClosing]
  have hlength : (c :: (x ++ (List.replicate gap ' ' ++ ['/']))).length = x.length + gap + 2 := by
    simp only [List.length_cons, List.length_append, List.length_replicate, List.length_nil]
    omega
  have hangle : ∀ prior, closingFrom? depth prior ['>'] = none := by
    intro prior
    rw [closingFrom?_plain depth rfl rfl rfl, closingFrom?]
    rfl
  rw [hsplit, ← hlength] at h
  rw [hsplit, closingFrom?_literal depth (by simp) h, hangle]
  rfl

/-! ### Spans -/

/-- A fragment is read in a tag that closes itself as it is read alone, or else the search for a closer
runs out of the tag. -/
theorem Fragment.Reads.in_tag {F : Fragment} {tail : List Char} (htail : tail ≠ [])
    (hlast : tail.getLast? ≠ some '\\') (h : F.Reads prior tail) :
    (∀ gap, F.Reads prior (tail ++ selfClosing gap)) ∨
      ∀ gap depth, closingFrom? depth prior (F.text ++ (tail ++ selfClosing gap)) = none := by
  induction F generalizing prior tail with
  | nil => exact .inl fun gap => trivial
  | literal s rest ih =>
      obtain ⟨hs, hlen, hrest⟩ := h
      have hliteral : ∀ gap, literalLength prior (s ++ (rest.text ++ (tail ++ selfClosing gap))) =
          .ok s.length := by
        intro gap
        have hspos := List.length_pos_iff.mpr hs
        have hpos := List.length_pos_iff.mpr htail
        rw [← List.append_assoc] at hlen
        rw [← List.append_assoc, ← List.append_assoc]
        apply literalLength_append _ (.inl hspos) hlen
        · simp only [List.length_append]
          omega
        · simp only [List.length_append]
          omega
      rcases ih htail hlast hrest with hreads | hnone
      · exact .inl fun gap => ⟨hs, hliteral gap, hreads gap⟩
      · right
        intro gap depth
        rw [text_literal, List.append_assoc, closingFrom?_literal depth hs (hliteral gap),
          hnone gap depth]
        rfl
  | plain c rest ih =>
      obtain ⟨hopen, hclose, hlen, hrest⟩ := h
      have hrestlast := getLast?_append_ne htail hlast rest.text
      rcases literalLength_in_tag (by simp [htail]) hrestlast hlen with hzero | hslash
      · simp only [List.append_assoc] at hzero
        rcases ih htail hlast hrest with hreads | hnone
        · exact .inl fun gap => ⟨hopen, hclose, hzero gap, hreads gap⟩
        · right
          intro gap depth
          rw [text_plain, List.cons_append, closingFrom?_plain depth hopen hclose (hzero gap),
            hnone gap depth]
          rfl
      · -- the character is a slash, and what it opens takes the rest of the fragment along
        right
        intro gap depth
        rw [text_plain, List.cons_append, ← List.append_assoc]
        exact closingFrom?_through_slash depth (hslash gap)
  | group a b inner rest ihi ihr =>
      obtain ⟨hinner, hrest⟩ := h
      have hcloser : (b.closer :: (rest.text ++ tail)).getLast? ≠ some '\\' :=
        getLast?_append_ne htail hlast (b.closer :: rest.text)
      -- what stands behind the inner fragment begins with its closer and ends as the tail does
      have hinside := ihi (by simp) hcloser hinner
      simp only [List.cons_append, List.append_assoc] at hinside
      rcases hinside with hreads | hnone
      · rcases ihr htail hlast hrest with hbehind | hnone
        · exact .inl fun gap => ⟨hreads gap, hbehind gap⟩
        · right
          intro gap depth
          rw [text_group_append, closingFrom?_opener, closingFrom?_fragment inner _ (hreads gap),
            closingFrom?_closer_succ, hnone gap depth]
          rfl
      · right
        intro gap depth
        rw [text_group_append, closingFrom?_opener, hnone gap]
        rfl

end InTag

/-- Whether a span closes in a tag that closes itself does not depend on the spaces. -/
theorem innerLength?_in_tag {F : Fragment} (h : F.Reads (some '{') ['}']) :
    ∃ closes : Bool, ∀ gap, innerLength? (F.text ++ '}' :: selfClosing gap) =
      if closes then some F.text.length else none := by
  rcases h.in_tag (by simp) (by decide) with hreads | hnone
  · refine ⟨true, fun gap => ?_⟩
    exact innerLength?_eq_some_iff.mpr ⟨F, selfClosing gap, rfl, hreads gap, rfl⟩
  · exact ⟨false, fun gap => hnone gap 0⟩

-- behind the colon a slash opens a regular expression as soon as there is a slash to end it
example : closing? "\x7b\x7ba:/\x7d\x7d".toList 0 = some 6 ∧
    closing? "\x7b\x7ba:/\x7d\x7d/>".toList 0 = none ∧
    closing? "\x7b\x7ba:/\x7d\x7d />".toList 0 = none := by
  decide +kernel

end Pruner.Scan
