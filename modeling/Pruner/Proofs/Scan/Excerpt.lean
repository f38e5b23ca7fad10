import Pruner.Proofs.Scan.Fragment

/-!
# Spans cut out of a text

A literal that ends inside a stretch of text is found there as well when the text behind the stretch is
cut off. Regular expressions, too, are only looked for as far as they reach. So a balanced span is
balanced by itself. The other way round, text put behind the span can only turn a slash that divides
into one that opens a regular expression, and for that it has to hold a slash.
-/

namespace Pruner.Scan

/-! ### Literals -/

theorem regexBodyLength?_cons {c : Char} (hc : c ≠ '\\') (inClass : Bool) (cs : List Char) :
    regexBodyLength? inClass (c :: cs) =
      if c = '\n' then none
      else if c = '/' ∧ inClass = false then some 1
      else (regexBodyLength? (c = '[' || (c ≠ ']' && inClass)) cs).map (· + 1) := by
  rw [regexBodyLength?]
  · exact fun h _ => hc h
  · exact fun _ _ h _ => hc h

theorem regexBodyLength?_pos {inClass : Bool} {text : List Char} {n : Nat}
    (h : regexBodyLength? inClass text = some n) : 0 < n := by
  fun_induction regexBodyLength? inClass text generalizing n with
  | case1 => simp at h
  | case2 => simp at h
  | case3 inClass c cs _ =>
      obtain ⟨m, -, rfl⟩ := Option.map_eq_some_iff.mp h
      omega
  | case4 => simp at h
  | case5 =>
      cases h
      exact Nat.one_pos
  | case6 inClass c cs _ _ _ _ _ =>
      obtain ⟨m, -, rfl⟩ := Option.map_eq_some_iff.mp h
      omega

theorem regexBodyLength?_append {inClass : Bool} {s : List Char} {n : Nat}
    (h : regexBodyLength? inClass s = some n) (t : List Char) :
    regexBodyLength? inClass (s ++ t) = some n := by
  fun_induction regexBodyLength? inClass s generalizing n with
  | case1 => simp at h
  | case2 => simp at h
  | case3 inClass c cs ih =>
      obtain ⟨m, hm, rfl⟩ := Option.map_eq_some_iff.mp h
      simp [regexBodyLength?, ih hm]
  | case4 => simp at h
  | case5 inClass c cs hnil hcons hline hslash =>
      rw [List.cons_append, regexBodyLength?_cons (ne_backslash hnil hcons), if_neg hline,
        if_pos hslash, ← h]
  | case6 inClass c cs hnil hcons hline hslash ih =>
      obtain ⟨m, hm, rfl⟩ := Option.map_eq_some_iff.mp h
      rw [List.cons_append, regexBodyLength?_cons (ne_backslash hnil hcons), if_neg hline,
        if_neg hslash, ih hm]
      rfl

theorem regexBodyLength?_of_append {inClass : Bool} {s t : List Char} {n : Nat}
    (h : regexBodyLength? inClass (s ++ t) = some n) (hn : n ≤ s.length) :
    regexBodyLength? inClass s = some n := by
  fun_induction regexBodyLength? inClass s generalizing n with
  | case1 =>
      have hpos := regexBodyLength?_pos h
      simp only [List.length_nil] at hn
      omega
  | case2 =>
      cases t with
      | nil => simp [regexBodyLength?] at h
      | cons c cs =>
          obtain ⟨m, hm, rfl⟩ := Option.map_eq_some_iff.mp h
          simp at hn
  | case3 inClass c cs ih =>
      obtain ⟨m, hm, rfl⟩ := Option.map_eq_some_iff.mp h
      simp only [List.length_cons] at hn
      rw [ih hm (by omega)]
      rfl
  | case4 inClass cs hnil hcons =>
      rw [List.cons_append, regexBodyLength?_cons (ne_backslash hnil hcons), if_pos rfl] at h
      exact h
  | case5 inClass c cs hnil hcons hline hslash =>
      rw [List.cons_append, regexBodyLength?_cons (ne_backslash hnil hcons), if_neg hline,
        if_pos hslash] at h
      exact h
  | case6 inClass c cs hnil hcons hline hslash ih =>
      rw [List.cons_append, regexBodyLength?_cons (ne_backslash hnil hcons), if_neg hline,
        if_neg hslash] at h
      obtain ⟨m, hm, rfl⟩ := Option.map_eq_some_iff.mp h
      simp only [List.length_cons] at hn
      rw [ih hm (by omega)]
      rfl

theorem regexBodyLength?_of_not_mem {inClass : Bool} {text : List Char} (h : '/' ∉ text) :
    regexBodyLength? inClass text = none := by
  fun_induction regexBodyLength? inClass text with
  | case1 => rfl
  | case2 => rfl
  | case3 inClass c cs ih =>
      rw [ih (fun hmem => h (by simp [hmem]))]
      rfl
  | case4 => rfl
  | case5 inClass c cs _ _ _ hslash => exact absurd (by simp [hslash.1]) h
  | case6 inClass c cs _ _ _ _ ih =>
      rw [ih (fun hmem => h (by simp [hmem]))]
      rfl

theorem regexBodyLength?_append_none {inClass : Bool} {s t : List Char}
    (h : regexBodyLength? inClass s = none) (ht : '/' ∉ t) :
    regexBodyLength? inClass (s ++ t) = none := by
  fun_induction regexBodyLength? inClass s with
  | case1 => exact regexBodyLength?_of_not_mem ht
  | case2 =>
      apply regexBodyLength?_of_not_mem
      simpa using ht
  | case3 inClass c cs ih =>
      simp only [List.cons_append, regexBodyLength?, ih (Option.map_eq_none_iff.mp h),
        Option.map_none]
  | case4 inClass cs hnil hcons =>
      rw [List.cons_append, regexBodyLength?_cons (ne_backslash hnil hcons), if_pos rfl]
  | case5 => simp at h
  | case6 inClass c cs hnil hcons hline hslash ih =>
      rw [List.cons_append, regexBodyLength?_cons (ne_backslash hnil hcons), if_neg hline,
        if_neg hslash, ih (Option.map_eq_none_iff.mp h)]
      rfl

theorem length_takeWhile_append {p : Char → Bool} {s t : List Char}
    (h : ((s ++ t).takeWhile p).length ≤ s.length) :
    ((s ++ t).takeWhile p).length = (s.takeWhile p).length := by
  rw [List.takeWhile_append] at h ⊢
  split_ifs at h ⊢ with hall
  · rw [List.length_append] at h ⊢
    omega
  · rfl

section Cut

variable {prior : Option Char} {s t : List Char} {n : Nat}

theorem regexLength_of_append (hn : regexLength prior (s ++ t) ≤ s.length + 1) :
    regexLength prior s = regexLength prior (s ++ t) := by
  unfold regexLength at hn ⊢
  split_ifs at hn ⊢ with hadmits
  · cases hbody : regexBodyLength? false (s ++ t) with
    | none =>
        cases hshort : regexBodyLength? false s with
        | none => rfl
        | some m =>
            rw [regexBodyLength?_append hshort t] at hbody
            cases hbody
    | some m =>
        simp only [hbody] at hn
        have hm : m ≤ s.length := by omega
        rw [List.drop_append_of_le_length hm] at hn
        rw [regexBodyLength?_of_append hbody hm]
        simp only
        rw [List.drop_append_of_le_length hm, length_takeWhile_append]
        rw [List.length_drop]
        omega
  · rfl

theorem slashLength_other {c : Char} (hline : c ≠ '/') (hblock : c ≠ '*') (cs : List Char) :
    slashLength prior (c :: cs) = .ok (regexLength prior (c :: cs)) := by
  rw [slashLength]
  · intro rest heq
    exact hline (List.cons.inj heq).1
  · intro rest heq
    exact hblock (List.cons.inj heq).1

theorem slashLength_of_append (hs : s ≠ []) (h : slashLength prior (s ++ t) = .ok n)
    (hn : n ≤ s.length + 1) : slashLength prior s = .ok n := by
  cases s with
  | nil => exact absurd rfl hs
  | cons c cs =>
      by_cases hline : c = '/'
      · subst hline
        simp only [List.cons_append, slashLength, Except.ok.injEq, List.length_cons] at h hn ⊢
        rw [← length_takeWhile_append (t := t) (by omega), h]
      · by_cases hblock : c = '*'
        · subst hblock
          simp only [List.cons_append, slashLength, List.length_cons] at h hn ⊢
          cases hlen : blockLength? (cs ++ t) with
          | none => simp [hlen] at h
          | some m =>
              obtain rfl : 2 + m = n := by simpa [hlen] using h
              rw [blockLength?_of_append hlen (by omega)]
        · rw [List.cons_append, slashLength_other hline hblock, ← List.cons_append] at h
          obtain rfl := Except.ok.inj h
          rw [slashLength_other hline hblock, regexLength_of_append hn]

theorem literalLength_of_append (hs : 1 < s.length) (h : literalLength prior (s ++ t) = .ok n)
    (hn : n ≤ s.length) : literalLength prior s = .ok n := by
  cases s with
  | nil => simp at hs
  | cons c cs =>
      rw [List.length_cons] at hs hn
      by_cases hquote : isQuote c = true
      · rw [List.cons_append, literalLength_quote hquote] at h
        rw [literalLength_quote hquote]
        cases hlen : stringLength? c (cs ++ t) with
        | none => simp [hlen] at h
        | some m =>
            obtain rfl : m + 1 = n := by simpa [hlen] using h
            rw [stringLength?_of_append hlen (by omega)]
            rfl
      · by_cases hslash : c = '/'
        · subst hslash
          rw [List.cons_append, literalLength_slash] at h
          rw [literalLength_slash]
          apply slashLength_of_append _ h hn
          rintro rfl
          simp at hs
        · rw [List.cons_append, literalLength_other (by simpa using hquote) hslash] at h
          rw [literalLength_other (by simpa using hquote) hslash, h]

end Cut

section Extension

variable {prior : Option Char} {s t : List Char} {n : Nat}

/-- A stretch that ends before its text does ends there whatever follows. -/
theorem takeWhile_append_of_lt {p : Char → Bool} (h : (s.takeWhile p).length < s.length)
    (t : List Char) : (s ++ t).takeWhile p = s.takeWhile p := by
  rw [List.takeWhile_append, if_neg (Nat.ne_of_lt h)]

theorem regexLength_append (ht : 0 < regexLength prior s ∨ '/' ∉ t)
    (hn : regexLength prior s ≤ s.length) :
    regexLength prior (s ++ t) = regexLength prior s := by
  unfold regexLength at ht hn ⊢
  split_ifs at ht hn ⊢ with hadmits
  · cases hbody : regexBodyLength? false s with
    | none => rw [regexBodyLength?_append_none hbody (ht.resolve_left (by simp [hbody]))]
    | some m =>
        have hm := regexBodyLength?_le hbody
        simp only [hbody] at hn
        rw [regexBodyLength?_append hbody t]
        simp only
        rw [List.drop_append_of_le_length hm, takeWhile_append_of_lt]
        rw [List.length_drop]
        omega
  · rfl

theorem slashLength_append (hs : s ≠ []) (ht : 0 < n ∨ '/' ∉ t) (h : slashLength prior s = .ok n)
    (hn : n ≤ s.length) : slashLength prior (s ++ t) = .ok n := by
  cases s with
  | nil => exact absurd rfl hs
  | cons c cs =>
      by_cases hline : c = '/'
      · subst hline
        simp only [List.cons_append, slashLength, Except.ok.injEq, List.length_cons] at h hn ⊢
        rw [takeWhile_append_of_lt (by omega), h]
      · by_cases hblock : c = '*'
        · subst hblock
          simp only [List.cons_append, slashLength] at h ⊢
          cases hlen : blockLength? cs with
          | none => simp [hlen] at h
          | some m =>
              rw [blockLength?_append hlen]
              simpa [hlen] using h
        · rw [slashLength_other hline hblock] at h
          obtain rfl := Except.ok.inj h
          rw [List.cons_append, slashLength_other hline hblock, ← List.cons_append,
            regexLength_append ht hn]

/-- A literal that ends inside a text is found there whatever follows, and text without a slash does
not make a literal where there was none. -/
theorem literalLength_append (hs : 1 < s.length) (ht : 0 < n ∨ '/' ∉ t)
    (h : literalLength prior s = .ok n) (hn : n < s.length) :
    literalLength prior (s ++ t) = .ok n := by
  cases s with
  | nil => simp at hs
  | cons c cs =>
      rw [List.length_cons] at hs hn
      by_cases hquote : isQuote c = true
      · rw [literalLength_quote hquote] at h
        rw [List.cons_append, literalLength_quote hquote]
        cases hlen : stringLength? c cs with
        | none => simp [hlen] at h
        | some m =>
            rw [stringLength?_append hlen, ← hlen]
            exact h
      · by_cases hslash : c = '/'
        · subst hslash
          rw [literalLength_slash] at h
          rw [List.cons_append, literalLength_slash]
          apply slashLength_append _ ht h (by omega)
          rintro rfl
          simp at hs
        · rw [literalLength_other (by simpa using hquote) hslash] at h
          rw [List.cons_append, literalLength_other (by simpa using hquote) hslash, h]

end Extension

/-! ### Spans -/

theorem Fragment.Reads.of_append {F : Fragment} {prior : Option Char} {tail behind : List Char}
    (htail : tail ≠ []) (h : F.Reads prior (tail ++ behind)) : F.Reads prior tail := by
  have hpos := List.length_pos_iff.mpr htail
  induction F generalizing prior tail with
  | nil => trivial
  | literal s rest ih =>
      obtain ⟨hs, hlen, hrest⟩ := h
      have hspos := List.length_pos_iff.mpr hs
      refine ⟨hs, ?_, ih htail hrest hpos⟩
      rw [← List.append_assoc, ← List.append_assoc] at hlen
      rw [← List.append_assoc]
      apply literalLength_of_append _ hlen
      · simp only [List.length_append]
        omega
      · simp only [List.length_append]
        omega
  | plain c rest ih =>
      obtain ⟨hopen, hclose, hlen, hrest⟩ := h
      refine ⟨hopen, hclose, ?_, ih htail hrest hpos⟩
      rw [← List.append_assoc, ← List.cons_append] at hlen
      apply literalLength_of_append _ hlen (Nat.zero_le _)
      simp only [List.length_cons, List.length_append]
      omega
  | group a b inner rest ihi ihr =>
      obtain ⟨hinner, hrest⟩ := h
      refine ⟨ihi (by simp) ?_ (by simp), ihr htail hrest hpos⟩
      rwa [List.cons_append, List.append_assoc]

theorem Fragment.Reads.append {F : Fragment} {prior : Option Char} {tail behind : List Char}
    (htail : tail ≠ []) (hbehind : '/' ∉ behind) (h : F.Reads prior tail) :
    F.Reads prior (tail ++ behind) := by
  have hpos := List.length_pos_iff.mpr htail
  induction F generalizing prior tail with
  | nil => trivial
  | literal s rest ih =>
      obtain ⟨hs, hlen, hrest⟩ := h
      have hspos := List.length_pos_iff.mpr hs
      refine ⟨hs, ?_, ih htail hrest hpos⟩
      rw [← List.append_assoc] at hlen
      rw [← List.append_assoc, ← List.append_assoc]
      apply literalLength_append _ (.inr hbehind) hlen
      · simp only [List.length_append]
        omega
      · simp only [List.length_append]
        omega
  | plain c rest ih =>
      obtain ⟨hopen, hclose, hlen, hrest⟩ := h
      refine ⟨hopen, hclose, ?_, ih htail hrest hpos⟩
      rw [← List.append_assoc, ← List.cons_append]
      apply literalLength_append _ (.inr hbehind) hlen (by simp)
      simp only [List.length_cons, List.length_append]
      omega
  | group a b inner rest ihi ihr =>
      obtain ⟨hinner, hrest⟩ := h
      refine ⟨?_, ihr htail hrest hpos⟩
      have hlonger := ihi (by simp) hinner (by simp)
      rwa [List.cons_append, List.append_assoc] at hlonger

theorem innerLength?_lt {rest : List Char} {n : Nat} (h : innerLength? rest = some n) :
    n < rest.length := by
  obtain ⟨F, tail, rfl, -, rfl⟩ := innerLength?_eq_some_iff.mp h
  rw [List.length_append, List.length_cons]
  omega

theorem innerLength?_take {rest : List Char} {n : Nat} (h : innerLength? rest = some n) :
    innerLength? (rest.take (n + 1)) = some n := by
  obtain ⟨F, tail, rfl, hF, rfl⟩ := innerLength?_eq_some_iff.mp h
  apply innerLength?_eq_some_iff.mpr
  refine ⟨F, [], ?_, ?_, rfl⟩
  · rw [List.take_length_add_append]
    rfl
  · have hcut : F.Reads (some '{') (['}'] ++ tail) := hF
    exact hcut.of_append (by simp)

/-- A balanced span is balanced by itself. -/
theorem closing?_take {rest : List Char} {n : Nat} (h : innerLength? rest = some n) :
    closing? ('{' :: rest.take (n + 1)) 0 = some (('{' :: rest.take (n + 1)).length - 1) := by
  have hlt := innerLength?_lt h
  have hlength : ('{' :: rest.take (n + 1)).length = n + 2 := by
    rw [List.length_cons, List.length_take, Nat.min_eq_left hlt]
  rw [hlength, closing?, List.drop_zero]
  simp only [if_true, innerLength?_take h, Option.map_some]
  congr 1
  omega

end Pruner.Scan
