import Pruner.Proofs.Object.Filter

/-!
# Keys and what stands behind them

The key of a property ends in front of the first bracket in it. Two texts that agree up to a bracket
have the same key, as long as a string at their start ends in front of it.
-/

namespace Pruner.Scan

open Object Text

/-! ### Texts that differ only behind a bracket -/

/-- Two texts that are equal up to the first bracket that opens. -/
inductive Agrees : List Char → List Char → Prop where
  | nil : Agrees [] []
  | cons (c : Char) {s t : List Char} : Agrees s t → Agrees (c :: s) (c :: t)
  | opener (b : Bracket) (s t : List Char) : Agrees (b.opener :: s) (b.opener :: t)

namespace Agrees

variable {s t : List Char}

theorem append_left (u : List Char) (h : Agrees s t) : Agrees (u ++ s) (u ++ t) := by
  induction u with
  | nil => exact h
  | cons c cs ih => exact .cons c ih

theorem takeWhile_eq {p : Char → Bool} (hp : ∀ b : Bracket, p b.opener = false)
    (h : Agrees s t) : s.takeWhile p = t.takeWhile p := by
  induction h with
  | nil => rfl
  | cons c _ ih => by_cases hc : p c = true <;> simp [hc, ih]
  | opener b s t => simp [hp b]

theorem dropWhile {p : Char → Bool} (hp : ∀ b : Bracket, p b.opener = false) (h : Agrees s t) :
    Agrees (s.dropWhile p) (t.dropWhile p) := by
  induction h with
  | nil => exact .nil
  | cons c h ih =>
      by_cases hc : p c = true
      · simpa [hc] using ih
      · simpa [hc] using Agrees.cons c h
  | opener b s t => simpa [hp b] using Agrees.opener b s t

theorem all_eq {p : Char → Bool} (hp : ∀ b : Bracket, p b.opener = false) (h : Agrees s t) :
    s.all p = t.all p := by
  induction h with
  | nil => rfl
  | cons c _ ih => simp [ih]
  | opener b s t => simp [hp b]

end Agrees

theorem isBlank_opener (b : Bracket) : isBlank b.opener = false := by cases b <;> decide

theorem isBlank_closer (b : Bracket) : isBlank b.closer = false := by cases b <;> decide

theorem isBlank_of_isQuote {c : Char} (h : isQuote c = true) : isBlank c = false := by
  simp only [isQuote, Bool.or_eq_true, beq_iff_eq] at h
  rcases h with (rfl | rfl) | rfl <;> decide

theorem isIdentifierChar_opener (b : Bracket) : isIdentifierChar b.opener = false := by
  cases b <;> decide +kernel

theorem isKeyChar_opener (b : Bracket) : isKeyChar b.opener = false := by
  cases b <;> decide +kernel

theorem colonFollows_eq (rest : List Char) :
    colonFollows rest =
      ((rest.dropWhile isBlank).head? == some ':' &&
        (rest.dropWhile isBlank).tail.head? != some ':') := by
  rw [colonFollows, drop_blanks]
  split
  · rename_i heq
    simp [heq]
  · rename_i hne heq
    rw [heq]
    rename_i t
    cases t with
    | nil => rfl
    | cons d ds =>
        have hd : d ≠ ':' := fun h => hne ds (by rw [h])
        simp [hd]
  · rename_i _ hne
    cases hrest : rest.dropWhile isBlank with
    | nil => rfl
    | cons c cs =>
        have hc : c ≠ ':' := fun h => hne cs (by rw [hrest, h])
        simp [hc]

theorem Agrees.head?_eq {s t : List Char} (h : Agrees s t) : s.head? = t.head? := by
  cases h <;> rfl

theorem colonFollows_agrees {s t : List Char} (h : Agrees s t) :
    colonFollows s = colonFollows t := by
  rw [colonFollows_eq, colonFollows_eq]
  have hrest := h.dropWhile isBlank_opener
  generalize s.dropWhile isBlank = x at hrest
  generalize t.dropWhile isBlank = y at hrest
  cases hrest with
  | nil => rfl
  | opener b _ _ => cases b <;> simp [Bracket.opener]
  | cons c hnext => simp only [List.head?_cons, List.tail_cons, hnext.head?_eq]

/-! ### Keys -/

theorem quotedLength?_cons {quote c : Char} (hc : c ≠ '\\') (cs : List Char) :
    quotedLength? quote (c :: cs) =
      if c = quote then some 1 else (quotedLength? quote cs).map (· + 1) := by
  rw [quotedLength?]
  · exact fun h _ => hc h
  · exact fun _ _ h _ => hc h

/-- A quoted value is part of a string that ends: it depends on nothing behind that string. -/
theorem quotedLength?_append {quote : Char} {s : List Char} {n : Nat}
    (h : stringLength? quote s = some n) (t : List Char) :
    quotedLength? quote (s ++ t) = quotedLength? quote s := by
  fun_induction stringLength? quote s generalizing n with
  | case1 => simp at h
  | case2 => simp at h
  | case3 c cs ih =>
      obtain ⟨m, hm, rfl⟩ := Option.map_eq_some_iff.mp h
      simp [quotedLength?, ih hm]
  | case4 cs hnil hcons =>
      have hc := ne_backslash hnil hcons
      rw [List.cons_append, quotedLength?_cons hc, quotedLength?_cons hc, if_pos rfl, if_pos rfl]
  | case5 c cs hnil hcons hne ih =>
      have hc := ne_backslash hnil hcons
      obtain ⟨m, hm, rfl⟩ := Option.map_eq_some_iff.mp h
      rw [List.cons_append, quotedLength?_cons hc, quotedLength?_cons hc, ih hm]

theorem stringLength?_of_quotedLength? {quote : Char} {s : List Char} {n : Nat}
    (h : quotedLength? quote s = some n) : stringLength? quote s = some n := by
  fun_induction quotedLength? quote s generalizing n with
  | case1 => simp at h
  | case2 => simp at h
  | case3 => simp at h
  | case4 c cs hc ih =>
      obtain ⟨m, hm, rfl⟩ := Option.map_eq_some_iff.mp h
      simp [stringLength?, ih hm]
  | case5 cs hnil hcons =>
      rw [stringLength?_cons (ne_backslash hnil hcons), if_pos rfl, ← h]
  | case6 c cs hnil hcons hne ih =>
      obtain ⟨m, hm, rfl⟩ := Option.map_eq_some_iff.mp h
      rw [stringLength?_cons (ne_backslash hnil hcons), if_neg hne, ih hm]
      rfl

theorem leadingKey?_quote {quote : Char} {s x y : List Char} (hquote : isQuote quote = true)
    (hs : stringLength? quote s = some s.length) (h : Agrees x y) (shorthand : Bool) :
    leadingKey? shorthand (quote :: (s ++ x)) = leadingKey? shorthand (quote :: (s ++ y)) := by
  have hstart : isKeyStart quote = false := by
    simp only [isQuote, Bool.or_eq_true, beq_iff_eq] at hquote
    rcases hquote with (rfl | rfl) | rfl <;> decide
  have hshort : ∀ t, shorthandKey? (quote :: t) = none := by
    intro t
    simp [shorthandKey?, hstart]
  have hexplicit : explicitKey? (quote :: (s ++ x)) = explicitKey? (quote :: (s ++ y)) := by
    simp only [explicitKey?, hstart, quotedLength?_append hs]
    cases hlen : quotedLength? quote s with
    | none => rfl
    | some n =>
        have hn : n = s.length := by
          have hstring := stringLength?_of_quotedLength? hlen
          simpa [hs] using hstring.symm
        subst hn
        simp only [List.drop_left, List.take_append_of_le_length (Nat.sub_le s.length 1),
          colonFollows_agrees h, Bool.false_eq_true, if_false]
  rw [leadingKey?, leadingKey?, hexplicit, hshort, hshort]

theorem leadingKey?_plain {c : Char} {x y : List Char} (hquote : isValueQuote c = false)
    (h : Agrees x y) (shorthand : Bool) :
    leadingKey? shorthand (c :: x) = leadingKey? shorthand (c :: y) := by
  have hexplicit : explicitKey? (c :: x) = explicitKey? (c :: y) := by
    simp only [explicitKey?, hquote, colonFollows_agrees (h.dropWhile isKeyChar_opener),
      h.takeWhile_eq isKeyChar_opener, Bool.false_eq_true, if_false]
  have hshort : shorthandKey? (c :: x) = shorthandKey? (c :: y) := by
    simp only [shorthandKey?, (h.dropWhile isIdentifierChar_opener).all_eq isBlank_opener,
      h.takeWhile_eq isIdentifierChar_opener]
  rw [leadingKey?, leadingKey?, hexplicit, hshort]

end Pruner.Scan
