import Mathlib.Tactic.SplitIfs
import Pruner.Scan.Bracket
import Pruner.Scan.Literal

/-!
# Literals in context

A string or a block comment reads the same whatever stands around it, and a line comment does so as
long as a line break or the end of the text follows. Only a slash that opens neither kind of comment
depends on what stands in front of it.
-/

namespace Pruner.Scan

/-! ### Lengths -/

theorem ne_backslash {c : Char} {cs : List Char} (hnil : c = '\\' → cs = [] → False)
    (hcons : ∀ d ds, c = '\\' → cs = d :: ds → False) : c ≠ '\\' := by
  intro hc
  cases cs with
  | nil => exact hnil hc rfl
  | cons d ds => exact hcons d ds hc rfl

theorem stringLength?_cons {quote c : Char} (hc : c ≠ '\\') (cs : List Char) :
    stringLength? quote (c :: cs) =
      if c = quote then some 1 else (stringLength? quote cs).map (· + 1) := by
  rw [stringLength?]
  · exact fun h _ => hc h
  · exact fun _ _ h _ => hc h

theorem stringLength?_bounds {quote : Char} {text : List Char} {n : Nat}
    (h : stringLength? quote text = some n) : 0 < n ∧ n ≤ text.length := by
  fun_induction stringLength? quote text generalizing n with
  | case1 => simp at h
  | case2 => simp at h
  | case3 c cs ih =>
      obtain ⟨m, hm, rfl⟩ := Option.map_eq_some_iff.mp h
      have hle := (ih hm).2
      simp only [List.length_cons]
      omega
  | case4 cs _ _ =>
      cases h
      simp
  | case5 c cs _ _ _ ih =>
      obtain ⟨m, hm, rfl⟩ := Option.map_eq_some_iff.mp h
      have hle := (ih hm).2
      simp only [List.length_cons]
      omega

theorem blockLength?_bounds {text : List Char} {n : Nat} (h : blockLength? text = some n) :
    1 < n ∧ n ≤ text.length := by
  fun_induction blockLength? text generalizing n with
  | case1 => simp at h
  | case2 cs =>
      cases h
      simp
  | case3 c cs _ ih =>
      obtain ⟨m, hm, rfl⟩ := Option.map_eq_some_iff.mp h
      have hle := ih hm
      simp only [List.length_cons]
      omega

theorem regexBodyLength?_le {inClass : Bool} {text : List Char} {n : Nat}
    (h : regexBodyLength? inClass text = some n) : n ≤ text.length := by
  fun_induction regexBodyLength? inClass text generalizing n with
  | case1 => simp at h
  | case2 => simp at h
  | case3 inClass c cs ih =>
      obtain ⟨m, hm, rfl⟩ := Option.map_eq_some_iff.mp h
      have hle := ih hm
      simp only [List.length_cons]
      omega
  | case4 => simp at h
  | case5 =>
      cases h
      simp
  | case6 inClass c cs _ _ _ _ ih =>
      obtain ⟨m, hm, rfl⟩ := Option.map_eq_some_iff.mp h
      have hle := ih hm
      simp only [List.length_cons]
      omega

theorem regexLength_le (prior : Option Char) (rest : List Char) :
    regexLength prior rest ≤ rest.length + 1 := by
  unfold regexLength
  split
  · split
    · rename_i n hn
      have hbody := regexBodyLength?_le hn
      have hflags := (List.takeWhile_sublist isRegexFlag (l := rest.drop n)).length_le
      rw [List.length_drop] at hflags
      omega
    · omega
  · omega

theorem slashLength_le {prior : Option Char} {rest : List Char} {n : Nat}
    (h : slashLength prior rest = .ok n) : n ≤ rest.length + 1 := by
  unfold slashLength at h
  split at h
  · rename_i cs
    cases h
    have hline := (List.takeWhile_sublist (· ≠ '\n') (l := cs)).length_le
    simp only [List.length_cons]
    omega
  · rename_i cs
    split at h
    · rename_i m hm
      cases h
      have hblock := (blockLength?_bounds hm).2
      simp only [List.length_cons]
      omega
    · cases h
  · cases h
    exact regexLength_le prior rest

theorem literalLength_le {prior : Option Char} {text : List Char} {n : Nat}
    (h : literalLength prior text = .ok n) : n ≤ text.length := by
  unfold literalLength at h
  split at h
  · cases h
    exact Nat.le_refl 0
  · split at h
    · split at h
      · rename_i m hm
        cases h
        have hstring := (stringLength?_bounds hm).2
        simp only [List.length_cons]
        omega
      · cases h
    · split at h
      · exact slashLength_le h
      · cases h
        exact Nat.zero_le _

/-! ### Literals that need no context -/

theorem stringLength?_append {quote : Char} {s : List Char} {n : Nat}
    (h : stringLength? quote s = some n) (t : List Char) :
    stringLength? quote (s ++ t) = some n := by
  fun_induction stringLength? quote s generalizing n with
  | case1 => simp at h
  | case2 => simp at h
  | case3 c cs ih =>
      obtain ⟨m, hm, rfl⟩ := Option.map_eq_some_iff.mp h
      simp [stringLength?, ih hm]
  | case4 cs hnil hcons =>
      rw [List.cons_append, stringLength?_cons (ne_backslash hnil hcons), if_pos rfl, ← h]
  | case5 c cs hnil hcons hne ih =>
      obtain ⟨m, hm, rfl⟩ := Option.map_eq_some_iff.mp h
      rw [List.cons_append, stringLength?_cons (ne_backslash hnil hcons), if_neg hne, ih hm]
      rfl

theorem stringLength?_of_append {quote : Char} {s t : List Char} {n : Nat}
    (h : stringLength? quote (s ++ t) = some n) (hn : n ≤ s.length) :
    stringLength? quote s = some n := by
  fun_induction stringLength? quote s generalizing n with
  | case1 =>
      have hpos := (stringLength?_bounds h).1
      simp only [List.length_nil] at hn
      omega
  | case2 =>
      cases t with
      | nil => simp [stringLength?] at h
      | cons c cs =>
          obtain ⟨m, hm, rfl⟩ := Option.map_eq_some_iff.mp h
          simp at hn
  | case3 c cs ih =>
      obtain ⟨m, hm, rfl⟩ := Option.map_eq_some_iff.mp h
      simp only [List.length_cons] at hn
      rw [ih hm (by omega)]
      rfl
  | case4 cs hnil hcons =>
      rw [List.cons_append, stringLength?_cons (ne_backslash hnil hcons), if_pos rfl] at h
      exact h
  | case5 c cs hnil hcons hne ih =>
      rw [List.cons_append, stringLength?_cons (ne_backslash hnil hcons), if_neg hne] at h
      obtain ⟨m, hm, rfl⟩ := Option.map_eq_some_iff.mp h
      simp only [List.length_cons] at hn
      rw [ih hm (by omega)]
      rfl

theorem blockLength?_append {s : List Char} {n : Nat} (h : blockLength? s = some n)
    (t : List Char) : blockLength? (s ++ t) = some n := by
  fun_induction blockLength? s generalizing n with
  | case1 => simp at h
  | case2 cs => exact h
  | case3 c cs hmark ih =>
      obtain ⟨m, hm, rfl⟩ := Option.map_eq_some_iff.mp h
      rw [List.cons_append, blockLength?, ih hm]
      · rfl
      · -- the two characters of a closing mark cannot be shared with what follows
        intro r hc hr
        cases cs with
        | nil => simp [blockLength?] at hm
        | cons d ds =>
            rw [List.cons_append, List.cons.injEq] at hr
            exact hmark ds hc (by rw [hr.1])

theorem blockLength?_of_append {s t : List Char} {n : Nat} (h : blockLength? (s ++ t) = some n)
    (hn : n ≤ s.length) : blockLength? s = some n := by
  fun_induction blockLength? s generalizing n with
  | case1 =>
      have hpos := (blockLength?_bounds h).1
      simp only [List.length_nil] at hn
      omega
  | case2 cs => exact h
  | case3 c cs hmark ih =>
      cases cs with
      | nil =>
          have hpos := (blockLength?_bounds h).1
          simp only [List.length_singleton] at hn
          omega
      | cons d ds =>
          rw [List.cons_append, blockLength?] at h
          · obtain ⟨m, hm, rfl⟩ := Option.map_eq_some_iff.mp h
            simp only [List.length_cons] at hn
            rw [ih hm (by simp only [List.length_cons]; omega)]
            rfl
          · intro r hc hr
            rw [List.cons_append, List.cons.injEq] at hr
            exact hmark ds hc (by rw [hr.1])

/-- A literal wherever it stands. -/
def Standing (s : List Char) : Prop :=
  s ≠ [] ∧ ∀ prior t, literalLength prior (s ++ t) = .ok s.length

/-- A comment that ends before a line break or with the text. -/
def LineComment (s : List Char) : Prop :=
  ∃ u, s = '/' :: '/' :: u ∧ '\n' ∉ u

theorem LineComment.ne_nil {s : List Char} (h : LineComment s) : s ≠ [] := by
  obtain ⟨u, rfl, -⟩ := h
  simp

/-- No line goes on at the start of this text. -/
def AtLineEnd (t : List Char) : Prop :=
  t = [] ∨ ∃ t', t = '\n' :: t'

/-- A slash that opens a comment. -/
def CommentFollows (t : List Char) : Prop :=
  ∃ d t', t = d :: t' ∧ (d = '/' ∨ d = '*')

theorem literalLength_quote {c : Char} (hc : isQuote c = true) (prior : Option Char)
    (cs : List Char) :
    literalLength prior (c :: cs) =
      (stringLength? c cs).elim (.error .string) fun n => .ok (n + 1) := by
  rw [literalLength, if_pos hc]
  cases stringLength? c cs with
  | none => rfl
  | some n => exact congrArg Except.ok (Nat.add_comm 1 n)

theorem isQuote_of_literalLength {prior : Option Char} {c : Char} {cs : List Char}
    (h : literalLength prior (c :: cs) = .ok 0) : isQuote c = false := by
  cases hc : isQuote c with
  | false => rfl
  | true =>
      rw [literalLength_quote hc] at h
      cases hstring : stringLength? c cs <;> simp [hstring] at h

theorem literalLength_slash (prior : Option Char) (cs : List Char) :
    literalLength prior ('/' :: cs) = slashLength prior cs := by
  have hquote : isQuote '/' = false := by decide
  simp [literalLength, hquote]

theorem literalLength_other {c : Char} (hquote : isQuote c = false) (hslash : c ≠ '/')
    (prior : Option Char) (cs : List Char) : literalLength prior (c :: cs) = .ok 0 := by
  simp [literalLength, hquote, hslash]

theorem standing_string {c : Char} {s : List Char} (hc : isQuote c = true)
    (hs : stringLength? c s = some s.length) : Standing (c :: s) := by
  refine ⟨by simp, fun prior t => ?_⟩
  rw [List.cons_append, literalLength_quote hc, stringLength?_append hs t, List.length_cons]
  rfl

theorem standing_block {s : List Char} (hs : blockLength? s = some s.length) :
    Standing ('/' :: '*' :: s) := by
  refine ⟨by simp, fun prior t => ?_⟩
  simp only [List.cons_append, literalLength_slash, slashLength, blockLength?_append hs t,
    List.length_cons]
  congr 1
  omega

theorem lineComment_literalLength {s t : List Char} (hs : LineComment s) (ht : AtLineEnd t)
    (prior : Option Char) : literalLength prior (s ++ t) = .ok s.length := by
  obtain ⟨u, rfl, hu⟩ := hs
  have htake : (u ++ t).takeWhile (· ≠ '\n') = u := by
    rw [List.takeWhile_append_of_pos]
    · rcases ht with rfl | ⟨t', rfl⟩ <;> simp
    · intro c hc
      have hne : c ≠ '\n' := fun h => hu (h ▸ hc)
      simpa using hne
  simp only [List.cons_append, literalLength_slash, slashLength, htake, List.length_cons]
  congr 1
  omega

theorem lineComment_of_takeWhile {u t : List Char}
    (h : ((u ++ t).takeWhile (· ≠ '\n')).length = u.length) :
    LineComment ('/' :: '/' :: u) ∧ AtLineEnd t := by
  have hpre : (u ++ t).takeWhile (· ≠ '\n') = u := by
    have hsub := List.takeWhile_prefix (· ≠ '\n') (l := u ++ t)
    exact (List.prefix_of_prefix_length_le hsub (List.prefix_append u t)
      (Nat.le_of_eq h)).eq_of_length h
  have hall : ∀ c ∈ u, decide (c ≠ '\n') = true := by
    intro c hc
    rw [← hpre] at hc
    exact List.all_eq_true.mp List.all_takeWhile c hc
  constructor
  · refine ⟨u, rfl, fun hu => ?_⟩
    simpa using hall '\n' hu
  · cases t with
    | nil => exact .inl rfl
    | cons d t' =>
        by_cases hd : d = '\n'
        · exact .inr ⟨t', by rw [hd]⟩
        · rw [List.takeWhile_append_of_pos hall] at h
          simp [hd] at h

theorem slash_cases {prior : Option Char} {d : Char} {cs t u : List Char}
    (hd : d = '/' ∨ d = '*') (hu : cs ++ t = d :: u)
    (h : slashLength prior (cs ++ t) = .ok (cs.length + 1)) :
    Standing ('/' :: cs) ∨ LineComment ('/' :: cs) ∧ AtLineEnd t := by
  cases cs with
  | nil =>
      -- both kinds of comment have more than one character
      rw [List.nil_append] at hu
      subst hu
      rcases hd with rfl | rfl
      · simp [slashLength] at h
        omega
      · cases hlen : blockLength? u <;> simp [slashLength, hlen] at h
        omega
  | cons e es =>
      obtain ⟨rfl, rfl⟩ := List.cons.inj hu
      rcases hd with rfl | rfl
      · simp only [List.cons_append, slashLength, Except.ok.injEq, List.length_cons] at h
        exact .inr (lineComment_of_takeWhile (by omega))
      · simp only [List.cons_append, slashLength] at h
        cases hlen : blockLength? (es ++ t) with
        | none => simp [hlen] at h
        | some n =>
            simp only [hlen, Except.ok.injEq, List.length_cons] at h
            have hn : n = es.length := by omega
            subst hn
            exact .inl (standing_block (blockLength?_of_append hlen (Nat.le_refl _)))

/-- What a literal is when no slash opens a regular expression. -/
theorem literal_cases {prior : Option Char} {s t : List Char} (hs : s ≠ [])
    (h : literalLength prior (s ++ t) = .ok s.length)
    (hslash : ∀ u, s ++ t = '/' :: u → CommentFollows u) :
    Standing s ∨ LineComment s ∧ AtLineEnd t := by
  cases s with
  | nil => exact absurd rfl hs
  | cons c cs =>
      by_cases hq : isQuote c = true
      · rw [List.cons_append, literalLength_quote hq] at h
        cases hlen : stringLength? c (cs ++ t) with
        | none => simp [hlen] at h
        | some n =>
            simp only [hlen, Option.elim_some, Except.ok.injEq, List.length_cons] at h
            have hn : n = cs.length := by omega
            subst hn
            exact .inl (standing_string hq (stringLength?_of_append hlen (Nat.le_refl _)))
      · by_cases hc : c = '/'
        · subst hc
          obtain ⟨d, u, hd, hkind⟩ := hslash (cs ++ t) rfl
          rw [List.cons_append, literalLength_slash] at h
          exact slash_cases hkind hd h
        · rw [List.cons_append, literalLength_other (by simpa using hq) hc] at h
          simp at h

/-! ### Brackets -/

namespace Bracket

def opener : Bracket → Char
  | brace => '{'
  | square => '['
  | round => '('

def closer : Bracket → Char
  | brace => '}'
  | square => ']'
  | round => ')'

@[simp] theorem opened?_opener (b : Bracket) : opened? b.opener = some b := by cases b <;> rfl

@[simp] theorem opened?_closer (b : Bracket) : opened? b.closer = none := by cases b <;> rfl

@[simp] theorem closed?_closer (b : Bracket) : closed? b.closer = some b := by cases b <;> rfl

theorem eq_opener_of_opened? {c : Char} {b : Bracket} (h : opened? c = some b) : c = b.opener := by
  unfold opened? at h
  split_ifs at h <;> cases h <;> assumption

theorem eq_closer_of_closed? {c : Char} {b : Bracket} (h : closed? c = some b) : c = b.closer := by
  unfold closed? at h
  split_ifs at h <;> cases h <;> assumption

@[simp] theorem lastSignificant_opener (prior : Option Char) (b : Bracket) :
    lastSignificant prior [b.opener] = some b.opener := by
  cases b <;> rfl

@[simp] theorem lastSignificant_closer (prior : Option Char) (b : Bracket) :
    lastSignificant prior [b.closer] = some b.closer := by
  cases b <;> rfl

@[simp] theorem literalLength_opener (prior : Option Char) (b : Bracket) (t : List Char) :
    literalLength prior (b.opener :: t) = .ok 0 := by
  apply literalLength_other <;> cases b <;> decide

@[simp] theorem literalLength_closer (prior : Option Char) (b : Bracket) (t : List Char) :
    literalLength prior (b.closer :: t) = .ok 0 := by
  apply literalLength_other <;> cases b <;> decide

end Bracket

/-- The ways in which a text can begin for a reader that passes over literals. -/
inductive Front (prior : Option Char) : List Char → Prop where
  | stop : Front prior []
  | broken {text : List Char} (what : Unterminated) : text ≠ [] →
      literalLength prior text = .error what → Front prior text
  | literal (s t : List Char) : s ≠ [] →
      literalLength prior (s ++ t) = .ok s.length → Front prior (s ++ t)
  | opener (b : Bracket) (t : List Char) : Front prior (b.opener :: t)
  | closer (b : Bracket) (t : List Char) : Front prior (b.closer :: t)
  | plain (c : Char) (t : List Char) : Bracket.opened? c = none → Bracket.closed? c = none →
      literalLength prior (c :: t) = .ok 0 → Front prior (c :: t)

theorem front (prior : Option Char) (text : List Char) : Front prior text := by
  cases text with
  | nil => exact .stop
  | cons c cs =>
      cases hlen : literalLength prior (c :: cs) with
      | error what => exact .broken what (by simp) hlen
      | ok n =>
          cases n with
          | succ n =>
              have hle := literalLength_le hlen
              have htake : ((c :: cs).take (n + 1)).length = n + 1 := by
                rw [List.length_take]
                omega
              rw [← List.take_append_drop (n + 1) (c :: cs)] at hlen ⊢
              exact .literal _ _ (by simp) (by rw [hlen, htake])
          | zero =>
              cases hopen : Bracket.opened? c with
              | some b => exact Bracket.eq_opener_of_opened? hopen ▸ .opener b cs
              | none =>
                  cases hclose : Bracket.closed? c with
                  | some b => exact Bracket.eq_closer_of_closed? hclose ▸ .closer b cs
                  | none => exact .plain c cs hopen hclose hlen

end Pruner.Scan
