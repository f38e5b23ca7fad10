import Pruner.Proofs.Scan.Excerpt
import Pruner.Proofs.Scan.Reach

/-!
# Literals read by index

A reader that goes through a text by index asks for one character after the other, and asking for one
outside the text is an error. The measures of literals take their text apart instead and cannot go
wrong that way. Here the literals are read by index, with every error that this can raise, and the two
ways of reading are shown to agree.
-/

namespace Pruner.Scan

/-- What can be missing when something is looked up. -/
inductive Miss where
  /-- The index is outside the sequence. -/
  | index
  /-- A value does not occur where it is looked for. -/
  | value
  /-- A pattern has nothing to match. -/
  | pattern
  deriving DecidableEq, Repr

/-- Takes care of a missing value, and of nothing else. -/
def Miss.rescue {α : Type} (r : Except Miss α) (fallback : α) : Except Miss α :=
  match r with
  | .error .value => .ok fallback
  | r => r

theorem Miss.bind_ok {α β : Type} (a : α) (f : α → Except Miss β) :
    (Except.ok a >>= f) = f a := rfl

theorem Miss.mapM_eq_ok {α β : Type} {f : α → Except Miss β} {g : α → β} {xs : List α}
    (h : ∀ x ∈ xs, f x = .ok (g x)) : xs.mapM f = .ok (xs.map g) := by
  induction xs with
  | nil => rfl
  | cons x xs ih =>
      rw [List.mapM_cons, h x (List.mem_cons_self ..), Miss.bind_ok,
        ih fun y hy => h y (List.mem_cons_of_mem x hy)]
      rfl

def Fault.miss : Fault → Miss
  | outOfRange => .index
  | unterminated _ _ => .value

def charAt (text : List Char) (index : Nat) : Except Miss Char :=
  match text[index]? with
  | some c => .ok c
  | none => .error .index

theorem charAt_eq_ok_iff {text : List Char} {index : Nat} {c : Char} :
    charAt text index = .ok c ↔ text[index]? = some c := by
  rw [charAt]
  cases text[index]? <;> simp

theorem charAt_of_drop {text t : List Char} {index : Nat} {c : Char}
    (h : text.drop index = c :: t) : charAt text index = .ok c := by
  rw [charAt_eq_ok_iff, ← List.head?_drop, h]
  rfl

theorem charAt_of_le {text : List Char} {index : Nat} (h : text.length ≤ index) :
    charAt text index = .error .index := by
  rw [charAt, List.getElem?_eq_none h]

theorem drop_of_charAt {text : List Char} {index : Nat} {c : Char}
    (h : charAt text index = .ok c) : text.drop index = c :: text.drop (index + 1) := by
  obtain ⟨hlt, rfl⟩ := List.getElem?_eq_some_iff.mp (charAt_eq_ok_iff.mp h)
  exact List.drop_eq_getElem_cons hlt

theorem lt_of_drop {text t : List Char} {index : Nat} {c : Char} (h : text.drop index = c :: t) :
    index < text.length := by
  apply Nat.lt_of_not_le
  intro hle
  rw [List.drop_eq_nil_of_le hle] at h
  exact List.cons_ne_nil _ _ h.symm

theorem drop_succ {text t : List Char} {index : Nat} {c : Char} (h : text.drop index = c :: t) :
    text.drop (index + 1) = t := by
  rw [← List.drop_drop, h]
  rfl

theorem not_charAt_error {text : List Char} {index : Nat} (hlt : index < text.length) {miss : Miss} :
    charAt text index ≠ .error miss := by
  rw [charAt_of_drop (List.drop_eq_getElem_cons hlt)]
  exact nofun

theorem map_add_map (index n : Nat) (length : Option Nat) :
    (length.map (· + n)).map (index + ·) = length.map (index + n + ·) := by
  rw [Option.map_map]
  congr 1
  funext k
  simp only [Function.comp_apply]
  omega

/-! ### Strings -/

/-- Index after the closing quote of a string, searched from `index` on. The index may leap over the
end of the text, behind a backslash. -/
def stringEndFrom (text : List Char) (quote : Char) (index : Nat) : Except Miss (Option Nat) :=
  if index < text.length then
    match charAt text index with
    | .error miss => .error miss
    | .ok c =>
      if c = '\\' then stringEndFrom text quote (index + 2)
      else if c = quote then .ok (some (index + 1))
      else stringEndFrom text quote (index + 1)
  else .ok none
termination_by text.length - index

def stringEndAt (text : List Char) (start : Nat) : Except Miss (Option Nat) := do
  let quote ← charAt text start
  stringEndFrom text quote (start + 1)

theorem stringLength?_backslash (quote : Char) (cs : List Char) :
    stringLength? quote ('\\' :: cs) = (stringLength? quote (cs.drop 1)).map (· + 2) := by
  cases cs <;> simp [stringLength?]

theorem stringEndFrom_eq (text : List Char) (quote : Char) (index : Nat) :
    stringEndFrom text quote index =
      .ok ((stringLength? quote (text.drop index)).map (index + ·)) := by
  fun_induction stringEndFrom text quote index with
  | case1 index hlt miss hmiss => exact absurd hmiss (not_charAt_error hlt)
  | case2 index hlt hc ih =>
      -- the leap may end beyond the text, where nothing is left to drop
      rw [ih, drop_of_charAt hc, stringLength?_backslash, List.drop_drop, map_add_map]
  | case3 index hlt hc hback =>
      rw [drop_of_charAt hc, stringLength?_cons hback, if_pos rfl]
      rfl
  | case4 index hlt c hc hback hquote ih =>
      rw [ih, drop_of_charAt hc, stringLength?_cons hback, if_neg hquote, map_add_map]
  | case5 index hge =>
      rw [List.drop_eq_nil_of_le (Nat.le_of_not_lt hge)]
      rfl

theorem stringEndAt_eq (text : List Char) (start : Nat) :
    stringEndAt text start = (stringEnd? text start).mapError Fault.miss := by
  cases hdrop : text.drop start with
  | nil =>
      rw [stringEndAt, charAt_of_le (List.drop_eq_nil_iff.mp hdrop), stringEnd?, hdrop]
      rfl
  | cons quote rest =>
      rw [stringEndAt, charAt_of_drop hdrop, stringEnd?, hdrop]
      apply (stringEndFrom_eq text quote (start + 1)).trans
      rw [drop_succ hdrop]
      rfl

/-! ### Comments and regular expressions -/

/-- Index after the comment at `start`, which is `start` itself when there is none. -/
def commentEnd? (text : List Char) (start : Nat) : Option Nat :=
  match text.drop start with
  | '/' :: '/' :: rest => some (start + (2 + (rest.takeWhile (· ≠ '\n')).length))
  | '/' :: '*' :: rest => (blockLength? rest).map fun n => start + (2 + n)
  | _ => some start

/-- Whether a slash at `index` can open a regular expression: the characters in front of it are
looked at from right to left. -/
def admitsRegexAt (text : List Char) : Nat → Except Miss Bool
  | 0 => .ok true
  | k + 1 => do
    let c ← charAt text k
    if isLayout c then admitsRegexAt text k else .ok (regexOpeners.contains c)

/-- Index after the flags of a regular expression whose body is searched from `index` on. -/
def regexEndFrom (text : List Char) (inClass : Bool) (index : Nat) : Except Miss (Option Nat) :=
  if index < text.length then
    match charAt text index with
    | .error miss => .error miss
    | .ok c =>
      if c = '\\' then regexEndFrom text inClass (index + 2)
      else if c = '\n' then .ok none
      else if c = '[' then regexEndFrom text true (index + 1)
      else if c = ']' then regexEndFrom text false (index + 1)
      else if c = '/' ∧ inClass = false then
        .ok (some (index + 1 + ((text.drop (index + 1)).takeWhile isRegexFlag).length))
      else regexEndFrom text inClass (index + 1)
  else .ok none
termination_by text.length - index

def regexEndAt (text : List Char) (start : Nat) : Except Miss Nat := do
  if ← admitsRegexAt text start then
    return (← regexEndFrom text false (start + 1)).getD start
  else return start

theorem admitsRegexAt_eq {text : List Char} {k : Nat} (hk : k ≤ text.length) :
    admitsRegexAt text k = .ok (admitsRegex (lastSignificant none (text.take k))) := by
  induction k with
  | zero => rfl
  | succ k ih =>
      have hlt : k < text.length := hk
      have hc := charAt_of_drop (List.drop_eq_getElem_cons hlt)
      rw [admitsRegexAt, hc, List.take_succ_eq_append_getElem hlt, lastSignificant_append]
      cases hlayout : isLayout text[k] with
      | true => simpa [bind, Except.bind, lastSignificant, hlayout] using ih (Nat.le_of_lt hlt)
      | false => simp [bind, Except.bind, lastSignificant, hlayout, admitsRegex]

theorem regexBodyLength?_backslash (inClass : Bool) (cs : List Char) :
    regexBodyLength? inClass ('\\' :: cs) =
      (regexBodyLength? inClass (cs.drop 1)).map (· + 2) := by
  cases cs <;> simp [regexBodyLength?]

def flagsEnd (text : List Char) (index n : Nat) : Nat :=
  index + (n + ((text.drop (index + n)).takeWhile isRegexFlag).length)

theorem flagsEnd_add (text : List Char) (index k n : Nat) :
    flagsEnd text (index + k) n = flagsEnd text index (n + k) := by
  rw [flagsEnd, flagsEnd, show index + k + n = index + (n + k) by omega]
  omega

theorem map_flagsEnd_add (text : List Char) (index k : Nat) (body : Option Nat) :
    body.map (flagsEnd text (index + k)) = (body.map (· + k)).map (flagsEnd text index) := by
  rw [Option.map_map]
  congr 1
  funext n
  exact flagsEnd_add text index k n

theorem regexEndFrom_eq (text : List Char) (inClass : Bool) (index : Nat) :
    regexEndFrom text inClass index =
      .ok ((regexBodyLength? inClass (text.drop index)).map (flagsEnd text index)) := by
  fun_induction regexEndFrom text inClass index with
  | case1 inClass index hlt miss hmiss => exact absurd hmiss (not_charAt_error hlt)
  | case2 inClass index hlt hc ih =>
      rw [ih, drop_of_charAt hc, regexBodyLength?_backslash, List.drop_drop, map_flagsEnd_add]
  | case3 inClass index hlt hc hback =>
      rw [drop_of_charAt hc, regexBodyLength?_cons hback, if_pos rfl]
      rfl
  | case4 inClass index hlt hc hback hline ih =>
      rw [ih, drop_of_charAt hc, regexBodyLength?_cons hback, if_neg hline, if_neg (by decide +revert),
        map_flagsEnd_add]
      rfl
  | case5 inClass index hlt hc hback hline hopen ih =>
      rw [ih, drop_of_charAt hc, regexBodyLength?_cons hback, if_neg hline, if_neg (by decide +revert),
        map_flagsEnd_add]
      rfl
  | case6 inClass index hlt c hc hback hline hopen hclose hslash =>
      rw [drop_of_charAt hc, regexBodyLength?_cons hback, if_neg hline, if_pos hslash]
      simp [flagsEnd]
      omega
  | case7 inClass index hlt c hc hback hline hopen hclose hslash ih =>
      rw [ih, drop_of_charAt hc, regexBodyLength?_cons hback, if_neg hline, if_neg hslash,
        map_flagsEnd_add]
      simp [hopen, hclose]
  | case8 inClass index hge =>
      rw [List.drop_eq_nil_of_le (Nat.le_of_not_lt hge)]
      rfl

theorem regexEndAt_eq {text rest : List Char} {start : Nat} (h : text.drop start = '/' :: rest) :
    regexEndAt text start =
      .ok (start + regexLength (lastSignificant none (text.take start)) rest) := by
  have hlt := lt_of_drop h
  have hrest := drop_succ h
  rw [regexEndAt, admitsRegexAt_eq (Nat.le_of_lt hlt), regexLength]
  cases admitsRegex (lastSignificant none (text.take start)) with
  | false => rfl
  | true =>
      simp only [bind, Except.bind, regexEndFrom_eq, hrest, if_true]
      cases hbody : regexBodyLength? false rest with
      | none => rfl
      | some n =>
          have hflags : text.drop (start + 1 + n) = rest.drop n := by
            rw [← List.drop_drop, hrest]
          simp only [Option.map_some, Option.getD_some, flagsEnd, hflags]
          exact congrArg Except.ok (by omega)

/-! ### Any literal -/

/-- Index after the literal at `index`, which is `index` itself when there is none. -/
def literalEndAt (text : List Char) (index : Nat) : Except Miss Nat := do
  let c ← charAt text index
  if isQuote c then
    match ← stringEndAt text index with
    | some stop => return stop
    | none => throw .value
  else if c ≠ '/' then return index
  else
    match commentEnd? text index with
    | none => throw .value
    | some stop => if stop ≠ index then return stop else regexEndAt text index

section Literal

variable {text rest : List Char} {start : Nat} {c : Char}

theorem literalEndAt_quote (h : text.drop start = c :: rest) (hc : isQuote c = true) :
    literalEndAt text start =
      (stringLength? c rest).elim (.error .value) fun n => .ok (start + (n + 1)) := by
  rw [literalEndAt, charAt_of_drop h, stringEndAt_eq, stringEnd?, h]
  simp only [Miss.bind_ok, hc, if_true]
  cases stringLength? c rest with
  | none => rfl
  | some n => exact congrArg Except.ok (show start + 1 + n = start + (n + 1) by omega)

theorem literalEndAt_slash (h : text.drop start = '/' :: rest) :
    literalEndAt text start =
      ((slashLength (lastSignificant none (text.take start)) rest).map (start + ·)).mapError
        fun _ => .value := by
  have hopen : literalEndAt text start =
      match commentEnd? text start with
      | none => .error .value
      | some stop => if stop ≠ start then .ok stop else regexEndAt text start := by
    rw [literalEndAt, charAt_of_drop h]
    rfl
  rw [hopen, regexEndAt_eq h]
  fun_cases slashLength (lastSignificant none (text.take start)) rest with
  | case1 rest =>
      have hline : commentEnd? text start =
          some (start + (2 + (rest.takeWhile (· ≠ '\n')).length)) := by
        rw [commentEnd?, h]
        rfl
      simp only [hline]
      exact if_pos (by omega)
  | case2 rest n hn =>
      have hblock : commentEnd? text start = some (start + (2 + n)) := by
        rw [commentEnd?, h]
        simp only [hn, Option.map_some]
      simp only [hblock]
      exact if_pos (by omega)
  | case3 rest hn =>
      have hmissing : commentEnd? text start = none := by
        rw [commentEnd?, h]
        simp only [hn, Option.map_none]
      simp only [hmissing]
      rfl
  | case4 rest hline hblock =>
      have hnone : commentEnd? text start = some start := by
        rw [commentEnd?, h]
        split
        · rename_i heq
          exact absurd (List.cons.inj heq).2 (hline _)
        · rename_i heq
          exact absurd (List.cons.inj heq).2 (hblock _)
        · rfl
      simp only [hnone]
      exact if_neg (by simp)

theorem literalEndAt_other (h : text.drop start = c :: rest) (hc : isQuote c = false)
    (hslash : c ≠ '/') : literalEndAt text start = .ok start := by
  rw [literalEndAt, charAt_of_drop h]
  simp only [Miss.bind_ok]
  rw [if_neg (by simp [hc]), if_pos hslash]
  rfl

theorem literalEndAt_of_drop (h : text.drop start = c :: rest) :
    literalEndAt text start =
      ((literalLength (lastSignificant none (text.take start)) (c :: rest)).map (start + ·)).mapError
        fun _ => .value := by
  by_cases hquote : isQuote c = true
  · rw [literalEndAt_quote h hquote, literalLength_quote hquote]
    cases stringLength? c rest <;> rfl
  by_cases hslash : c = '/'
  · subst hslash
    rw [literalEndAt_slash h, literalLength_slash]
  · have hother : isQuote c = false := by simpa using hquote
    rw [literalEndAt_other h hother hslash, literalLength_other hother hslash]
    rfl

end Literal

theorem literalEndAt_eq (text : List Char) (start : Nat) :
    literalEndAt text start = (literalEnd text start).mapError Fault.miss := by
  rw [literalEnd]
  cases hdrop : text.drop start with
  | nil =>
      rw [literalEndAt, charAt_of_le (List.drop_eq_nil_iff.mp hdrop)]
      rfl
  | cons c rest =>
      rw [literalEndAt_of_drop hdrop]
      simp only []
      cases literalLength (lastSignificant none (text.take start)) (c :: rest) <;> rfl

end Pruner.Scan
