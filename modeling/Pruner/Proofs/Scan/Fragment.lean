import Pruner.Proofs.Scan.Literal
import Pruner.Scan.Closing
import Pruner.Scan.Span

/-!
# Fragments

A fragment is a stretch of text in which every bracket that opens also closes, whatever the kinds of
the two brackets. It reads as such in front of a tail when every literal in it is found as written.
The closer of a brace is the brace behind the fragment that follows it.
-/

namespace Pruner.Scan

inductive Fragment where
  | nil
  | literal (s : List Char) (rest : Fragment)
  | plain (c : Char) (rest : Fragment)
  | group (opener closer : Bracket) (inner rest : Fragment)
  deriving DecidableEq, Repr

namespace Fragment

def text : Fragment → List Char
  | nil => []
  | literal s rest => s ++ rest.text
  | plain c rest => c :: rest.text
  | group a b inner rest => a.opener :: (inner.text ++ b.closer :: rest.text)

@[simp] theorem text_nil : nil.text = [] := rfl

@[simp] theorem text_literal (s : List Char) (rest : Fragment) :
    (literal s rest).text = s ++ rest.text := rfl

@[simp] theorem text_plain (c : Char) (rest : Fragment) :
    (plain c rest).text = c :: rest.text := rfl

@[simp] theorem text_group (a b : Bracket) (inner rest : Fragment) :
    (group a b inner rest).text = a.opener :: (inner.text ++ b.closer :: rest.text) := rfl

theorem text_group_append (a b : Bracket) (inner rest : Fragment) (tail : List Char) :
    (group a b inner rest).text ++ tail =
      a.opener :: (inner.text ++ b.closer :: (rest.text ++ tail)) := by
  rw [text_group, List.cons_append, List.append_assoc, List.cons_append]

theorem end_group (a b : Bracket) (inner rest : Fragment) (index : Nat) :
    index + 1 + inner.text.length + 1 + rest.text.length =
      index + (group a b inner rest).text.length := by
  rw [text_group, List.length_cons, List.length_append, List.length_cons]
  omega

/-- In front of `tail`, a reader that has just seen `prior` finds the fragment as it is written. -/
def Reads : Fragment → Option Char → List Char → Prop
  | nil, _, _ => True
  | literal s rest, prior, tail =>
      s ≠ [] ∧ literalLength prior (s ++ (rest.text ++ tail)) = .ok s.length ∧
        rest.Reads (lastSignificant prior s) tail
  | plain c rest, prior, tail =>
      Bracket.opened? c = none ∧ Bracket.closed? c = none ∧
        literalLength prior (c :: (rest.text ++ tail)) = .ok 0 ∧
          rest.Reads (lastSignificant prior [c]) tail
  | group a b inner rest, _, tail =>
      inner.Reads (some a.opener) (b.closer :: (rest.text ++ tail)) ∧
        rest.Reads (some b.closer) tail

/-- What stands in front of the text behind a group is its closer. -/
theorem lastSignificant_group (prior : Option Char) (a b : Bracket) (inner rest : Fragment) :
    lastSignificant prior (group a b inner rest).text =
      lastSignificant (some b.closer) rest.text := by
  have hsplit : (group a b inner rest).text =
      (a.opener :: inner.text) ++ ([b.closer] ++ rest.text) := by
    simp
  rw [hsplit, lastSignificant_append, lastSignificant_append, Bracket.lastSignificant_closer]

theorem lastSignificant_plain (prior : Option Char) (c : Char) (rest : Fragment) :
    lastSignificant prior (plain c rest).text =
      lastSignificant (lastSignificant prior [c]) rest.text :=
  lastSignificant_append prior [c] rest.text

/-- All brackets close in kind. -/
def matched : Fragment → Bool
  | nil => true
  | literal _ rest => rest.matched
  | plain _ rest => rest.matched
  | group a b inner rest => a = b && (inner.matched && rest.matched)

end Fragment

/-! ### The closer of a brace -/

section Closing

variable {prior : Option Char} {tail : List Char}

theorem closingFrom?_literal {s t : List Char} (depth : Nat) (hs : s ≠ [])
    (h : literalLength prior (s ++ t) = .ok s.length) :
    closingFrom? depth prior (s ++ t) =
      (closingFrom? depth (lastSignificant prior s) t).map (· + s.length) := by
  cases s with
  | nil => exact absurd rfl hs
  | cons c cs =>
      rw [List.cons_append] at h ⊢
      rw [closingFrom?, h]
      simp

theorem closingFrom?_plain {c : Char} {t : List Char} (depth : Nat)
    (hopen : Bracket.opened? c = none) (hclose : Bracket.closed? c = none)
    (h : literalLength prior (c :: t) = .ok 0) :
    closingFrom? depth prior (c :: t) =
      (closingFrom? depth (lastSignificant prior [c]) t).map (· + 1) := by
  rw [closingFrom?, h]
  simp [hopen, hclose]

theorem closingFrom?_opener (depth : Nat) (prior : Option Char) (b : Bracket) (t : List Char) :
    closingFrom? depth prior (b.opener :: t) =
      (closingFrom? (depth + 1) (some b.opener) t).map (· + 1) := by
  rw [closingFrom?, Bracket.literalLength_opener]
  simp

theorem closingFrom?_closer_succ (depth : Nat) (prior : Option Char) (b : Bracket)
    (t : List Char) :
    closingFrom? (depth + 1) prior (b.closer :: t) =
      (closingFrom? depth (some b.closer) t).map (· + 1) := by
  rw [closingFrom?, Bracket.literalLength_closer]
  simp

theorem closingFrom?_closer_zero (prior : Option Char) (b : Bracket) (t : List Char) :
    closingFrom? 0 prior (b.closer :: t) = if b = .brace then some 0 else none := by
  rw [closingFrom?, Bracket.literalLength_closer]
  simp only [Bracket.opened?_closer, Bracket.closed?_closer, Option.isSome_none, Option.isSome_some]
  cases b <;> rfl

theorem closingFrom?_broken {what : Unterminated} {t : List Char} (depth : Nat)
    (h : literalLength prior t = .error what) : closingFrom? depth prior t = none := by
  cases t with
  | nil => rw [closingFrom?]
  | cons c cs => rw [closingFrom?, h]

/-- A fragment does not change how many brackets are open. -/
theorem closingFrom?_fragment (F : Fragment) (depth : Nat) (h : F.Reads prior tail) :
    closingFrom? depth prior (F.text ++ tail) =
      (closingFrom? depth (lastSignificant prior F.text) tail).map (· + F.text.length) := by
  induction F generalizing depth prior tail with
  | nil => simp
  | literal s rest ih =>
      obtain ⟨hs, hlen, hrest⟩ := h
      rw [Fragment.text_literal, List.append_assoc, closingFrom?_literal depth hs hlen,
        ih depth hrest, lastSignificant_append, Option.map_map]
      congr 1
      funext n
      simp only [Function.comp, List.length_append]
      omega
  | plain c rest ih =>
      obtain ⟨hopen, hclose, hlen, hrest⟩ := h
      rw [Fragment.lastSignificant_plain, Fragment.text_plain, List.cons_append,
        closingFrom?_plain depth hopen hclose hlen, ih depth hrest, Option.map_map]
      congr 1
  | group a b inner rest ihi ihr =>
      obtain ⟨hinner, hrest⟩ := h
      rw [Fragment.lastSignificant_group]
      simp only [Fragment.text_group, List.cons_append, List.append_assoc]
      rw [closingFrom?_opener, ihi (depth + 1) hinner, closingFrom?_closer_succ,
        ihr depth hrest, Option.map_map, Option.map_map, Option.map_map]
      congr 1
      funext n
      simp only [Function.comp, List.length_append, List.length_cons]
      omega

/-- Where some closer is found there is a fragment in front of the first bracket that closes more
than was opened. -/
theorem exists_fragment {depth : Nat} {prior : Option Char} {text : List Char}
    (h : (closingFrom? depth prior text).isSome) :
    ∃ (F : Fragment) (b : Bracket) (tail : List Char),
      text = F.text ++ b.closer :: tail ∧ F.Reads prior (b.closer :: tail) := by
  induction hn : text.length using Nat.strongRecOn generalizing depth prior text with
  | ind n ih =>
      subst hn
      cases front prior text with
      | stop => simp [closingFrom?] at h
      | broken what hne hlen => simp [closingFrom?_broken depth hlen] at h
      | literal s t hs hlen =>
          have hpos := List.length_pos_iff.mpr hs
          rw [closingFrom?_literal depth hs hlen, Option.isSome_map] at h
          obtain ⟨F, b, tail, rfl, hF⟩ := ih _ (by rw [List.length_append]; omega) h rfl
          exact ⟨.literal s F, b, tail, by simp, hs, hlen, hF⟩
      | opener a t =>
          rw [closingFrom?_opener, Option.isSome_map] at h
          obtain ⟨F, b, tail, rfl, hF⟩ := ih _ (by simp) h rfl
          -- the bracket is closed by `b`, and the text behind `b` is read at the old depth
          rw [closingFrom?_fragment F (depth + 1) hF, closingFrom?_closer_succ, Option.isSome_map,
            Option.isSome_map] at h
          obtain ⟨G, d, tail', rfl, hG⟩ := ih _ (by simp; omega) h rfl
          exact ⟨.group a b F G, d, tail', by simp, hF, hG⟩
      | closer b t => exact ⟨.nil, b, t, rfl, trivial⟩
      | plain c t hopen hclose hlen =>
          rw [closingFrom?_plain depth hopen hclose hlen, Option.isSome_map] at h
          obtain ⟨F, b, tail, rfl, hF⟩ := ih _ (by simp) h rfl
          exact ⟨.plain c F, b, tail, rfl, hopen, hclose, hlen, hF⟩

theorem innerLength?_eq_some_iff {rest : List Char} {n : Nat} :
    innerLength? rest = some n ↔
      ∃ (F : Fragment) (tail : List Char), rest = F.text ++ '}' :: tail ∧
        F.Reads (some '{') ('}' :: tail) ∧ n = F.text.length := by
  unfold innerLength?
  constructor
  · intro h
    obtain ⟨F, b, tail, rfl, hF⟩ := exists_fragment (Option.isSome_of_eq_some h)
    rw [closingFrom?_fragment F 0 hF, closingFrom?_closer_zero] at h
    cases b with
    | brace => exact ⟨F, tail, rfl, hF, by simpa using h.symm⟩
    | square => simp at h
    | round => simp at h
  · rintro ⟨F, tail, rfl, hF, rfl⟩
    have hzero := closingFrom?_closer_zero (lastSignificant (some '{') F.text) .brace tail
    rw [closingFrom?_fragment F 0 hF]
    simpa [Bracket.closer] using hzero

theorem closing?_eq_some_iff {text : List Char} {start stop : Nat} :
    closing? text start = some stop ↔
      ∃ (F : Fragment) (tail : List Char), text.drop start = '{' :: (F.text ++ '}' :: tail) ∧
        F.Reads (some '{') ('}' :: tail) ∧ stop = start + 1 + F.text.length := by
  unfold closing?
  constructor
  · intro h
    split at h
    · cases h
    · rename_i c rest heq
      split_ifs at h with hc
      subst hc
      obtain ⟨n, hn, rfl⟩ := Option.map_eq_some_iff.mp h
      obtain ⟨F, tail, rfl, hF, rfl⟩ := innerLength?_eq_some_iff.mp hn
      exact ⟨F, tail, heq, hF, rfl⟩
  · rintro ⟨F, tail, heq, hF, rfl⟩
    have hn : innerLength? (F.text ++ '}' :: tail) = some F.text.length :=
      innerLength?_eq_some_iff.mpr ⟨F, tail, rfl, hF, rfl⟩
    simp [heq, hn]

end Closing

/-! ### Characters and commas -/

namespace Fragment

/-- The characters outside literals, when the fragment begins at `index`. -/
def visits : Fragment → Nat → List Visit
  | nil, _ => []
  | literal s rest, index => rest.visits (index + s.length)
  | plain c rest, index => ⟨index, c⟩ :: rest.visits (index + 1)
  | group a b inner rest, index =>
      ⟨index, a.opener⟩ :: (inner.visits (index + 1) ++
        ⟨index + 1 + inner.text.length, b.closer⟩ ::
          rest.visits (index + 1 + inner.text.length + 1))

/-- The commas outside literals and brackets, when the fragment begins at `index`. -/
def commas : Fragment → Nat → List Nat
  | nil, _ => []
  | literal s rest, index => rest.commas (index + s.length)
  | plain c rest, index =>
      if c = ',' then index :: rest.commas (index + 1) else rest.commas (index + 1)
  | group _ _ inner rest, index => rest.commas (index + 1 + inner.text.length + 1)

theorem commas_plain (c : Char) (rest : Fragment) (index : Nat) :
    (plain c rest).commas index =
      (if c = ',' then [index] else []) ++ rest.commas (index + 1) := by
  simp only [commas]
  split_ifs <;> rfl

end Fragment

section Visits

variable {prior : Option Char} {index stop : Nat} {tail : List Char}

theorem visits_literal {s t : List Char} (hs : s ≠ [])
    (h : literalLength prior (s ++ t) = .ok s.length) (hi : index < stop) :
    visits prior index stop (s ++ t) =
      visits (lastSignificant prior s) (index + s.length) stop t := by
  cases s with
  | nil => exact absurd rfl hs
  | cons c cs =>
      rw [List.cons_append] at h ⊢
      rw [visits, if_neg (Nat.not_le.mpr hi), h]
      simp

theorem visits_char {c : Char} {t : List Char} (h : literalLength prior (c :: t) = .ok 0)
    (hi : index < stop) :
    visits prior index stop (c :: t) =
      (visits (lastSignificant prior [c]) (index + 1) stop t).map (⟨index, c⟩ :: ·) := by
  rw [visits, if_neg (Nat.not_le.mpr hi), h]

theorem visits_self (prior : Option Char) (index : Nat) (rest : List Char) :
    visits prior index index rest = .ok [] := by
  rw [visits.eq_def, if_pos (Nat.le_refl index)]

theorem map_map_append (r : Except Fault (List Visit)) (us vs : List Visit) :
    (r.map (vs ++ ·)).map (us ++ ·) = r.map ((us ++ vs) ++ ·) := by
  cases r with
  | error e => rfl
  | ok ws => simp [Except.map]

theorem visits_fragment (F : Fragment) (h : F.Reads prior tail)
    (hstop : index + F.text.length ≤ stop) :
    visits prior index stop (F.text ++ tail) =
      (visits (lastSignificant prior F.text) (index + F.text.length) stop tail).map
        (F.visits index ++ ·) := by
  induction F generalizing prior index tail with
  | nil =>
      simp only [Fragment.text_nil, Fragment.visits, List.nil_append, List.length_nil,
        Nat.add_zero, lastSignificant_nil]
      cases visits prior index stop tail <;> rfl
  | literal s rest ih =>
      obtain ⟨hs, hlen, hrest⟩ := h
      have hpos := List.length_pos_iff.mpr hs
      simp only [Fragment.text_literal, List.length_append] at hstop
      rw [Fragment.text_literal, List.append_assoc, visits_literal hs hlen (by omega),
        ih hrest (by omega), lastSignificant_append, List.length_append, Nat.add_assoc]
      rfl
  | plain c rest ih =>
      obtain ⟨_, _, hlen, hrest⟩ := h
      simp only [Fragment.text_plain, List.length_cons] at hstop
      rw [Fragment.lastSignificant_plain, Fragment.text_plain, List.cons_append,
        visits_char hlen (by omega), ih hrest (by omega), List.length_cons,
        Nat.add_comm rest.text.length, ← Nat.add_assoc]
      exact map_map_append _ [⟨index, c⟩] _
  | group a b inner rest ihi ihr =>
      obtain ⟨hinner, hrest⟩ := h
      rw [← Fragment.end_group] at hstop
      rw [Fragment.lastSignificant_group, Fragment.text_group_append, ← Fragment.end_group,
        visits_char (Bracket.literalLength_opener prior a _) (by omega),
        Bracket.lastSignificant_opener, ihi hinner (by omega),
        visits_char (Bracket.literalLength_closer _ b _) (by omega),
        Bracket.lastSignificant_closer, ihr hrest (by omega), Fragment.visits]
      cases visits (lastSignificant (some b.closer) rest.text)
        (index + 1 + inner.text.length + 1 + rest.text.length) stop tail <;>
        simp [Except.map]

theorem depthChange_opener (b : Bracket) : depthChange b.opener = 1 := by
  simp [depthChange]

theorem depthChange_closer (b : Bracket) : depthChange b.closer = -1 := by
  simp [depthChange]

theorem Bracket.opener_ne_comma (b : Bracket) : b.opener ≠ ',' := by cases b <;> decide

theorem Bracket.closer_ne_comma (b : Bracket) : b.closer ≠ ',' := by cases b <;> decide

/-- A fragment shows its commas at depth zero and hides them further inside. -/
theorem topCommas_fragment (F : Fragment) (h : F.Reads prior tail) (index depth : Nat)
    (vs : List Visit) :
    topCommas depth (F.visits index ++ vs) =
      (if depth = 0 then F.commas index else []) ++ topCommas depth vs := by
  induction F generalizing prior index tail depth vs with
  | nil => simp [Fragment.visits, Fragment.commas]
  | literal s rest ih =>
      obtain ⟨_, _, hrest⟩ := h
      exact ih hrest _ depth vs
  | plain c rest ih =>
      obtain ⟨hopen, hclose, _, hrest⟩ := h
      have hchange : depthChange c = 0 := by simp [depthChange, hopen, hclose]
      have hnext := ih hrest (index + 1) depth vs
      by_cases hc : c = ',' <;> by_cases hd : depth = 0 <;>
        simp_all [Fragment.visits, Fragment.commas, topCommas]
  | group a b inner rest ihi ihr =>
      obtain ⟨hinner, hrest⟩ := h
      have hi := ihi hinner (index + 1) (depth + 1)
        (⟨index + 1 + inner.text.length, b.closer⟩ ::
          (rest.visits (index + 1 + inner.text.length + 1) ++ vs))
      have hr := ihr hrest (index + 1 + inner.text.length + 1) depth vs
      rw [Fragment.visits, Fragment.commas, List.cons_append, List.append_assoc, List.cons_append,
        topCommas]
      simp only [Bracket.opener_ne_comma, false_and, if_false, depthChange_opener]
      rw [show (depth : Int) + 1 = ((depth + 1 : Nat) : Int) by omega, hi, topCommas]
      simp only [Bracket.closer_ne_comma, false_and, if_false, depthChange_closer]
      rw [show ((depth + 1 : Nat) : Int) + -1 = (depth : Int) by omega, hr]
      simp

end Visits

/-! ### Kinds -/

/-- Whether every bracket among `cs` is closed by one of its kind, when those of the stack are still open. -/
def Bracket.nested : List Bracket → List Char → Bool
  | stack, [] => stack.isEmpty
  | stack, c :: cs =>
    match opened? c, closed? c, stack with
    | some b, _, _ => nested (b :: stack) cs
    | none, some _, [] => false
    | none, some b, top :: outer => top = b && nested outer cs
    | none, none, _ => nested stack cs

theorem nested_fragment (F : Fragment) {prior : Option Char} {tail : List Char}
    (h : F.Reads prior tail) (index : Nat) (stack : List Bracket) (cs : List Char) :
    Bracket.nested stack ((F.visits index).map Visit.char ++ cs) =
      (F.matched && Bracket.nested stack cs) := by
  induction F generalizing prior index tail stack cs with
  | nil => simp [Fragment.visits, Fragment.matched]
  | literal s rest ih =>
      obtain ⟨_, _, hrest⟩ := h
      exact ih hrest _ stack cs
  | plain c rest ih =>
      obtain ⟨hopen, hclose, _, hrest⟩ := h
      simp only [Fragment.visits, List.map_cons, List.cons_append, Bracket.nested, hopen, hclose]
      exact ih hrest _ stack cs
  | group a b inner rest ihi ihr =>
      obtain ⟨hinner, hrest⟩ := h
      simp only [Fragment.visits, List.map_cons, List.map_append, List.cons_append,
        List.append_assoc, Bracket.nested, Bracket.opened?_opener]
      rw [ihi hinner]
      simp only [Bracket.nested, Bracket.opened?_closer, Bracket.closed?_closer]
      rw [ihr hrest, Fragment.matched, ← Bool.and_assoc, ← Bool.and_assoc, ← Bool.and_assoc,
        Bool.and_comm inner.matched]

end Pruner.Scan
