import Pruner.Assignment.Pattern
import Pruner.Proofs.Object.Filter

/-!
# Where assignments stand

The matcher for assignments takes the longest run of blanks that works. Whether it finds anything is
a question about the text alone: some stem of blanks, name and equals sign has to stand right in front
of a value.
-/

namespace Pruner.Assignment

open Text

/-- Blanks, the name and an equals sign, with blanks allowed around the sign. -/
def Stem (name s : List Char) : Prop :=
  ∃ lead gap gap' : List Char, s = lead ++ (name ++ (gap ++ '=' :: gap')) ∧ lead ≠ [] ∧
    (∀ c ∈ lead, isBlank c = true) ∧ (∀ c ∈ gap, isBlank c = true) ∧ ∀ c ∈ gap', isBlank c = true

/-- The name is assigned what stands at index `i`. -/
def AssignedAt (name text : List Char) (i : Nat) : Prop :=
  ∃ front stem, text.take i = front ++ stem ∧ Stem name stem

theorem Stem.not_mem_brace {name s : List Char} (hs : Stem name s) (hname : '{' ∉ name) :
    '{' ∉ s := by
  obtain ⟨lead, gap, gap', rfl, -, hlead, hgap, hgap'⟩ := hs
  have hblank : ∀ {cs : List Char}, (∀ c ∈ cs, isBlank c = true) → '{' ∉ cs := by
    intro cs hcs hmem
    exact absurd (hcs '{' hmem) (by decide)
  simp [hblank hlead, hblank hgap, hblank hgap', hname]

/-- A kind of value that begins with no blank. -/
def Solid (kind : ValueKind) : Prop :=
  ∀ (w : List Char) (n : Nat), kind w = some n → 0 < n ∧ blanks w = 0

theorem solid_quoted : Solid quoted := by
  intro w n h
  cases w with
  | nil => simp [quoted] at h
  | cons c cs =>
      simp only [quoted] at h
      split_ifs at h with hc
      obtain ⟨k, -, rfl⟩ := Option.map_eq_some_iff.mp h
      refine ⟨Nat.succ_pos k, ?_⟩
      have hblank : isBlank c = false := by
        simp only [isValueQuote, Bool.or_eq_true, beq_iff_eq] at hc
        rcases hc with rfl | rfl <;> decide
      rw [blanks_cons, hblank]
      rfl

theorem openBrace_eq_some {w : List Char} {n : Nat} (h : openBrace w = some n) :
    n = 1 ∧ ∃ w', w = '{' :: w' := by
  unfold openBrace at h
  split at h
  · exact ⟨(Option.some.inj h).symm, _, rfl⟩
  · cases h

/-! ### The matcher -/

theorem blanks_append {cs t : List Char} (hcs : ∀ c ∈ cs, isBlank c = true) (ht : blanks t = 0) :
    blanks (cs ++ t) = cs.length := by
  induction cs with
  | nil => exact ht
  | cons c cs ih =>
      rw [List.cons_append, blanks_cons, hcs c (by simp), ih fun d hd => hcs d (by simp [hd])]
      rfl

theorem exists_blanks (text : List Char) :
    ∃ cs, (∀ c ∈ cs, isBlank c = true) ∧ cs.length = blanks text ∧
      text = cs ++ text.drop (blanks text) := by
  refine ⟨text.takeWhile isBlank, fun c hc => List.all_eq_true.mp List.all_takeWhile c hc, rfl, ?_⟩
  rw [Object.drop_blanks, List.takeWhile_append_dropWhile]

section Match

variable {kind : ValueKind} {name : List Char}

theorem bodyLength?_eq_some {rest : List Char} {k : Nat} (h : bodyLength? kind name rest = some k) :
    ∃ gap gap' w n, rest = name ++ (gap ++ '=' :: (gap' ++ w)) ∧ (∀ c ∈ gap, isBlank c = true) ∧
      (∀ c ∈ gap', isBlank c = true) ∧ kind w = some n ∧
        k = name.length + gap.length + 1 + gap'.length + n := by
  unfold bodyLength? at h
  split_ifs at h with hname
  obtain ⟨behind, rfl⟩ := List.isPrefixOf_iff_prefix.mp hname
  simp only [List.drop_left] at h
  obtain ⟨gap, hgap, hgapLength, hbehind⟩ := exists_blanks behind
  split at h
  · rename_i right hright
    obtain ⟨n, hn, rfl⟩ := Option.map_eq_some_iff.mp h
    obtain ⟨gap', hgap', hgapLength', hright'⟩ := exists_blanks right
    refine ⟨gap, gap', _, n, ?_, hgap, hgap', hn, by rw [hgapLength, hgapLength']⟩
    rw [← hright', ← hright, ← hbehind]
  · cases h

theorem bodyLength?_append (name : List Char) {gap gap' w : List Char}
    (hgap : ∀ c ∈ gap, isBlank c = true) (hgap' : ∀ c ∈ gap', isBlank c = true)
    (hw : blanks w = 0) :
    bodyLength? kind name (name ++ (gap ++ '=' :: (gap' ++ w))) =
      (kind w).map (name.length + gap.length + 1 + gap'.length + ·) := by
  have hequals : blanks ('=' :: (gap' ++ w)) = 0 := by
    rw [blanks_cons]
    rfl
  have hprefix : name.isPrefixOf (name ++ (gap ++ '=' :: (gap' ++ w))) = true :=
    List.isPrefixOf_iff_prefix.mpr (List.prefix_append _ _)
  simp [bodyLength?, hprefix, blanks_append hgap hequals, blanks_append hgap' hw]

theorem matchAt?_eq_some {text : List Char} {m : Match} (h : matchAt? kind name text = some m) :
    ∃ lead rest, text = lead ++ rest ∧ (∀ c ∈ lead, isBlank c = true) ∧ lead.length = m.lead ∧
      bodyLength? kind name rest = some m.body := by
  induction text generalizing m with
  | nil => simp [matchAt?] at h
  | cons c cs ih =>
      rw [matchAt?] at h
      split_ifs at h with hc
      cases hnext : matchAt? kind name cs with
      | some next =>
          simp only [hnext, Option.some.injEq] at h
          subst h
          obtain ⟨lead, rest, rfl, hlead, hlength, hbody⟩ := ih hnext
          exact ⟨c :: lead, rest, rfl, List.forall_mem_cons.mpr ⟨hc, hlead⟩, by simp [hlength], hbody⟩
      | none =>
          simp only [hnext] at h
          obtain ⟨n, hn, rfl⟩ := Option.map_eq_some_iff.mp h
          exact ⟨[c], cs, rfl, by simpa using hc, rfl, hn⟩

theorem isSome_matchAt?_append {lead rest : List Char} (hne : lead ≠ [])
    (hlead : ∀ c ∈ lead, isBlank c = true) (h : (bodyLength? kind name rest).isSome) :
    (matchAt? kind name (lead ++ rest)).isSome := by
  induction lead with
  | nil => exact absurd rfl hne
  | cons c cs ih =>
      rw [List.cons_append, matchAt?, if_pos (hlead c (by simp))]
      cases hnext : matchAt? kind name (cs ++ rest) with
      | some next => rfl
      | none =>
          cases cs with
          | nil => simpa using h
          | cons d ds =>
              have hsome := ih (by simp) fun e he => hlead e (by simp [he])
              rw [hnext] at hsome
              cases hsome

/-- No run of blanks in front of a name and its value is longer than the one that is taken. -/
theorem length_lead_le {lead rest : List Char} {m : Match} (hlead : ∀ c ∈ lead, isBlank c = true)
    (hbody : (bodyLength? kind name rest).isSome) (h : matchAt? kind name (lead ++ rest) = some m) :
    lead.length ≤ m.lead := by
  induction lead generalizing m with
  | nil => exact Nat.zero_le _
  | cons c cs ih =>
      have hcs : ∀ d ∈ cs, isBlank d = true := fun d hd => hlead d (by simp [hd])
      rw [List.cons_append, matchAt?, if_pos (hlead c (by simp))] at h
      cases hnext : matchAt? kind name (cs ++ rest) with
      | some next =>
          rw [hnext] at h
          obtain rfl := Option.some.inj h
          exact Nat.succ_le_succ (ih hcs hnext)
      | none =>
          -- with one more blank there would have been a match behind `c`
          cases cs with
          | nil => exact m.lead_pos
          | cons d ds =>
              have hsome := isSome_matchAt?_append (by simp) hcs hbody
              rw [hnext] at hsome
              cases hsome

theorem match_bounds {text : List Char} {m : Match} (h : matchAt? kind name text = some m) :
    0 < m.body ∧ m.lead < text.length ∧ ∀ c ∈ text.take m.lead, isBlank c = true := by
  obtain ⟨lead, rest, rfl, hlead, hlength, hbody⟩ := matchAt?_eq_some h
  obtain ⟨gap, gap', w, n, rfl, -, -, -, hk⟩ := bodyLength?_eq_some hbody
  refine ⟨by omega, ?_, ?_⟩
  · simp only [List.length_append, List.length_cons]
    omega
  · rwa [← hlength, List.take_left]

/-- A match is a stem with a value behind it. -/
theorem exists_stem_of_match {text : List Char} {m : Match} (h : matchAt? kind name text = some m) :
    ∃ stem w n, text = stem ++ w ∧ Stem name stem ∧ kind w = some n ∧
      stem.length + n = m.lead + m.body ∧ m.lead < stem.length := by
  obtain ⟨lead, rest, rfl, hlead, hlength, hbody⟩ := matchAt?_eq_some h
  obtain ⟨gap, gap', w, n, rfl, hgap, hgap', hn, hk⟩ := bodyLength?_eq_some hbody
  have hne : lead ≠ [] := by
    rw [← List.length_pos_iff, hlength]
    exact m.lead_pos
  refine ⟨lead ++ (name ++ (gap ++ '=' :: gap')), w, n, by simp, ⟨lead, gap, gap', rfl, hne, hlead,
    hgap, hgap'⟩, hn, ?_, ?_⟩
  · simp only [List.length_append, List.length_cons]
    omega
  · simp only [List.length_append, List.length_cons]
    omega

theorem isSome_matchAt? (hk : Solid kind) {stem w : List Char} (hs : Stem name stem)
    (hw : (kind w).isSome) : (matchAt? kind name (stem ++ w)).isSome := by
  obtain ⟨lead, gap, gap', rfl, hne, hlead, hgap, hgap'⟩ := hs
  obtain ⟨n, hn⟩ := Option.isSome_iff_exists.mp hw
  have hbody : (bodyLength? kind name (name ++ (gap ++ '=' :: (gap' ++ w)))).isSome := by
    rw [bodyLength?_append name hgap hgap' (hk w n hn).2, Option.isSome_map]
    exact hw
  simpa using isSome_matchAt?_append hne hlead hbody

theorem drop_of_take_eq {text front stem : List Char} {i : Nat} (h : text.take i = front ++ stem) :
    text.drop front.length = stem ++ text.drop i := by
  conv => lhs; rw [← List.take_append_drop i text, h, List.append_assoc]
  rw [List.drop_left]

/-- A text without matches is one in which the name is assigned no value of the kind. -/
theorem forall_matchAt?_iff (hk : Solid kind) (text : List Char) :
    (∀ k, matchAt? kind name (text.drop k) = none) ↔
      ∀ i, AssignedAt name text i → kind (text.drop i) = none := by
  constructor
  · rintro h i ⟨front, stem, htake, hstem⟩
    cases hw : kind (text.drop i) with
    | none => rfl
    | some n =>
        have hsome := isSome_matchAt? hk hstem (Option.isSome_of_eq_some hw)
        rw [← drop_of_take_eq htake, h] at hsome
        cases hsome
  · intro h k
    cases hm : matchAt? kind name (text.drop k) with
    | none => rfl
    | some m =>
        obtain ⟨stem, w, n, hdrop, hstem, hn, -⟩ := exists_stem_of_match hm
        have htake : text.take (k + stem.length) = text.take k ++ stem := by
          rw [List.take_add, hdrop, List.take_left]
        have hnone := h (k + stem.length) ⟨_, stem, htake, hstem⟩
        rw [← List.drop_drop, hdrop, List.drop_left, hn] at hnone
        cases hnone

theorem find?_eq_none_iff (text : List Char) :
    find? kind name text = none ↔ ∀ k, matchAt? kind name (text.drop k) = none := by
  induction text with
  | nil => simp [find?, matchAt?]
  | cons c cs ih =>
      rw [find?]
      constructor
      · intro h k
        cases hm : matchAt? kind name (c :: cs) with
        | some m => simp [hm] at h
        | none =>
            cases k with
            | zero => exact hm
            | succ k => exact ih.mp (by simpa [hm] using h) k
      · intro h
        have hhead : matchAt? kind name (c :: cs) = none := h 0
        have hrest := ih.mpr fun k => h (k + 1)
        simp [hhead, hrest]

theorem find?_eq_some {text : List Char} {ahead : Nat} {m : Match}
    (h : find? kind name text = some (ahead, m)) :
    matchAt? kind name (text.drop ahead) = some m ∧
      ∀ k < ahead, matchAt? kind name (text.drop k) = none := by
  induction text generalizing ahead m with
  | nil => simp [find?] at h
  | cons c cs ih =>
      rw [find?] at h
      cases hm : matchAt? kind name (c :: cs) with
      | some first =>
          obtain ⟨rfl, rfl⟩ : 0 = ahead ∧ first = m := by simpa [hm] using h
          exact ⟨hm, by simp⟩
      | none =>
          have hnext : (find? kind name cs).map (fun x => (x.1 + 1, x.2)) = some (ahead, m) := by
            rw [hm] at h
            exact h
          obtain ⟨⟨n, m'⟩, hn, heq⟩ := Option.map_eq_some_iff.mp hnext
          obtain ⟨rfl, rfl⟩ := Prod.mk.inj heq
          obtain ⟨hfound, hbefore⟩ := ih hn
          refine ⟨hfound, fun k hk => ?_⟩
          cases k with
          | zero => exact hm
          | succ k => exact hbefore k (by omega)

end Match

end Pruner.Assignment
