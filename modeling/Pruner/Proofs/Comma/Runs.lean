import Mathlib.Tactic.SplitIfs
import Pruner.Comma

/-!
# Runs of commas

Blanks aside, the commas of a text come in runs, each between two other characters or at an end of the
text. A pass over stray commas only changes how many commas the runs have: the first pass halves each
run, the second takes a comma off behind an opening brace, the third one off in front of a closing
brace. So tidying is not enough for every text, and the runs tell for which texts it is.
-/

namespace Pruner.Comma

open Text

/-- Somewhere `first` comes right in front of `last`, or with only blanks between the two. -/
def Meets (first last : Char) (text : List Char) : Prop :=
  ∃ front gap behind : List Char, text = front ++ first :: (gap ++ last :: behind) ∧
    ∀ c ∈ gap, isBlank c = true

/-- No comma is doubled, stands behind an opening brace or stands in front of a closing brace. -/
structure Neat (text : List Char) : Prop where
  doubled : ¬ Meets ',' ',' text
  opened : ¬ Meets '{' ',' text
  closed : ¬ Meets ',' '}' text

structure Run where
  before : Option Char
  commas : Nat
  after : Option Char
  deriving DecidableEq, Repr

/-- The runs of a text that follows `before` and `count` commas. A run may have no commas. -/
def runsFrom (before : Option Char) (count : Nat) : List Char → List Run
  | [] => [⟨before, count, none⟩]
  | c :: cs =>
    if isBlank c then runsFrom before count cs
    else if c = ',' then runsFrom before (count + 1) cs
    else ⟨before, count, some c⟩ :: runsFrom (some c) 0 cs

def runs (text : List Char) : List Run :=
  runsFrom none 0 text

/-! ### The next character -/

section Ahead

variable {c d first last : Char} {cs : List Char} {before : Option Char} {count : Nat}

theorem getElem?_blanks_blank (hc : isBlank c = true) (cs : List Char) :
    (c :: cs)[blanks (c :: cs)]? = cs[blanks cs]? := by
  simp [blanks_cons, hc]

theorem getElem?_blanks_solid (hc : isBlank c = false) (cs : List Char) :
    (c :: cs)[blanks (c :: cs)]? = some c := by
  simp [blanks_cons, hc]

theorem getElem?_blanks_eq_some_iff (hd : isBlank d = false) :
    cs[blanks cs]? = some d ↔
      ∃ gap behind, cs = gap ++ d :: behind ∧ ∀ c ∈ gap, isBlank c = true := by
  induction cs with
  | nil => simp
  | cons c cs ih =>
      cases hc : isBlank c with
      | true =>
          rw [getElem?_blanks_blank hc, ih]
          constructor
          · rintro ⟨gap, behind, rfl, hgap⟩
            exact ⟨c :: gap, behind, rfl, List.forall_mem_cons.mpr ⟨hc, hgap⟩⟩
          · rintro ⟨gap, behind, heq, hgap⟩
            cases gap with
            | nil =>
                obtain ⟨rfl, -⟩ := List.cons.inj heq
                rw [hc] at hd
                cases hd
            | cons e gap =>
                obtain ⟨-, rfl⟩ := List.cons.inj heq
                exact ⟨gap, behind, rfl, (List.forall_mem_cons.mp hgap).2⟩
      | false =>
          rw [getElem?_blanks_solid hc, Option.some.injEq]
          constructor
          · rintro rfl
            exact ⟨[], cs, rfl, by simp⟩
          · rintro ⟨gap, behind, heq, hgap⟩
            cases gap with
            | nil => exact (List.cons.inj heq).1
            | cons e gap =>
                obtain ⟨rfl, -⟩ := List.cons.inj heq
                rw [(List.forall_mem_cons.mp hgap).1] at hc
                cases hc

theorem isBlank_of_getElem?_blanks (h : cs[blanks cs]? = some d) : isBlank d = false := by
  induction cs with
  | nil => simp at h
  | cons c cs ih =>
      cases hc : isBlank c with
      | true =>
          rw [getElem?_blanks_blank hc] at h
          exact ih h
      | false =>
          rw [getElem?_blanks_solid hc] at h
          exact Option.some.inj h ▸ hc

theorem not_meets_nil (first last : Char) : ¬ Meets first last [] := by
  rintro ⟨front, gap, behind, heq, -⟩
  simp at heq

theorem meets_cons_iff (hlast : isBlank last = false) :
    Meets first last (c :: cs) ↔ c = first ∧ cs[blanks cs]? = some last ∨ Meets first last cs := by
  rw [getElem?_blanks_eq_some_iff hlast]
  constructor
  · rintro ⟨front, gap, behind, heq, hgap⟩
    cases front with
    | nil =>
        obtain ⟨rfl, rfl⟩ := List.cons.inj heq
        exact .inl ⟨rfl, gap, behind, rfl, hgap⟩
    | cons e front =>
        obtain ⟨-, rfl⟩ := List.cons.inj heq
        exact .inr ⟨front, gap, behind, rfl, hgap⟩
  · rintro (⟨rfl, gap, behind, rfl, hgap⟩ | ⟨front, gap, behind, rfl, hgap⟩)
    · exact ⟨[], gap, behind, rfl, hgap⟩
    · exact ⟨c :: front, gap, behind, rfl, hgap⟩

theorem meets_of_getElem? {i : Nat} (hfirst : cs[i]? = some first)
    (hlast : (cs.drop (i + 1))[blanks (cs.drop (i + 1))]? = some last) : Meets first last cs := by
  obtain ⟨hi, hget⟩ := List.getElem?_eq_some_iff.mp hfirst
  obtain ⟨gap, behind, hdrop, hgap⟩ :=
    (getElem?_blanks_eq_some_iff (isBlank_of_getElem?_blanks hlast)).mp hlast
  refine ⟨cs.take i, gap, behind, ?_, hgap⟩
  rw [← hdrop, ← hget, ← List.drop_eq_getElem_cons hi, List.take_append_drop]

theorem runsFrom_blank (hc : isBlank c = true) :
    runsFrom before count (c :: cs) = runsFrom before count cs := by
  rw [runsFrom, if_pos hc]

theorem runsFrom_comma : runsFrom before count (',' :: cs) = runsFrom before (count + 1) cs := by
  rw [runsFrom, if_neg (by decide), if_pos rfl]

theorem runsFrom_solid (hc : isBlank c = false) (hcomma : c ≠ ',') :
    runsFrom before count (c :: cs) = ⟨before, count, some c⟩ :: runsFrom (some c) 0 cs := by
  rw [runsFrom, if_neg (by simp [hc]), if_neg hcomma]

theorem runsFrom_of_ahead (h : cs[blanks cs]? = some d) :
    runsFrom before count cs = runsFrom before count (d :: cs.drop (blanks cs + 1)) := by
  induction cs with
  | nil => simp at h
  | cons c cs ih =>
      cases hc : isBlank c with
      | true =>
          rw [getElem?_blanks_blank hc] at h
          rw [runsFrom_blank hc, ih h, blanks_cons, if_pos hc, List.drop_succ_cons]
      | false =>
          rw [getElem?_blanks_solid hc] at h
          obtain rfl := Option.some.inj h
          simp [blanks_cons, hc]

/-- Where no comma comes next, the run ends as it is. -/
theorem exists_runsFrom_eq (h : cs[blanks cs]? ≠ some ',') :
    ∃ later, ∀ before count,
      runsFrom before count cs = ⟨before, count, cs[blanks cs]?⟩ :: later := by
  induction cs with
  | nil => exact ⟨[], fun _ _ => rfl⟩
  | cons c cs ih =>
      cases hc : isBlank c with
      | true =>
          rw [getElem?_blanks_blank hc] at h ⊢
          obtain ⟨later, hlater⟩ := ih h
          exact ⟨later, fun before count => (runsFrom_blank hc).trans (hlater before count)⟩
      | false =>
          rw [getElem?_blanks_solid hc] at h ⊢
          refine ⟨runsFrom (some c) 0 cs, fun before count => ?_⟩
          apply runsFrom_solid hc
          rintro rfl
          exact h rfl

end Ahead

/-! ### The three passes -/

namespace Run

def halved (r : Run) : Run :=
  { r with commas := (r.commas + 1) / 2 }

def opened (r : Run) : Run :=
  { r with commas := r.commas - if r.before = some '{' then 1 else 0 }

def closed (r : Run) : Run :=
  { r with commas := r.commas - if r.after = some '}' then 1 else 0 }

end Run

theorem runsFrom_collapse_doubled (before : Option Char) (count : Nat) (text : List Char) :
    runsFrom before count (collapse ',' ',' ',' text) =
      (runsFrom before (2 * count) text).map Run.halved := by
  fun_induction collapse ',' ',' ',' text generalizing before count with
  | case1 =>
      simp only [runsFrom, List.map_cons, List.map_nil, Run.halved]
      congr 2
      omega
  | case2 c cs hmatch ih =>
      obtain ⟨rfl, hnext⟩ := hmatch
      rw [runsFrom_comma, ih, runsFrom_comma, runsFrom_of_ahead hnext, runsFrom_comma]
      rfl
  | case3 c cs hmatch ih =>
      cases hc : isBlank c with
      | true => rw [runsFrom_blank hc, runsFrom_blank hc, ih]
      | false =>
          by_cases hcomma : c = ','
          · -- a comma without a partner: an odd run and the next even one have the same half
            subst hcomma
            obtain ⟨later, hlater⟩ := exists_runsFrom_eq fun h => hmatch ⟨rfl, h⟩
            rw [runsFrom_comma, ih, runsFrom_comma, hlater, hlater]
            simp only [List.map_cons, Run.halved]
            congr 2
            omega
          · rw [runsFrom_solid hc hcomma, runsFrom_solid hc hcomma, ih, List.map_cons, Run.halved]
            congr 2
            simp only
            omega

theorem runsFrom_collapse_opened (before : Option Char) (count : Nat) (text : List Char) :
    runsFrom before count (collapse '{' ',' '{' text) =
      (runsFrom before (count + if before = some '{' then 1 else 0) text).map Run.opened := by
  have hbrace : isBlank '{' = false := by decide
  have hhead : ∀ (after : Option Char), Run.opened
      ⟨before, count + if before = some '{' then 1 else 0, after⟩ = ⟨before, count, after⟩ := by
    intro after
    simp [Run.opened]
  fun_induction collapse '{' ',' '{' text generalizing before count with
  | case1 => simp only [runsFrom, List.map_cons, List.map_nil, hhead]
  | case2 c cs hmatch ih =>
      obtain ⟨rfl, hnext⟩ := hmatch
      rw [runsFrom_solid hbrace (by decide), ih _ _ (by simp [Run.opened]),
        runsFrom_solid hbrace (by decide), List.map_cons, hhead, runsFrom_of_ahead hnext,
        runsFrom_comma]
      rfl
  | case3 c cs hmatch ih =>
      cases hc : isBlank c with
      | true => rw [runsFrom_blank hc, runsFrom_blank hc, ih _ _ hhead]
      | false =>
          by_cases hcomma : c = ','
          · subst hcomma
            rw [runsFrom_comma, ih _ _ (by simp [Run.opened]), runsFrom_comma, Nat.add_right_comm]
          · rw [runsFrom_solid hc hcomma, runsFrom_solid hc hcomma, List.map_cons, hhead,
              ih _ _ (by simp [Run.opened])]
            by_cases hopen : c = '{'
            · -- no comma behind this brace
              subst hopen
              obtain ⟨later, hlater⟩ := exists_runsFrom_eq fun h => hmatch ⟨rfl, h⟩
              simp [hlater, Run.opened]
            · simp [hopen]

theorem runsFrom_collapse_closed (before : Option Char) (count : Nat) (text : List Char)
    (h : count = 0 ∨ text[blanks text]? ≠ some '}') :
    runsFrom before count (collapse ',' '}' '}' text) =
      (runsFrom before count text).map Run.closed := by
  have hbrace : isBlank '}' = false := by decide
  fun_induction collapse ',' '}' '}' text generalizing before count with
  | case1 => simp [runsFrom, Run.closed]
  | case2 c cs hmatch ih =>
      obtain ⟨rfl, hnext⟩ := hmatch
      rw [runsFrom_solid hbrace (by decide), ih _ _ (.inl rfl), runsFrom_comma,
        runsFrom_of_ahead hnext, runsFrom_solid hbrace (by decide)]
      rfl
  | case3 c cs hmatch ih =>
      cases hc : isBlank c with
      | true =>
          rw [getElem?_blanks_blank hc] at h
          rw [runsFrom_blank hc, runsFrom_blank hc, ih _ _ h]
      | false =>
          rw [getElem?_blanks_solid hc] at h
          by_cases hcomma : c = ','
          · subst hcomma
            rw [runsFrom_comma, runsFrom_comma]
            exact ih _ _ (.inr fun hnext => hmatch ⟨rfl, hnext⟩)
          · rw [runsFrom_solid hc hcomma, runsFrom_solid hc hcomma, ih _ _ (.inl rfl), List.map_cons]
            congr 1
            -- a brace here has no commas in front of it
            by_cases hclose : c = '}'
            · obtain rfl : count = 0 := by simpa [hclose] using h
              simp [Run.closed]
            · simp [Run.closed, hclose]

theorem runs_tidy (text : List Char) :
    runs (tidy text) = (runs text).map fun r => r.halved.opened.closed := by
  have hclosed := runsFrom_collapse_closed none 0 (collapse '{' ',' '{' (collapse ',' ',' ',' text))
    (.inl rfl)
  rw [runsFrom_collapse_opened, runsFrom_collapse_doubled] at hclosed
  rw [runs, tidy, hclosed, List.map_map, List.map_map]
  rfl

/-! ### Neat texts -/

theorem exists_doubled_iff (before : Option Char) (count : Nat) (text : List Char) :
    (∃ r ∈ runsFrom before count text, 1 < r.commas) ↔
      Meets ',' ',' text ∨ 1 < count ∨ 0 < count ∧ text[blanks text]? = some ',' := by
  induction text generalizing before count with
  | nil => simp [runsFrom, not_meets_nil]
  | cons c cs ih =>
      rw [meets_cons_iff (by decide)]
      cases hc : isBlank c with
      | true =>
          have hcomma : c ≠ ',' := by
            rintro rfl
            exact absurd hc (by decide)
          rw [runsFrom_blank hc, getElem?_blanks_blank hc, ih]
          simp [hcomma]
      | false =>
          rw [getElem?_blanks_solid hc]
          by_cases hcomma : c = ','
          · subst hcomma
            rw [runsFrom_comma, ih]
            simp only [true_and, and_true]
            constructor
            · rintro (h | h | ⟨-, h⟩)
              · exact .inl (.inr h)
              · exact .inr (.inr (by omega))
              · exact .inl (.inl h)
            · rintro ((h | h) | h)
              · exact .inr (.inr ⟨by omega, h⟩)
              · exact .inl h
              · exact .inr (.inl (by omega))
          · rw [runsFrom_solid hc hcomma]
            simp [hcomma, ih, or_comm]

theorem exists_opened_iff (before : Option Char) (count : Nat) (text : List Char) :
    (∃ r ∈ runsFrom before count text, r.before = some '{' ∧ 0 < r.commas) ↔
      Meets '{' ',' text ∨ before = some '{' ∧ (0 < count ∨ text[blanks text]? = some ',') := by
  induction text generalizing before count with
  | nil => simp [runsFrom, not_meets_nil]
  | cons c cs ih =>
      rw [meets_cons_iff (by decide)]
      cases hc : isBlank c with
      | true =>
          have hopen : c ≠ '{' := by
            rintro rfl
            exact absurd hc (by decide)
          rw [runsFrom_blank hc, getElem?_blanks_blank hc, ih]
          simp [hopen]
      | false =>
          rw [getElem?_blanks_solid hc]
          by_cases hcomma : c = ','
          · subst hcomma
            rw [runsFrom_comma, ih]
            simp
          · rw [runsFrom_solid hc hcomma]
            simp only [List.mem_cons, or_and_right, exists_or, exists_eq_left, ih, Option.some.injEq,
              hcomma, or_false, Nat.lt_irrefl, false_or]
            constructor
            · rintro (h | h | h)
              · exact .inr h
              · exact .inl (.inr h)
              · exact .inl (.inl h)
            · rintro ((h | h) | h)
              · exact .inr (.inr h)
              · exact .inr (.inl h)
              · exact .inl h

theorem exists_closed_iff (before : Option Char) (count : Nat) (text : List Char) :
    (∃ r ∈ runsFrom before count text, r.after = some '}' ∧ 0 < r.commas) ↔
      Meets ',' '}' text ∨ 0 < count ∧ text[blanks text]? = some '}' := by
  induction text generalizing before count with
  | nil => simp [runsFrom, not_meets_nil]
  | cons c cs ih =>
      rw [meets_cons_iff (by decide)]
      cases hc : isBlank c with
      | true =>
          have hcomma : c ≠ ',' := by
            rintro rfl
            exact absurd hc (by decide)
          rw [runsFrom_blank hc, getElem?_blanks_blank hc, ih]
          simp [hcomma]
      | false =>
          rw [getElem?_blanks_solid hc]
          by_cases hcomma : c = ','
          · subst hcomma
            rw [runsFrom_comma, ih]
            simp [or_comm]
          · rw [runsFrom_solid hc hcomma]
            simp only [List.mem_cons, or_and_right, exists_or, exists_eq_left, ih, Option.some.injEq,
              hcomma, false_and, Nat.lt_irrefl, or_false, false_or]
            rw [or_comm, and_comm]

theorem meets_doubled_iff (text : List Char) :
    Meets ',' ',' text ↔ ∃ r ∈ runs text, 1 < r.commas := by
  simp [runs, exists_doubled_iff]

theorem neat_iff_runs (text : List Char) :
    Neat text ↔ ∀ r ∈ runs text, r.commas ≤ 1 ∧ (r.before = some '{' → r.commas = 0) ∧
      (r.after = some '}' → r.commas = 0) := by
  have hopened : Meets '{' ',' text ↔ ∃ r ∈ runs text, r.before = some '{' ∧ 0 < r.commas := by
    simp [runs, exists_opened_iff]
  have hclosed : Meets ',' '}' text ↔ ∃ r ∈ runs text, r.after = some '}' ∧ 0 < r.commas := by
    simp [runs, exists_closed_iff]
  constructor
  · intro h r hr
    refine ⟨?_, fun hbefore => ?_, fun hafter => ?_⟩
    · apply Nat.le_of_not_lt
      intro hlt
      exact h.doubled ((meets_doubled_iff text).mpr ⟨r, hr, hlt⟩)
    · apply Nat.eq_zero_of_not_pos
      intro hpos
      exact h.opened (hopened.mpr ⟨r, hr, hbefore, hpos⟩)
    · apply Nat.eq_zero_of_not_pos
      intro hpos
      exact h.closed (hclosed.mpr ⟨r, hr, hafter, hpos⟩)
  · intro h
    constructor
    · intro hmeets
      obtain ⟨r, hr, hlt⟩ := (meets_doubled_iff text).mp hmeets
      have hle := (h r hr).1
      omega
    · intro hmeets
      obtain ⟨r, hr, hbefore, hpos⟩ := hopened.mp hmeets
      have hzero := (h r hr).2.1 hbefore
      omega
    · intro hmeets
      obtain ⟨r, hr, hafter, hpos⟩ := hclosed.mp hmeets
      have hzero := (h r hr).2.2 hafter
      omega

/-- A run that tidying brings down to what a neat text may have: two commas, and up to four between
an opening brace and a closing one. -/
def Run.Short (r : Run) : Prop :=
  r.commas ≤ 2 ∨ r.commas ≤ 4 ∧ r.before = some '{' ∧ r.after = some '}'

theorem neat_tidy_iff (text : List Char) : Neat (tidy text) ↔ ∀ r ∈ runs text, r.Short := by
  rw [neat_iff_runs, runs_tidy, List.forall_mem_map]
  apply forall₂_congr
  intro r _
  simp only [Run.Short, Run.closed, Run.opened, Run.halved]
  by_cases hbefore : r.before = some '{' <;> by_cases hafter : r.after = some '}' <;>
    simp only [hbefore, hafter, if_true, if_false, true_implies, false_implies, and_true,
      true_and, and_false, or_false] <;> omega

/-- Where no comma is doubled, one pass for each brace is enough. -/
theorem neat_tidy {text : List Char} (h : ¬ Meets ',' ',' text) : Neat (tidy text) := by
  rw [neat_tidy_iff]
  intro r hr
  apply Or.inl
  apply Nat.le_of_not_lt
  intro hlong
  exact h ((meets_doubled_iff text).mpr ⟨r, hr, by omega⟩)

end Pruner.Comma
