import Pruner.Proofs.Object.Joints
import Pruner.Proofs.Source.Survival

/-!
# What the source removal leaves

The removal only deletes, and it leaves a content alone exactly when it has nothing to remove and no
comma to tidy. Tidying takes one pass for each kind of stray comma. That is enough when only properties
go, but erased assignments can leave more commas in a row than one pass takes away.
-/

namespace Pruner.Source

open Assignment Comma Object Text

theorem collapse_eq_self_iff {first last image : Char} (himage : image = first ∨ image = last)
    (hlast : isBlank last = false) (text : List Char) :
    collapse first last image text = text ↔ ¬ Meets first last text := by
  fun_induction collapse first last image text with
  | case1 => simp [not_meets_nil]
  | case2 c cs hmatch _ =>
      rw [meets_cons_iff hlast]
      constructor
      · intro h
        obtain ⟨hlt, -⟩ := List.getElem?_eq_some_iff.mp hmatch.2
        have hle := (collapse_sublist himage (cs.drop (blanks cs + 1))).length_le
        have hlength := congrArg List.length h
        rw [List.length_drop] at hle
        simp only [List.length_cons] at hlength
        omega
      · intro h
        exact absurd (.inl hmatch) h
  | case3 c cs hmatch ih =>
      rw [List.cons.injEq, ih, meets_cons_iff hlast]
      simp [hmatch]

theorem tidy_eq_self_iff (code : List Char) : tidy code = code ↔ Neat code := by
  have hdoubled : collapse ',' ',' ',' code = code ↔ ¬ Meets ',' ',' code :=
    collapse_eq_self_iff (.inl rfl) (by decide) code
  have hopened : collapse '{' ',' '{' code = code ↔ ¬ Meets '{' ',' code :=
    collapse_eq_self_iff (.inl rfl) (by decide) code
  have hclosed : collapse ',' '}' '}' code = code ↔ ¬ Meets ',' '}' code :=
    collapse_eq_self_iff (.inr rfl) (by decide) code
  constructor
  · intro h
    have hfirst : (collapse ',' ',' ',' code).Sublist code := collapse_sublist (.inl rfl) code
    have hsecond : (collapse '{' ',' '{' (collapse ',' ',' ',' code)).Sublist
        (collapse ',' ',' ',' code) := collapse_sublist (.inl rfl) _
    have hthird : (tidy code).Sublist (collapse '{' ',' '{' (collapse ',' ',' ',' code)) :=
      collapse_sublist (.inr rfl) _
    rw [h] at hthird
    have hself := hfirst.eq_of_length_le (hthird.trans hsecond).length_le
    rw [hself] at hsecond hthird
    have hself' := hsecond.eq_of_length_le hthird.length_le
    rw [tidy, hself, hself'] at h
    exact ⟨hdoubled.mp hself, hopened.mp hself', hclosed.mp h⟩
  · intro h
    rw [tidy, hdoubled.mpr h.doubled, hopened.mpr h.opened, hclosed.mpr h.closed]

/-- The removal only deletes characters. It deletes none exactly when the content is neat and each
name, taken alone, leaves it as it is. -/
theorem removeNames_sublist (names : List (List Char)) (content : List Char) :
    (removeNames names content).Sublist content ∧
      (removeNames names content = content ↔
        Neat content ∧ ∀ name ∈ names, (removeName content name).text = content) := by
  have hround := round_sublist names content
  have htidy := tidy_sublist (round names content)
  rw [removeNames_eq]
  refine ⟨htidy.trans hround, ?_⟩
  rw [← round_eq_self_iff, ← tidy_eq_self_iff]
  constructor
  · intro h
    rw [h] at htidy
    have hself := hround.eq_of_length_le htidy.length_le
    rw [hself] at h
    exact ⟨h, hself⟩
  · rintro ⟨hneat, hself⟩
    rw [hself, hneat]

/-! ### Stray commas -/

/-- Taking the names one after the other erases no assignment. -/
def OnlyProperties : List (List Char) → List Char → Prop
  | [], _ => True
  | name :: names, code =>
      eraseExpressions name (eraseQuoted name code) = code ∧
        OnlyProperties names (removeName code name).text

theorem doubled_of_round {names : List (List Char)} {code : List Char}
    (hprop : OnlyProperties names code) (h : Meets ',' ',' (round names code)) :
    Meets ',' ',' code := by
  induction names generalizing code with
  | nil => exact h
  | cons name names ih =>
      obtain ⟨herase, hlater⟩ := hprop
      have hname := ih hlater h
      rw [removeName, herase] at hname
      exact (selection name).doubled_of_removeAll hname

/-- The code is neat exactly when the removal has left no more than two commas in a row, or four
between an opening brace and a closing one. A content without doubled commas always comes out neat
when only properties go. -/
theorem neat_removeNames_iff (names : List (List Char)) (content : List Char) :
    (Neat (removeNames names content) ↔ ∀ r ∈ runs (round names content), r.Short) ∧
      (OnlyProperties names content → ¬ Meets ',' ',' content →
        Neat (removeNames names content)) := by
  rw [removeNames_eq, neat_tidy_iff]
  refine ⟨Iff.rfl, fun hprop hdoubled r hr => .inl ?_⟩
  apply Nat.le_of_not_lt
  intro hlong
  apply hdoubled
  apply doubled_of_round hprop
  exact (meets_doubled_iff _).mpr ⟨r, hr, by omega⟩

/-- The removal of properties doubles no comma, wherever they stand in their spans, so one round of
tidying makes the text neat and a second one finds nothing to do. -/
theorem tidy_removeAll_settles (sel : Selection) (text : List Char) (hdoubled : ¬ Meets ',' ',' text) :
    ¬ Meets ',' ',' (sel.removeAll text).text ∧
      Neat (tidy (sel.removeAll text).text) ∧
      tidy (tidy (sel.removeAll text).text) = tidy (sel.removeAll text).text := by
  have hleft : ¬ Meets ',' ',' (sel.removeAll text).text :=
    fun h => hdoubled (sel.doubled_of_removeAll h)
  have hneat := neat_tidy hleft
  exact ⟨hleft, hneat, (tidy_eq_self_iff _).mpr hneat⟩

/-- Properties that go at the start, in the middle, next to each other, at the end and inside another
one that stays. -/
theorem tidy_removeAll_settles_nested :
    ¬ Meets ',' ',' "\x7b a, b: \x7b a: [1, 2], c, a \x7d, a: 3, 'a': \x7b b \x7d, d, a \x7d".toList ∧
      tidy "\x7b b: \x7b c, \x7d, d, \x7d".toList = "\x7b b: \x7b c\x7d, d\x7d".toList ∧
      Neat "\x7b b: \x7b c\x7d, d\x7d".toList := by
  have hdoubled : ¬ Meets ',' ','
      "\x7b a, b: \x7b a: [1, 2], c, a \x7d, a: 3, 'a': \x7b b \x7d, d, a \x7d".toList := by
    rw [meets_doubled_iff]
    decide +kernel
  have hremoved : ((⟨["a".toList], true⟩ : Selection).removeAll
      "\x7b a, b: \x7b a: [1, 2], c, a \x7d, a: 3, 'a': \x7b b \x7d, d, a \x7d".toList).text =
        "\x7b b: \x7b c, \x7d, d, \x7d".toList := by
    rw [Selection.removeAll_eq_keep]
    decide +kernel
  have htidy : tidy "\x7b b: \x7b c, \x7d, d, \x7d".toList = "\x7b b: \x7b c\x7d, d\x7d".toList := by
    decide +kernel
  obtain ⟨-, hneat, -⟩ := tidy_removeAll_settles ⟨["a".toList], true⟩ _ hdoubled
  rw [hremoved, htidy] at hneat
  exact ⟨hdoubled, htidy, hneat⟩

/-- Two variables with default values, next to each other in a pattern: their commas and the one in
front of them are three in a row, of which one pass leaves two. -/
theorem removeNames_not_neat :
    ¬ ∀ (names : List (List Char)) (content : List Char), Neat content →
      Neat (removeNames names content) := by
  intro h
  have hneat : Neat "const \x7b x, a = \x7b\x7d, b = \x7b\x7d, y \x7d = props;".toList :=
    (neat_iff_runs _).mpr (by decide +kernel)
  have hresult : removeNames ["a".toList, "b".toList]
      "const \x7b x, a = \x7b\x7d, b = \x7b\x7d, y \x7d = props;".toList =
        "const \x7b x, , y \x7d = props;".toList := by
    decide +kernel
  have hafter := h ["a".toList, "b".toList] _ hneat
  rw [hresult, neat_iff_runs] at hafter
  exact absurd hafter (by decide +kernel)

end Pruner.Source
