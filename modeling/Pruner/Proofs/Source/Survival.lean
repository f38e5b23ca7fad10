import Pruner.Proofs.Assignment.Expression
import Pruner.Proofs.Object.Composition
import Pruner.Source

/-!
# What survives the source removal

Each name is looked for once, and the text behind a deletion is joined to the text in front of it
without a second look. So occurrences can survive. None does exactly when one more round of removals
finds nothing to remove.
-/

namespace Pruner.Source

open Assignment Object Scan Text

/-- The name is assigned no quoted value and no balanced expression, and is the key of no property. -/
structure Gone (name code : List Char) : Prop where
  quoted : ∀ i, AssignedAt name code i → Assignment.quoted (code.drop i) = none
  expression : ∀ i, AssignedAt name code i → closing? code i = none
  property : ∀ s ∈ spans code, ∀ part ∈ s.segments, key? false (part.slice code) ≠ some name

/-- The removal of all names, before the commas are tidied. -/
def round (names : List (List Char)) (code : List Char) : List Char :=
  names.foldl (fun code name => (removeName code name).text) code

theorem removeNames_eq (names : List (List Char)) (code : List Char) :
    removeNames names code = Comma.tidy (round names code) := rfl

theorem removeName_sublist (code name : List Char) : (removeName code name).text.Sublist code := by
  have hkeys := (selection name).removeAll_sublist (eraseExpressions name (eraseQuoted name code))
  exact (hkeys.trans (eraseExpressions_sublist name _)).trans (eraseQuoted_sublist name code)

theorem round_sublist (names : List (List Char)) (code : List Char) :
    (round names code).Sublist code := by
  induction names generalizing code with
  | nil => exact List.Sublist.refl _
  | cons name names ih => exact (ih _).trans (removeName_sublist code name)

/-- The three removals of a name only delete, so they change nothing only when none of them does. -/
theorem removeName_eq_self_iff (code name : List Char) :
    (removeName code name).text = code ↔
      eraseQuoted name code = code ∧ eraseExpressions name code = code ∧
        ((selection name).removeAll code).text = code := by
  constructor
  · intro h
    have hquoted := eraseQuoted_sublist name code
    have hexpr := eraseExpressions_sublist name (eraseQuoted name code)
    have hkeys := (selection name).removeAll_sublist (eraseExpressions name (eraseQuoted name code))
    rw [removeName] at h
    rw [h] at hkeys
    have hfirst : eraseQuoted name code = code := hquoted.eq_of_length_le (hkeys.trans hexpr).length_le
    rw [hfirst] at h hexpr hkeys
    have hsecond : eraseExpressions name code = code := hexpr.eq_of_length_le hkeys.length_le
    rw [hsecond] at h
    exact ⟨hfirst, hsecond, h⟩
  · rintro ⟨hfirst, hsecond, hthird⟩
    rw [removeName, hfirst, hsecond, hthird]

theorem round_eq_self_iff (names : List (List Char)) (code : List Char) :
    round names code = code ↔ ∀ name ∈ names, (removeName code name).text = code := by
  induction names with
  | nil => simp [round]
  | cons name names ih =>
      have hunfold : round (name :: names) code = round names (removeName code name).text := rfl
      rw [hunfold, List.forall_mem_cons]
      constructor
      · intro h
        have hlater := round_sublist names (removeName code name).text
        rw [h] at hlater
        have hhere := (removeName_sublist code name).eq_of_length_le hlater.length_le
        rw [hhere] at h
        exact ⟨hhere, ih.mp h⟩
      · rintro ⟨hhere, hlater⟩
        rw [hhere]
        exact ih.mpr hlater

theorem selects_selection (name property : List Char) :
    (selection name).selects property = false ↔ key? false property ≠ some name := by
  simp only [selection, Selection.selects]
  cases key? false property with
  | none => simp
  | some key => simp [eq_comm]

theorem removeName_eq_self {name code : List Char} (h : Gone name code) :
    (removeName code name).text = code := by
  refine (removeName_eq_self_iff code name).mpr ⟨(eraseQuoted_eq_self_iff name code).mpr h.quoted,
    eraseExpressionsFrom_eq_self 0 h.expression, ?_⟩
  apply ((selection name).removeAll_eq_self_iff code).mpr
  intro s hs part hpart
  exact (selects_selection name _).mpr (h.property s hs part hpart)

/-- What a name whose removal changes nothing leaves open: only a name with a brace in it can overlap
itself so that balanced braces are passed over. -/
theorem gone_of_removeName_eq_self {name code : List Char} (h : (removeName code name).text = code)
    (hbrace : '{' ∈ name → ∀ i, AssignedAt name code i → closing? code i = none) :
    Gone name code := by
  obtain ⟨hquoted, hexpr, hkeys⟩ := (removeName_eq_self_iff code name).mp h
  refine ⟨(eraseQuoted_eq_self_iff name code).mp hquoted, ?_, fun s hs part hpart => ?_⟩
  · by_cases hname : '{' ∈ name
    · exact hbrace hname
    · exact (eraseExpressions_eq_self_iff hname code).mp hexpr
  · have hall := ((selection name).removeAll_eq_self_iff code).mp hkeys
    exact (selects_selection name _).mp (hall s hs part hpart)

/-! ### The whole removal -/

theorem collapse_sublist {first last image : Char} (himage : image = first ∨ image = last)
    (text : List Char) : (Comma.collapse first last image text).Sublist text := by
  fun_induction Comma.collapse first last image text with
  | case1 => exact .slnil
  | case2 c cs hmatch ih =>
      obtain ⟨rfl, hlast⟩ := hmatch
      rcases himage with rfl | rfl
      · exact (ih.trans (List.drop_sublist _ _)).cons_cons _
      · obtain ⟨hlt, hget⟩ := List.getElem?_eq_some_iff.mp hlast
        have hdrop := List.drop_eq_getElem_cons hlt
        rw [hget] at hdrop
        have hrest := ih.cons_cons image
        rw [← hdrop] at hrest
        exact (hrest.trans (List.drop_sublist _ _)).cons _
  | case3 c cs _ ih => exact ih.cons_cons c

theorem tidy_sublist (code : List Char) : (Comma.tidy code).Sublist code :=
  ((collapse_sublist (.inr rfl) _).trans (collapse_sublist (.inl rfl) _)).trans
    (collapse_sublist (.inl rfl) code)

/-- A stretch in which the name is assigned no quoted value, and in which only braces with a bare
slash between them balance behind an assignment of the name. A name with a brace in it is left out of
the second part. -/
structure Whole (name w : List Char) : Prop where
  quoted : ∀ i, AssignedAt name w i → Assignment.quoted (w.drop i) = none
  expression : '{' ∉ name → ∀ i close, AssignedAt name w i → closing? w i = some close →
    ∃ j, WalkAt w i j ∧ j < close ∧ BareSlash w j

theorem thins_eraseExpressions (name code : List Char) :
    Thins code (eraseExpressions name code) fun w =>
      '{' ∉ name → Unassigned Assignment.expression name w := by
  by_cases hname : '{' ∈ name
  · exact (Thins.of_sublist (eraseExpressions_sublist name code)).mono fun _ _ h => absurd hname h
  · rw [eraseExpressions_eq hname]
    exact (thins_eraseKind solid_expression name code).mono fun _ h _ => h

theorem thins_removeName (code name : List Char) :
    Thins code (removeName code name).text (Whole name) := by
  have hquoted := thins_eraseKind solid_quoted name code
  rw [← eraseQuoted_eq] at hquoted
  have hexpr := thins_eraseExpressions name (eraseQuoted name code)
  have hkeys := Thins.of_sublist
    ((selection name).removeAll_sublist (eraseExpressions name (eraseQuoted name code)))
  refine (hquoted.trans (hexpr.trans hkeys)).mono fun w h => ⟨fun i hi => ?_, ?_⟩
  · exact quoted_of_unassigned h.1 hi
  · intro hname i close hi hclose
    exact bareSlash_of_unassigned (h.2.1 hname) hi hclose

theorem thins_round (names : List (List Char)) (code : List Char) :
    Thins code (round names code) fun w => ∀ name ∈ names, Whole name w := by
  induction names generalizing code with
  | nil => exact (Thins.of_sublist (List.Sublist.refl code)).mono (by simp)
  | cons name names ih =>
      apply ((thins_removeName code name).trans (ih _)).mono
      intro w h
      exact List.forall_mem_cons.mpr h

/-- The removal deletes characters, and no stretch that it leaves whole holds an assignment that it
looks for. So assignments survive only where a deletion has joined two stretches. Nothing at all
survives exactly when one more round of removals changes nothing. For names with a brace in them nothing
is claimed about their expressions: the condition on these names is what is to be shown of them. -/
theorem removeNames_gone_iff (names : List (List Char)) (content : List Char) :
    (Thins content (removeNames names content) fun w => ∀ name ∈ names, Whole name w) ∧
      ((∀ name ∈ names, Gone name (removeNames names content)) ↔
        round names (removeNames names content) = removeNames names content ∧
          ∀ name ∈ names, '{' ∈ name → ∀ i, AssignedAt name (removeNames names content) i →
            closing? (removeNames names content) i = none) := by
  constructor
  · have htidy := Thins.of_sublist (tidy_sublist (round names content))
    rw [removeNames_eq]
    exact ((thins_round names content).trans htidy).mono fun _ h => h.1
  · rw [round_eq_self_iff]
    constructor
    · intro h
      exact ⟨fun name hname => removeName_eq_self (h name hname),
        fun name hname _ => (h name hname).expression⟩
    · rintro ⟨hself, hbrace⟩ name hname
      exact gone_of_removeName_eq_self (hself name hname) (hbrace name hname)

/-- Two assignments without a blank between them: erasing the first puts the second behind the blank
in front of both. -/
theorem removeNames_not_gone :
    ¬ ∀ (names : List (List Char)) (content : List Char), (∀ name ∈ names, name ≠ []) →
      ∀ name ∈ names, Gone name (removeNames names content) := by
  intro h
  have hgone := h ["a".toList] " a=\"x\"a=\"y\"".toList (by simp) "a".toList (by simp)
  have hresult : removeNames ["a".toList] " a=\"x\"a=\"y\"".toList = " a=\"y\"".toList := by
    decide +kernel
  rw [hresult] at hgone
  have hstem : Stem "a".toList " a=".toList :=
    ⟨[' '], [], [], by decide, by decide, List.forall_mem_singleton.mpr rfl, List.forall_mem_nil _,
      List.forall_mem_nil _⟩
  have hnone := hgone.quoted 3 ⟨[], " a=".toList, by decide, hstem⟩
  exact absurd hnone (by decide)

end Pruner.Source
