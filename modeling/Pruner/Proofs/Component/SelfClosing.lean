import Pruner.Proofs.Component.Block
import Pruner.Proofs.Component.ObjectLiteral
import Pruner.Proofs.Component.Reader

/-!
# Object literals in front of a self-closing slash

An attribute value without quotes runs up to space or to the end of the tag. Right in front of a
self-closing slash the value is the placeholder with that slash, which no longer stands for the object
literal, so nothing is removed from the literal. With a space in front of the slash it is filtered. Where
the slash makes the literal run out of the tag, the component is refused with the space and without.
-/

namespace Pruner.Component

open Markup Object Scan Text

/-! ### Sections -/

theorem dropWhile_selfClosing (gap : Nat) : (selfClosing gap).dropWhile (· ≠ '>') = ['>'] := by
  induction gap with
  | zero => rfl
  | succ gap ih => rw [selfClosing_succ, List.dropWhile_cons_of_pos (by decide), ih]

namespace Section

/-- An opening tag that ends no sooner than the tag around it has nothing behind it. -/
theorem attributes?_selfClosing {s : List Char} (h : attributes? s = none) (gap : Nat) :
    ∀ found ∈ attributes? (s ++ selfClosing gap), found.2 = [] := by
  cases s with
  | nil =>
      cases gap with
      | zero => simp [selfClosing, attributes?, isBlank]
      | succ gap =>
          rw [List.nil_append, selfClosing_succ, attributes?, if_neg (by decide),
            if_pos (by decide), dropWhile_selfClosing]
          simp
  | cons c cs =>
      rw [attributes?] at h
      rw [List.cons_append, attributes?]
      split_ifs at h ⊢ with hangle hblank
      · have hcs : cs.dropWhile (· ≠ '>') = [] := by
          split at h
          · assumption
          · cases h
        rw [List.dropWhile_append_of_pos (List.dropWhile_eq_nil_iff.mp hcs),
          dropWhile_selfClosing]
        simp
      · simp

section Tags

variable {name : List Char}
  (hname : ∀ letter ∈ name, spells letter ' ' = false ∧ spells letter '/' = false)

include hname

theorem afterWord?_selfClosing (s : List Char) (gap : Nat) :
    afterWord? name (s ++ selfClosing gap) = (afterWord? name s).map (· ++ selfClosing gap) := by
  induction name generalizing s with
  | nil => rfl
  | cons letter word ih =>
      obtain ⟨⟨hspace, hslash⟩, hword⟩ := List.forall_mem_cons.mp hname
      cases s with
      | nil =>
          cases gap with
          | zero => simp [selfClosing, afterWord?, hslash]
          | succ gap => simp [selfClosing_succ, afterWord?, hspace]
      | cons c cs =>
          rw [List.cons_append, afterWord?, afterWord?]
          split_ifs
          · exact ih hword cs
          · rfl

theorem at?_selfClosing {s : List Char} (hs : openTag? name s = none) (gap : Nat) :
    at? name (s ++ selfClosing gap) = none := by
  cases s with
  | nil =>
      apply at?_of_openTag?
      cases gap with
      | zero => exact openTag?_of_ne (by decide) _
      | succ gap =>
          rw [List.nil_append, selfClosing_succ]
          exact openTag?_of_ne (by decide) _
  | cons c cs =>
      by_cases hc : c = '<'
      · subst hc
        rw [openTag?] at hs
        rw [at?, List.cons_append, openTag?, afterWord?_selfClosing hname]
        cases hafter : afterWord? name cs with
        | none => rfl
        | some r =>
            -- the opening tag ends with the tag around it, and no closing tag follows
            rw [hafter, Option.bind_some] at hs
            have hbehind := attributes?_selfClosing hs gap
            rw [Option.map_some, Option.bind_some]
            cases hattributes : attributes? (r ++ selfClosing gap) with
            | none => rfl
            | some found =>
                obtain ⟨attributes, content⟩ := found
                obtain rfl : content = [] := hbehind _ hattributes
                rfl
      · exact at?_of_openTag? (openTag?_of_ne hc _)

theorem extract_selfClosing {s : List Char} (hs : TagFree name s) (gap : Nat) :
    extract name (s ++ selfClosing gap) = ⟨[], s ++ selfClosing gap⟩ := by
  induction s with
  | nil =>
      apply extract_of_not_mem
      simp [selfClosing]
  | cons c cs ih =>
      have hcs : TagFree name cs := fun t ht => hs t (ht.trans (List.suffix_cons c cs))
      have hhere := at?_selfClosing hname (hs (c :: cs) List.suffix_rfl) gap
      rw [List.cons_append] at hhere ⊢
      rw [extract_cons_of_at? hhere, ih hcs]

end Tags

end Section

/-! ### The attribute -/

/-- An attribute of a block whose value is an object literal. -/
structure ObjectAttribute where
  name : List Char
  expression : List Char
  name_ne : name ≠ []
  letters : ∀ c ∈ name, c.isLower = true
  balanced : closing? expression 0 = some (expression.length - 1)
  object : wrapsObject expression = true
  scriptFree : Section.TagFree "script".toList expression
  styleFree : Section.TagFree "style".toList expression

/-- A block that closes itself, with an attribute without quotes. -/
def bareBlock (name value : List Char) (gap : Nat) : List Char :=
  "<div ".toList ++ name ++ "=".toList ++ value ++ selfClosing gap

theorem bareBlock_eq (name value : List Char) (gap : Nat) :
    bareBlock name value gap = plainBlock name (value ++ selfClosing gap) := by
  unfold bareBlock plainBlock
  simp

namespace ObjectAttribute

variable (a : ObjectAttribute)

def source (gap : Nat) : List Char :=
  bareBlock a.name a.expression gap

/-- The attribute as it stands in the tree. -/
def parsed (gap : Nat) : Attribute :=
  ⟨String.ofList a.name, if gap = 0 then "__expr_0__/" else "__expr_0__"⟩

/-- The document that the block makes if its expression closes. -/
def document (gap : Nat) : Document :=
  blockDocument [a.parsed gap] [a.expression] []

/-- Whether the expression closes in front of the slash. -/
def closes : Bool :=
  (closing? (a.expression ++ selfClosing 0) 0).isSome

variable {a}

/-! ### Reading the block -/

theorem written (a : ObjectAttribute) : ∀ c ∈ a.name, isWritten c = true :=
  fun c hc => (isLower_spec (a.letters c hc)).1

theorem extract_source {name : List Char} (hfirst : name.head? = some 's')
    (hname : ∀ letter ∈ name, spells letter ' ' = false ∧ spells letter '/' = false)
    (h : Section.TagFree name a.expression) (gap : Nat) :
    extract name (a.source gap) = ⟨[], a.source gap⟩ := by
  obtain ⟨word, rfl⟩ := List.head?_eq_some_iff.mp hfirst
  have hsplit : a.source gap = '<' :: 'd' :: (("iv ".toList ++ a.name ++ "=".toList) ++
      (a.expression ++ selfClosing gap)) := by
    unfold source bareBlock
    simp
  have hfront : '<' ∉ 'd' :: ("iv ".toList ++ a.name ++ "=".toList) := by
    simp [not_mem_of_written a.written]
  rw [hsplit, extract_angle (by decide), ← List.cons_append, extract_append_of_not_mem _ hfront,
    Section.extract_selfClosing hname h]

theorem lift_source (a : ObjectAttribute) (gap : Nat) :
    liftFrom 0 0 (a.source gap) =
      if a.closes then ⟨.ok (bareBlock a.name (placeholder 0) gap), [a.expression]⟩
      else ⟨.error (a.name.length + 6), []⟩ := by
  obtain ⟨F, hexpression, hF⟩ := exists_fragment_of_balanced a.balanced
  obtain ⟨closes, hlength⟩ := innerLength?_in_tag hF
  have hcloses : a.closes = closes := by
    rw [ObjectAttribute.closes, hexpression, List.cons_append, List.append_assoc, closing?,
      List.drop_zero]
    simp only [if_true, List.singleton_append, hlength 0]
    cases closes <;> rfl
  have hfront : '{' ∉ "<div ".toList ++ a.name ++ "=".toList := by
    simp [not_mem_of_written a.written]
  have hback : '{' ∉ selfClosing gap := by
    simp [selfClosing]
  have hsplit : a.source gap =
      ("<div ".toList ++ a.name ++ "=".toList) ++ '{' :: (F.text ++ '}' :: selfClosing gap) := by
    unfold source bareBlock
    rw [hexpression]
    simp
  have hoffset : 0 + ("<div ".toList ++ a.name ++ "=".toList).length = a.name.length + 6 := by
    simp
  rw [hsplit, liftFrom_append_of_not_mem hfront, hoffset, liftFrom, if_pos rfl, hlength gap, hcloses]
  cases closes with
  | false => rfl
  | true =>
      have hinside : F.text ++ '}' :: selfClosing gap = (F.text ++ ['}']) ++ selfClosing gap := by
        simp
      have hend : F.text.length + 1 = (F.text ++ ['}']).length := by
        simp
      simp only [if_true, hinside, hend, List.take_left, List.drop_left, liftFrom_of_not_mem hback,
        hexpression]
      unfold bareBlock
      rw [List.append_assoc _ (placeholder 0)]
      rfl

theorem placeholder_zero : placeholder 0 = "__expr_0__".toList := by
  decide +kernel

/-- The value takes the slash along unless there is a space in front of it. -/
theorem read_lifted {reader : Reader} (hreader : RunsToSpace reader) (a : ObjectAttribute)
    (gap : Nat) :
    reader (bareBlock a.name (placeholder 0) gap) = .ok (blockElements [a.parsed gap]) := by
  have hletters : ∀ value ∈ ["__expr_0__/", "__expr_0__"], value.toList ≠ [] ∧
      value.toList.all isPlain = true := by
    decide +kernel
  rw [bareBlock_eq, placeholder_zero]
  cases gap with
  | zero =>
      obtain ⟨hne, hplain⟩ := hletters "__expr_0__/" (by simp)
      have hsplit : "__expr_0__".toList ++ selfClosing 0 = "__expr_0__/".toList ++ ['>'] := by
        decide
      rw [hsplit, hreader a.name _ ['>'] a.name_ne a.letters hne (List.all_eq_true.mp hplain) (.inl rfl),
        String.ofList_toList]
      rfl
  | succ gap =>
      obtain ⟨hne, hplain⟩ := hletters "__expr_0__" (by simp)
      rw [hreader a.name _ _ a.name_ne a.letters hne (List.all_eq_true.mp hplain)
        (.inr ⟨gap, rfl⟩), String.ofList_toList]
      rfl

theorem parse_source {reader : Reader} (hreader : RunsToSpace reader) (a : ObjectAttribute)
    (gap : Nat) :
    Document.parse reader (a.source gap) =
      if a.closes then .ok (a.document gap)
      else .error (ParseError.unbalanced (a.name.length + 6)).failure := by
  have hscript := extract_source (by decide) (by simp [spells]) a.scriptFree gap
  have hstyle := extract_source (by decide) (by simp [spells]) a.styleFree gap
  have hlift := a.lift_source gap
  cases hcloses : a.closes with
  | false =>
      rw [hcloses] at hlift
      exact Document.parse_of_lift_error hscript hstyle reader hlift
  | true =>
      rw [hcloses] at hlift
      rw [Document.parse_of_lift hscript hstyle reader hlift, read_lifted hreader]
      rfl

/-! ### Removal -/

theorem index?_singleton (source text : List Char) :
    ExpressionTable.index? [source] text = if placeholder 0 = text then some 0 else none := by
  rw [ExpressionTable.index?, List.length_singleton, List.range_one, List.find?_singleton]
  simp only [beq_iff_eq]

/-- The placeholder with the slash stands for nothing. -/
theorem removeFromValue_tight (a : ObjectAttribute) (names : List String) :
    removeFromValue names "div" [a.expression] "__expr_0__/" = ([a.expression], []) := by
  have hother : placeholder 0 ≠ trim "__expr_0__/".toList := by decide +kernel
  rw [removeFromValue, objectValue?, index?_singleton, if_neg hother]
  rfl

theorem removeFromValue_loose (a : ObjectAttribute) (names : List String) :
    removeFromValue names "div" [a.expression] "__expr_0__" =
      ([(removeEach removeProperty .object "div" names a.expression).1],
        (removeEach removeProperty .object "div" names a.expression).2) := by
  have hsame : placeholder 0 = trim "__expr_0__".toList := by decide +kernel
  have hvalue : objectValue? [a.expression] "__expr_0__" = some 0 := by
    rw [objectValue?, index?_singleton, if_pos hsame]
    exact Option.filter_some_pos a.object
  rw [removeFromValue, hvalue]
  rfl

/-- The document without the attribute. -/
def bare (a : ObjectAttribute) : Document :=
  blockDocument [] [a.expression] [⟨String.ofList a.name, .attr, "div"⟩]

theorem remove_document (a : ObjectAttribute) (names : List String) (gap : Nat) :
    (a.document gap).remove names =
      if Listed names (String.ofList a.name) then a.bare
      else
        let value := removeFromValue names.eraseDups "div" [a.expression] (a.parsed gap).value
        blockDocument [a.parsed gap] value.1 value.2 := by
  have hlisted : isListed names.eraseDups (a.parsed gap).name =
      decide (Listed names (String.ofList a.name)) :=
    isListed_eraseDups names (String.ofList a.name)
  rw [document, remove_blockDocument, removeFromAttributes, hlisted]
  by_cases h : Listed names (String.ofList a.name)
  · rw [decide_eq_true h, if_pos h]
    rfl
  · rw [decide_eq_false h, if_neg h]
    simp [removeFromAttributes]

theorem remove_tight (a : ObjectAttribute) (names : List String) :
    (a.document 0).remove names =
      if Listed names (String.ofList a.name) then a.bare else a.document 0 := by
  rw [remove_document]
  congr 1
  exact congrArg (fun value => blockDocument [a.parsed 0] value.1 value.2)
    (a.removeFromValue_tight names.eraseDups)

/-- What is left of the expression and recorded when the names are removed from it one by one. -/
def filtered (a : ObjectAttribute) (names : List String) : List Char × List Occurrence :=
  removeEach removeProperty .object "div" names.eraseDups a.expression

theorem remove_loose (a : ObjectAttribute) (names : List String) (gap : Nat) :
    (a.document (gap + 1)).remove names =
      if Listed names (String.ofList a.name) then a.bare
      else blockDocument [a.parsed (gap + 1)] [(a.filtered names).1] (a.filtered names).2 := by
  rw [remove_document]
  congr 1
  exact congrArg (fun value => blockDocument [a.parsed (gap + 1)] value.1 value.2)
    (a.removeFromValue_loose names.eraseDups)

end ObjectAttribute

/-! ### Removals that find nothing -/

theorem removeProperty_of_count {name expression : List Char}
    (h : (removeProperty name expression).count = 0) :
    (removeProperty name expression).text = expression := by
  rw [removeProperty, Selection.removeIn] at h ⊢
  cases hclose : closing? expression (contentStart expression) with
  | none => rfl
  | some close =>
      rw [hclose] at h
      cases hparts : segments expression (contentStart expression + 1) close with
      | error fault => simp only [hparts]
      | ok parts =>
          simp only [hparts] at h ⊢
          rw [List.length_eq_zero_iff.mp h, Cut.applyAll_nil]

/-- Names that are removed one after the other leave a text alone if each of them does. -/
theorem removeEach_eq_self_iff (place : Place) (tag : String) (names : List String)
    (expression : List Char) :
    removeEach removeProperty place tag names expression = (expression, []) ↔
      ∀ name ∈ names, (removeProperty name.toList expression).count = 0 := by
  induction names with
  | nil => simp [removeEach]
  | cons name names ih =>
      rw [List.forall_mem_cons, ← ih, removeEach]
      constructor
      · intro h
        obtain ⟨htext, hremoved⟩ := Prod.mk.inj h
        obtain ⟨hcount, hlater⟩ := List.append_eq_nil_iff.mp hremoved
        have hzero : (removeProperty name.toList expression).count = 0 := by
          simpa using hcount
        rw [removeProperty_of_count hzero] at htext hlater
        exact ⟨hzero, Prod.ext htext hlater⟩
      · rintro ⟨hzero, hlater⟩
        simp only [removeProperty_of_count hzero, hzero, hlater, List.replicate_zero, List.append_nil]

theorem selects_singleton_iff {name property : List Char} :
    (⟨[name], true⟩ : Selection).selects property = true ↔ key? true property = some name := by
  rw [Selection.selects]
  cases key? true property with
  | none => simp
  | some key => simp [eq_comm]

/-- The removals of all names find nothing exactly if no property has a listed key. -/
theorem removeEach_eq_self_iff_keys {expression : List Char} {close : Nat}
    (hclose : closing? expression (contentStart expression) = some close) :
    ∃ listed, properties expression (contentStart expression) close = .ok listed ∧
      ∀ place tag names, removeEach removeProperty place tag names expression = (expression, []) ↔
        ∀ name ∈ names, ∀ property ∈ listed, key? true property ≠ some name.toList := by
  obtain ⟨F, tail, hdrop, hF, rfl⟩ := closing?_eq_some_iff.mp hclose
  refine ⟨_, properties_eq hdrop hF, fun place tag names => ?_⟩
  rw [removeEach_eq_self_iff]
  refine forall₂_congr fun name _ => ?_
  rw [removeProperty, (Selection.removeIn_eq _ hdrop hF).2, List.countP_eq_zero]
  exact forall₂_congr fun property _ => not_congr selects_singleton_iff

/-! ### The two spellings -/

/-- For every reader that takes a value without quotes to run up to space or to the end of the tag, a
block that closes itself is read alike with spaces in front of the slash and without: its expression
closes in both or in neither. Without a space the removal leaves the object literal as it is, and with
spaces it filters it. So what is left and recorded is the same exactly if the attribute itself goes or no
property of the literal has a listed key. -/
theorem selfClosing_outcomes_iff {reader : Reader} (hreader : RunsToSpace reader)
    (a : ObjectAttribute) (names : List String) (gap : Nat) :
    Document.parse reader (a.source 0) =
        (if a.closes then .ok (a.document 0)
        else .error (ParseError.unbalanced (a.name.length + 6)).failure) ∧
      Document.parse reader (a.source (gap + 1)) =
        (if a.closes then .ok (a.document (gap + 1))
        else .error (ParseError.unbalanced (a.name.length + 6)).failure) ∧
      (a.document 0).remove names =
        (if Listed names (String.ofList a.name) then a.bare else a.document 0) ∧
      (a.document (gap + 1)).remove names =
        (if Listed names (String.ofList a.name) then a.bare
        else blockDocument [a.parsed (gap + 1)] [(a.filtered names).1] (a.filtered names).2) ∧
      ∃ close listed, closing? a.expression (contentStart a.expression) = some close ∧
        properties a.expression (contentStart a.expression) close = .ok listed ∧
        (((a.document 0).remove names).expressions =
              ((a.document (gap + 1)).remove names).expressions ∧
            ((a.document 0).remove names).removed = ((a.document (gap + 1)).remove names).removed ↔
          Listed names (String.ofList a.name) ∨
            ∀ name ∈ names, ∀ property ∈ listed, key? true property ≠ some name.toList) := by
  obtain ⟨close, hclose⟩ := exists_closing a.object
  obtain ⟨listed, hlisted, hkeys⟩ := removeEach_eq_self_iff_keys hclose
  have htight := a.remove_tight names
  have hloose := a.remove_loose names gap
  refine ⟨a.parse_source hreader 0, a.parse_source hreader (gap + 1), htight, hloose, close, listed,
    hclose, hlisted, ?_⟩
  rw [htight, hloose]
  by_cases h : Listed names (String.ofList a.name)
  · rw [if_pos h, if_pos h]
    exact iff_of_true ⟨rfl, rfl⟩ (.inl h)
  · have hfiltered : a.filtered names = (a.expression, []) ↔
        ∀ name ∈ names, ∀ property ∈ listed, key? true property ≠ some name.toList := by
      rw [ObjectAttribute.filtered, hkeys]
      simp only [List.mem_eraseDups]
    rw [if_neg h, if_neg h, or_iff_right h, ← hfiltered]
    constructor
    · rintro ⟨htable, hremoved⟩
      exact Prod.ext (List.singleton_inj.mp htable).symm hremoved.symm
    · intro hsame
      rw [hsame]
      exact ⟨rfl, rfl⟩

/-- An object literal with one property. -/
def oneProperty : ObjectAttribute where
  name := "a".toList
  expression := "\x7b\x7bb:1\x7d\x7d".toList
  name_ne := by decide
  letters := List.all_eq_true.mp (by decide)
  balanced := by decide +kernel
  object := by decide +kernel
  scriptFree := by decide +kernel
  styleFree := by decide +kernel

theorem oneProperty_filtered_behind_space :
    RunsToSpace Markup.elements ∧
      Document.parse Markup.elements (oneProperty.source 0) = .ok (oneProperty.document 0) ∧
      Document.parse Markup.elements (oneProperty.source 1) = .ok (oneProperty.document 1) ∧
      ((oneProperty.document 0).remove ["b"]).expressions = [oneProperty.expression] ∧
      ((oneProperty.document 1).remove ["b"]).expressions = ["\x7b\x7b\x7d\x7d".toList] := by
  have hcloses : oneProperty.closes = true := by decide +kernel
  have hkept : ¬ Listed ["b"] (String.ofList oneProperty.name) := by decide +kernel
  have hfiltered : (oneProperty.filtered ["b"]).1 = "\x7b\x7b\x7d\x7d".toList := by decide +kernel
  obtain ⟨htight, hloose, hremove_tight, hremove_loose, -⟩ :=
    selfClosing_outcomes_iff runsToSpace_elements oneProperty ["b"] 0
  rw [hcloses, if_pos rfl] at htight hloose
  rw [if_neg hkept] at hremove_tight hremove_loose
  refine ⟨runsToSpace_elements, htight, hloose, ?_, ?_⟩
  · rw [hremove_tight]
    rfl
  · rw [hremove_loose, hfiltered]
    rfl

/-- There is a reader of the kind, and with none is the outcome the same in front of a slash and of a
space. -/
theorem oneProperty_outcomes_differ :
    RunsToSpace Markup.elements ∧
      ¬ ∃ reader : Reader, RunsToSpace reader ∧ ∀ (a : ObjectAttribute) (names : List String),
        ¬ Listed names (String.ofList a.name) → ∀ tight loose,
          Document.parse reader (a.source 0) = .ok tight →
          Document.parse reader (a.source 1) = .ok loose →
            (tight.remove names).expressions = (loose.remove names).expressions ∧
              (tight.remove names).removed = (loose.remove names).removed := by
  refine ⟨runsToSpace_elements, ?_⟩
  rintro ⟨reader, hreader, h⟩
  have hcloses : oneProperty.closes = true := by decide +kernel
  have hkept : ¬ Listed ["b"] (String.ofList oneProperty.name) := by decide +kernel
  have hparse : ∀ gap, Document.parse reader (oneProperty.source gap) = .ok (oneProperty.document gap) := by
    intro gap
    rw [oneProperty.parse_source hreader, hcloses, if_pos rfl]
  obtain ⟨-, hremoved⟩ := h oneProperty ["b"] hkept _ _ (hparse 0) (hparse 1)
  rw [ObjectAttribute.remove_tight, ObjectAttribute.remove_loose, if_neg hkept, if_neg hkept]
    at hremoved
  have hfiltered : (oneProperty.filtered ["b"]).2 = [⟨"b", .object, "div"⟩] := by decide +kernel
  rw [blockDocument, hfiltered] at hremoved
  cases hremoved

end Pruner.Component
