import Mathlib.Data.List.TakeWhile
import Pruner.Proofs.Assignment.Pattern
import Pruner.Proofs.Component.Frame
import Pruner.Proofs.Object.Lookup

/-!
# Structural removal by look-ups

The structural removal again, with every look-up that can miss. It looks for the brace of an object
literal behind the first character of its expression, before every name anew, and in between the
expression has lost a property. Blanks are all that stands between the two braces, and no removal
touches them, so the brace is found where it has been from the start.
-/

namespace Pruner.Component

open Assignment Markup Object Scan Text

/-! ### The brace of an object literal -/

/-- The index of the first `c` from `start` on. -/
def indexFrom (text : List Char) (c : Char) (start : Nat) : Except Miss Nat :=
  match (text.drop start).idxOf? c with
  | some i => .ok (start + i)
  | none => .error .value

theorem head?_trim (text : List Char) : (trim text).head? = (text.dropWhile isBlank).head? := by
  rw [trim]
  cases h : text.dropWhile isBlank with
  | nil => rfl
  | cons c rest =>
      have hc : isBlank c = false := by
        have := List.head?_dropWhile_not isBlank text
        simpa [h] using this
      rw [List.reverse_cons, List.dropWhile_append]
      split_ifs <;> simp [hc]

theorem not_mem_of_blanks {cs : List Char} (hcs : ∀ c ∈ cs, isBlank c = true) : '{' ∉ cs := by
  intro hmem
  exact absurd (hcs '{' hmem) (by decide)

/-- A brace stands behind the first character and blanks. -/
def Braced (expression : List Char) : Prop :=
  ∃ first gap rest, expression = first :: (gap ++ '{' :: rest) ∧ ∀ c ∈ gap, isBlank c = true

theorem contentStart_braced {first : Char} {gap rest : List Char}
    (hgap : ∀ c ∈ gap, isBlank c = true) :
    contentStart (first :: (gap ++ '{' :: rest)) = gap.length + 1 := by
  rw [contentStart, List.tail_cons, blanks_append hgap (by rfl), Nat.add_comm]

theorem take_braced {first : Char} {gap rest : List Char} :
    (first :: (gap ++ '{' :: rest)).take (gap.length + 1 + 1) = first :: (gap ++ ['{']) := by
  rw [List.take_succ_cons, List.take_length_add_append]
  rfl

theorem Braced.indexFrom_eq {expression : List Char} (h : Braced expression) :
    indexFrom expression '{' 1 = .ok (contentStart expression) := by
  obtain ⟨first, gap, rest, rfl, hgap⟩ := h
  have hindex : (gap ++ '{' :: rest).idxOf? '{' = some gap.length := by
    rw [List.idxOf?_eq_some_iff]
    refine ⟨by simp, by simp, fun j hj hbrace => ?_⟩
    rw [List.getElem_append_left hj] at hbrace
    exact not_mem_of_blanks hgap (hbrace ▸ List.getElem_mem hj)
  rw [indexFrom, List.drop_succ_cons, List.drop_zero, hindex, contentStart_braced hgap,
    Nat.add_comm]

/-- Removal from the object literal leaves what stands in front of its brace. -/
theorem Braced.removeProperty {expression : List Char} (h : Braced expression) (name : List Char) :
    Braced (removeProperty name expression).text := by
  obtain ⟨first, gap, rest, rfl, hgap⟩ := h
  rw [Component.removeProperty, contentStart_braced hgap]
  cases hclose : closing? (first :: (gap ++ '{' :: rest)) (gap.length + 1) with
  | none =>
      rw [Selection.removeIn, hclose]
      exact ⟨first, gap, rest, rfl, hgap⟩
  | some close =>
      obtain ⟨F, tail, hdrop, hF, -⟩ := closing?_eq_some_iff.mp hclose
      rw [(Selection.removeIn_eq _ hdrop hF).1, take_braced]
      refine ⟨first, gap, (Selection.prune ⟨[name], true⟩ F).text ++ '}' :: tail, ?_, hgap⟩
      simp

/-! ### Object literals -/

/-- Whether an expression is one object literal. A closer that is not found counts as index -1. -/
def wrapsObjectAt (expression : List Char) : Except Miss Bool := do
  if (trim expression.tail.dropLast).head? ≠ some '{' then return false
  let start ← indexFrom expression '{' 1
  let close ← closingAt expression start
  return (close.map Int.ofNat).getD (-1) = (trimmedLength expression.dropLast : Int) - 1

section Content

variable {expression : List Char}

theorem braced_of_closing {close : Nat}
    (h : closing? expression (contentStart expression) = some close) :
    Braced expression ∧ (trim expression.tail.dropLast).head? = some '{' := by
  obtain ⟨F, tail, hdrop, -, -⟩ := closing?_eq_some_iff.mp h
  cases expression with
  | nil => simp at hdrop
  | cons first t =>
      rw [contentStart, List.tail_cons, Nat.add_comm, List.drop_succ_cons] at hdrop
      obtain ⟨gap, hgap, -, ht⟩ := exists_blanks t
      rw [hdrop] at ht
      refine ⟨⟨first, gap, F.text ++ '}' :: tail, by rw [ht], hgap⟩, ?_⟩
      rw [List.tail_cons, ht, List.dropLast_append_cons, List.dropLast_cons_of_ne_nil (by simp),
        head?_trim, List.dropWhile_append_of_pos hgap]
      rfl

theorem trimmedLength_pos {text : List Char} {c : Char} (hmem : c ∈ text)
    (hc : isBlank c = false) : 0 < trimmedLength text := by
  rw [trimmedLength, List.length_pos_iff, Ne, List.dropWhile_eq_nil_iff]
  intro hblank
  rw [hblank c (List.mem_reverse.mpr hmem)] at hc
  cases hc

theorem braced_of_head (h : (trim expression.tail.dropLast).head? = some '{') :
    Braced expression ∧ 0 < trimmedLength expression.dropLast := by
  rw [head?_trim, ← drop_blanks] at h
  obtain ⟨gap, hgap, -, hbody⟩ := exists_blanks expression.tail.dropLast
  obtain ⟨r, hr⟩ := List.head?_eq_some_iff.mp h
  rw [hr] at hbody
  cases expression with
  | nil => simp at hbody
  | cons first t =>
      rw [List.tail_cons] at hbody
      have ht : t ≠ [] := by
        rintro rfl
        simp at hbody
      refine ⟨⟨first, gap, r ++ [t.getLast ht], ?_, hgap⟩, ?_⟩
      · calc
          first :: t = first :: (t.dropLast ++ [t.getLast ht]) := by
            rw [List.dropLast_append_getLast ht]
          _ = first :: (gap ++ '{' :: (r ++ [t.getLast ht])) := by
            rw [hbody, List.append_assoc, List.cons_append]
      · apply trimmedLength_pos (c := '{') _ (by rfl)
        rw [List.dropLast_cons_of_ne_nil ht, hbody]
        simp

end Content

theorem wrapsObjectAt_eq (expression : List Char) :
    wrapsObjectAt expression = .ok (wrapsObject expression) := by
  by_cases hbody : (trim expression.tail.dropLast).head? = some '{'
  · obtain ⟨hbraced, hpos⟩ := braced_of_head hbody
    rw [wrapsObjectAt, if_neg (not_not.mpr hbody), hbraced.indexFrom_eq, Miss.bind_ok,
      closingAt_eq, Miss.bind_ok, wrapsObject]
    cases closing? expression (contentStart expression) with
    | none =>
        -- index -1 would be the right one only for an expression of blanks
        have hne : (-1 : Int) ≠ (trimmedLength expression.dropLast : Int) - 1 := by omega
        exact congrArg Except.ok (decide_eq_false hne)
    | some close =>
        apply congrArg Except.ok
        rw [Bool.eq_iff_iff, decide_eq_true_iff, beq_iff_eq]
        change (close : Int) = _ ↔ _
        omega
  · rw [wrapsObjectAt, if_pos hbody, wrapsObject]
    cases hclose : closing? expression (contentStart expression) with
    | none => rfl
    | some close =>
        obtain ⟨-, hhead⟩ := braced_of_closing hclose
        exact absurd hhead hbody

theorem exists_closing {expression : List Char} (h : wrapsObject expression = true) :
    ∃ close, closing? expression (contentStart expression) = some close := by
  rw [wrapsObject] at h
  cases hclose : closing? expression (contentStart expression) with
  | none =>
      rw [hclose] at h
      cases h
  | some close => exact ⟨close, rfl⟩

theorem braced_of_wrapsObject {expression : List Char} (h : wrapsObject expression = true) :
    Braced expression := by
  obtain ⟨close, hclose⟩ := exists_closing h
  exact (braced_of_closing hclose).1

/-! ### Loops that record -/

/-- Takes the items one after the other. A step changes the state and gives what it records. -/
def eachAt {α σ : Type} (step : α → σ → Except Miss (σ × List Occurrence)) :
    List α → σ → Except Miss (σ × List Occurrence)
  | [], state => .ok (state, [])
  | a :: as, state => do
    let first ← step a state
    let later ← eachAt step as first.1
    return (later.1, first.2 ++ later.2)

theorem eachAt_cons {α σ : Type} {step : α → σ → Except Miss (σ × List Occurrence)} {a : α}
    {as : List α} {s s' s'' : σ} {o o' : List Occurrence} (hstep : step a s = .ok (s', o))
    (hlater : eachAt step as s' = .ok (s'', o')) : eachAt step (a :: as) s = .ok (s'', o ++ o') := by
  rw [eachAt, hstep, Miss.bind_ok, hlater]
  rfl

/-! ### Scripts -/

def scriptStep (name : String) (script : List Char) :
    Except Miss (List Char × List Occurrence) := do
  let removal ← (⟨[name.toList], true⟩ : Selection).removeAllAt script
  return (removal.text, List.replicate removal.count ⟨name, .script, ""⟩)

def removeFromScriptAt (names : List String) :
    Option (List Char) → Except Miss (Option (List Char) × List Occurrence)
  | none => .ok (none, [])
  | some script => do
    let removal ← eachAt scriptStep names script
    return (some removal.1, removal.2)

theorem eachAt_scriptStep (names : List String) (script : List Char) :
    eachAt scriptStep names script = .ok (removeFromScript names script) := by
  induction names generalizing script with
  | nil => rfl
  | cons name names ih =>
      apply eachAt_cons _ (ih _)
      rw [scriptStep, Selection.removeAllAt_eq]
      rfl

theorem removeFromScriptAt_eq (names : List String) (script : Option (List Char)) :
    removeFromScriptAt names script = .ok (removeFromScript? names script) := by
  cases script with
  | none => rfl
  | some script =>
      rw [removeFromScriptAt, eachAt_scriptStep]
      rfl

/-! ### Expressions -/

def sourceAt (table : ExpressionTable) (i : Nat) : Except Miss (List Char) :=
  match table[i]? with
  | some source => .ok source
  | none => .error .index

def propertyStep (tag : String) (i : Nat) (name : String) (table : ExpressionTable) :
    Except Miss (ExpressionTable × List Occurrence) := do
  let source ← sourceAt table i
  let start ← indexFrom source '{' 1
  let removal ← (⟨[name.toList], true⟩ : Selection).removeInAt source start
  return (table.set i removal.text, List.replicate removal.count ⟨name, .object, tag⟩)

def removeFromValueAt (names : List String) (tag : String) (table : ExpressionTable)
    (value : String) : Except Miss (ExpressionTable × List Occurrence) := do
  match table.index? (trim value.toList) with
  | none => return (table, [])
  | some i =>
    if ← wrapsObjectAt (← sourceAt table i) then eachAt (propertyStep tag i) names table
    else return (table, [])

theorem propertyStep_eq (tag name : String) {table : ExpressionTable} {i : Nat}
    {source : List Char} (hi : table[i]? = some source) (hsource : Braced source) :
    propertyStep tag i name table =
      .ok (table.set i (removeProperty name.toList source).text,
        List.replicate (removeProperty name.toList source).count ⟨name, .object, tag⟩) := by
  rw [propertyStep, sourceAt, hi, Miss.bind_ok, hsource.indexFrom_eq, Miss.bind_ok,
    Selection.removeInAt_eq]
  rfl

theorem eachAt_propertyStep (tag : String) (names : List String) {table : ExpressionTable} {i : Nat}
    {source : List Char} (hi : table[i]? = some source) (hsource : Braced source) :
    eachAt (propertyStep tag i) names table =
      .ok (table.set i (removeEach removeProperty .object tag names source).1,
        (removeEach removeProperty .object tag names source).2) := by
  induction names generalizing table source with
  | nil =>
      obtain ⟨hlt, hget⟩ := List.getElem?_eq_some_iff.mp hi
      rw [eachAt, removeEach, ← hget, List.set_getElem_self]
  | cons name names ih =>
      -- the brace stays where it is, so the next name finds it, too
      apply eachAt_cons (propertyStep_eq tag name hi hsource)
      obtain ⟨hlt, -⟩ := List.getElem?_eq_some_iff.mp hi
      rw [ih (List.getElem?_set_self hlt) (hsource.removeProperty name.toList), List.set_set,
        removeEach]

theorem removeFromValueAt_eq (names : List String) (tag : String) (table : ExpressionTable)
    (value : String) :
    removeFromValueAt names tag table value = .ok (removeFromValue names tag table value) := by
  rw [removeFromValueAt, removeFromValue, objectValue?]
  cases hindex : table.index? (trim value.toList) with
  | none => rfl
  | some i =>
      obtain ⟨-, hmem, -⟩ := List.find?_range_eq_some.mp hindex
      obtain ⟨source, hi⟩ : ∃ source, table[i]? = some source :=
        ⟨_, List.getElem?_eq_getElem (List.mem_range.mp hmem)⟩
      have hsource : table.getD i [] = source := by
        rw [List.getD_eq_getElem?_getD, hi, Option.getD_some]
      simp only [sourceAt, hi, Miss.bind_ok, wrapsObjectAt_eq, Option.filter_some, hsource]
      cases hwraps : wrapsObject source with
      | false => rfl
      | true =>
          simp only [if_true, hsource]
          exact eachAt_propertyStep tag names hi (braced_of_wrapsObject hwraps)

/-! ### Attributes and elements -/

def eraseAt (attributes : List Attribute) (name : String) : Except Miss (List Attribute) :=
  if attributes.any (·.name == name) then .ok (attributes.eraseP (·.name == name))
  else .error .index

/-- Takes a listed attribute off the element, or filters the value of any other. -/
def attributeStep (names : List String) (tag : String) (a : Attribute)
    (state : List Attribute × ExpressionTable) :
    Except Miss ((List Attribute × ExpressionTable) × List Occurrence) := do
  if isListed names a.name then
    let attributes ← eraseAt state.1 a.name
    return ((attributes, state.2), [⟨a.name, .attr, tag⟩])
  else
    let value ← removeFromValueAt names tag state.2 a.value
    return ((state.1, value.1), value.2)

/-- Walks over the attributes as they are before the first of them goes. -/
def elementStep (names : List String) (e : Element) (state : List Element × ExpressionTable) :
    Except Miss ((List Element × ExpressionTable) × List Occurrence) := do
  let removal ← eachAt (attributeStep names e.tag) e.attributes (e.attributes, state.2)
  return ((state.1 ++ [⟨e.tag, removal.1.1⟩], removal.1.2), removal.2)

/-- An attribute behind attributes of other names is the one that its name erases. -/
theorem eraseAt_append {done as : List Attribute} {a : Attribute}
    (hdone : ∀ d ∈ done, d.name ≠ a.name) :
    eraseAt (done ++ a :: as) a.name = .ok (done ++ as) := by
  rw [eraseAt, if_pos (by simp), List.eraseP_append_right _ (by simpa using hdone),
    List.eraseP_cons_of_pos (by simp)]

theorem eachAt_attributeStep (names : List String) (tag : String) (table : ExpressionTable)
    (done as : List Attribute) (hdone : ∀ d ∈ done, isListed names d.name = false) :
    eachAt (attributeStep names tag) as (done ++ as, table) =
      .ok ((done ++ (removeFromAttributes names tag table as).attributes,
          (removeFromAttributes names tag table as).table),
        (removeFromAttributes names tag table as).removed) := by
  induction as generalizing table done with
  | nil => rfl
  | cons a as ih =>
      rw [removeFromAttributes]
      cases ha : isListed names a.name with
      | true =>
          have hne : ∀ d ∈ done, d.name ≠ a.name := by
            intro d hd heq
            have := hdone d hd
            rw [heq, ha] at this
            cases this
          refine eachAt_cons (o := [_]) ?_ (ih table done hdone)
          rw [attributeStep, ha, if_pos rfl, eraseAt_append hne]
          rfl
      | false =>
          have hdone' : ∀ d ∈ done ++ [a], isListed names d.name = false := by
            intro d hd
            rcases List.mem_append.mp hd with hd | hd
            · exact hdone d hd
            · rw [List.mem_singleton.mp hd]
              exact ha
          have hlater := ih (removeFromValue names tag table a.value).1 (done ++ [a]) hdone'
          simp only [List.append_assoc, List.singleton_append] at hlater
          apply eachAt_cons _ hlater
          rw [attributeStep, ha, if_neg (by simp), removeFromValueAt_eq]
          rfl

theorem eachAt_elementStep (names : List String) (table : ExpressionTable) (done es : List Element) :
    eachAt (elementStep names) es (done, table) =
      .ok ((done ++ (removeFromElements names table es).elements,
          (removeFromElements names table es).table),
        (removeFromElements names table es).removed) := by
  induction es generalizing table done with
  | nil =>
      rw [removeFromElements, List.append_nil]
      rfl
  | cons e es ih =>
      have hlater := ih (removeFromAttributes names e.tag table e.attributes).table
        (done ++ [⟨e.tag, (removeFromAttributes names e.tag table e.attributes).attributes⟩])
      rw [List.append_assoc, List.singleton_append] at hlater
      apply eachAt_cons _ hlater
      have hwalk := eachAt_attributeStep names e.tag table [] e.attributes (by simp)
      rw [List.nil_append, List.nil_append] at hwalk
      rw [elementStep, hwalk]
      rfl

/-! ### No names -/

theorem removeFromValue_no_names (tag : String) (table : ExpressionTable) (value : String) :
    removeFromValue [] tag table value = (table, []) := by
  rw [removeFromValue]
  cases hvalue : objectValue? table value with
  | none => rfl
  | some i =>
      obtain ⟨hi, -, -⟩ := objectValue?_eq_some hvalue
      simp only [removeEach, List.getD_eq_getElem?_getD, List.getElem?_eq_getElem hi,
        Option.getD_some, List.set_getElem_self]

theorem removeFromAttributes_no_names (tag : String) (table : ExpressionTable)
    (as : List Attribute) : removeFromAttributes [] tag table as = ⟨as, table, []⟩ := by
  induction as with
  | nil => rfl
  | cons a as ih =>
      have ha : isListed [] a.name = false := rfl
      simp only [removeFromAttributes, ha, Bool.false_eq_true, if_false, removeFromValue_no_names, ih]
      rfl

theorem removeFromElements_no_names (table : ExpressionTable) (es : List Element) :
    removeFromElements [] table es = ⟨es, table, []⟩ := by
  induction es with
  | nil => rfl
  | cons e es ih =>
      rw [removeFromElements, removeFromAttributes_no_names, ih]
      rfl

theorem removeFromScript?_no_names (script : Option (List Char)) :
    removeFromScript? [] script = (script, []) := by
  cases script <;> rfl

/-! ### Documents -/

namespace Document

def removeAt (doc : Document) (listed : List String) : Except Miss Document := do
  let names := listed.eraseDups
  if names = [] then return doc
  let inInstance ← removeFromScriptAt names doc.instanceScript
  let inModule ← removeFromScriptAt names doc.moduleScript
  let inElements ← eachAt (elementStep names) doc.elements ([], doc.expressions)
  return {
    instanceScript := inInstance.1
    moduleScript := inModule.1
    elements := inElements.1.1
    expressions := inElements.1.2
    removed := doc.removed ++ inInstance.2 ++ inModule.2 ++ inElements.2 }

theorem removeAt_eq (doc : Document) (listed : List String) :
    doc.removeAt listed = .ok (doc.remove listed) := by
  rw [removeAt, remove]
  split
  · rename_i hnames
    simp only [hnames, removeFromScript?_no_names, removeFromElements_no_names, List.append_nil]
    rfl
  · rw [removeFromScriptAt_eq, Miss.bind_ok, removeFromScriptAt_eq, Miss.bind_ok,
      eachAt_elementStep, Miss.bind_ok]
    rfl

theorem foldlM_removeAt (doc : Document) (calls : List (List String)) :
    calls.foldlM removeAt doc = .ok (calls.foldl remove doc) := by
  induction calls generalizing doc with
  | nil => rfl
  | cons names calls ih =>
      rw [List.foldlM_cons, removeAt_eq, Miss.bind_ok, ih]
      rfl

/-- Removals one after the other from one document never miss, and each of them leaves the document
framed as its own names say. -/
theorem removals_framed (doc : Document) (calls : List (List String)) :
    calls.foldlM removeAt doc = .ok (calls.foldl remove doc) ∧
      ∀ i names, calls[i]? = some names →
        Frame names ((calls.take i).foldl remove doc) ((calls.take (i + 1)).foldl remove doc) := by
  refine ⟨foldlM_removeAt doc calls, fun i names hi => ?_⟩
  rw [List.take_add_one, hi, Option.toList_some, List.foldl_append]
  exact remove_frame _ names

end Document

end Pruner.Component
