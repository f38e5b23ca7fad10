import Pruner.Component.Removal
import Pruner.Proofs.Component.Lifting
import Pruner.Proofs.Object.Composition
import Pruner.Proofs.Object.SpanFilter

/-!
# What a structural removal changes

A removal takes the listed attributes off the elements and leaves the elements themselves alone. Scripts
and expressions lose characters at most, and an expression only when it is an object literal to which a
kept attribute refers. The record grows at its end.
-/

namespace Pruner.Component

open Markup Object Scan Text

/-! ### One name after the other -/

section Each

variable {remove : List Char → List Char → Removal} {place : Place} {tag : String}

theorem removeEach_sublist (h : ∀ name text, (remove name text).text.Sublist text)
    (names : List String) (text : List Char) :
    (removeEach remove place tag names text).1.Sublist text := by
  induction names generalizing text with
  | nil => exact List.Sublist.refl text
  | cons name names ih => exact (ih _).trans (h name.toList text)

theorem place_of_mem_removeEach (names : List String) (text : List Char) :
    ∀ o ∈ (removeEach remove place tag names text).2, o.place = place := by
  induction names generalizing text with
  | nil => simp [removeEach]
  | cons name names ih =>
      intro o ho
      rcases List.mem_append.mp ho with ho | ho
      · rw [List.eq_of_mem_replicate ho]
      · exact ih _ o ho

/-- Such a removal records no attributes, unless it is one of attributes. -/
theorem filter_attr_removeEach (h : place ≠ .attr) (names : List String) (text : List Char) :
    (removeEach remove place tag names text).2.filter (·.place = .attr) = [] := by
  rw [List.filter_eq_nil_iff]
  intro o ho
  rw [place_of_mem_removeEach names text o ho, decide_eq_true_iff]
  exact h

end Each

/-! ### Scripts -/

theorem removeFromScript?_sublist (names : List String) (script : Option (List Char)) :
    Option.Rel List.Sublist (removeFromScript? names script).1 script := by
  cases script with
  | none => exact .none
  | some text =>
      apply Option.Rel.some
      apply removeEach_sublist
      intro name text
      exact Selection.removeAll_sublist _ text

theorem filter_attr_removeFromScript? (names : List String) (script : Option (List Char)) :
    (removeFromScript? names script).2.filter (·.place = .attr) = [] := by
  cases script with
  | none => rfl
  | some text => exact filter_attr_removeEach (by decide) names text

/-! ### Expressions -/

/-- The table after a removal from kept attributes with these values: every expression has lost
characters at most, and only an object literal to which one of the values refers has lost any. -/
structure Filtered (values : List String) (old new : ExpressionTable) : Prop where
  length_eq : new.length = old.length
  entry : ∀ i s t, old[i]? = some s → new[i]? = some t → t.Sublist s ∧
    (t ≠ s → wrapsObject s = true ∧ ∃ v ∈ values, trim v.toList = placeholder i)

namespace Filtered

variable {values later : List String} {a b c : ExpressionTable}

theorem refl (values : List String) (a : ExpressionTable) : Filtered values a a := by
  refine ⟨rfl, fun i s t hs ht => ?_⟩
  obtain rfl : s = t := Option.some.inj (hs.symm.trans ht)
  exact ⟨List.Sublist.refl s, absurd rfl⟩

theorem trans (hab : Filtered values a b) (hbc : Filtered later b c) :
    Filtered (values ++ later) a c := by
  refine ⟨hbc.length_eq.trans hab.length_eq, fun i s t hs ht => ?_⟩
  obtain ⟨hi, -⟩ := List.getElem?_eq_some_iff.mp hs
  obtain ⟨m, hm⟩ : ∃ m, b[i]? = some m := ⟨_, List.getElem?_eq_getElem (hab.length_eq ▸ hi)⟩
  obtain ⟨hfirst, hchanged⟩ := hab.entry i s m hs hm
  obtain ⟨hsecond, hchanged'⟩ := hbc.entry i m t hm ht
  refine ⟨hsecond.trans hfirst, fun hne => ?_⟩
  by_cases hms : m = s
  · -- nothing had changed so far, so the later removal met the old expression
    subst hms
    obtain ⟨hwraps, v, hv, href⟩ := hchanged' hne
    exact ⟨hwraps, v, List.mem_append_right values hv, href⟩
  · obtain ⟨hwraps, v, hv, href⟩ := hchanged hms
    exact ⟨hwraps, v, List.mem_append_left later hv, href⟩

end Filtered

theorem objectValue?_eq_some {table : ExpressionTable} {value : String} {i : Nat}
    (h : objectValue? table value = some i) :
    i < table.length ∧ placeholder i = trim value.toList ∧
      wrapsObject (table.getD i []) = true := by
  obtain ⟨hindex, hwraps⟩ := Option.filter_eq_some_iff.mp h
  obtain ⟨hkey, hi, -⟩ := List.find?_range_eq_some.mp hindex
  exact ⟨List.mem_range.mp hi, beq_iff_eq.mp hkey, hwraps⟩

theorem removeFromValue_filtered (names : List String) (tag : String) (table : ExpressionTable)
    (value : String) : Filtered [value] table (removeFromValue names tag table value).1 := by
  rw [removeFromValue]
  cases hvalue : objectValue? table value with
  | none => exact .refl [value] table
  | some i =>
      obtain ⟨hi, hkey, hwraps⟩ := objectValue?_eq_some hvalue
      refine ⟨List.length_set, fun j s t hs ht => ?_⟩
      rw [List.getElem?_set] at ht
      split_ifs at ht with hij
      · subst hij
        obtain rfl := Option.some.inj ht
        rw [List.getD_eq_getElem?_getD, hs, Option.getD_some] at hwraps ⊢
        refine ⟨removeEach_sublist ?_ names s, fun _ => ⟨hwraps, value, by simp, hkey.symm⟩⟩
        intro name text
        exact Selection.removeIn_sublist _ text _
      · obtain rfl : s = t := Option.some.inj (hs.symm.trans ht)
        exact ⟨List.Sublist.refl s, absurd rfl⟩

theorem filter_attr_removeFromValue (names : List String) (tag : String) (table : ExpressionTable)
    (value : String) :
    (removeFromValue names tag table value).2.filter (·.place = .attr) = [] := by
  rw [removeFromValue]
  cases objectValue? table value with
  | none => rfl
  | some i => exact filter_attr_removeEach (by decide) names _

/-! ### Attributes and elements -/

section Attributes

variable (names : List String)

/-- The attributes that a removal keeps. -/
def kept (attributes : List Attribute) : List Attribute :=
  attributes.filter fun a => !isListed names a.name

/-- What is recorded of the attributes that a removal takes off an element. -/
def struck (e : Element) : List Occurrence :=
  (e.attributes.filter fun a => isListed names a.name).map fun a => ⟨a.name, .attr, e.tag⟩

variable (tag : String) (table : ExpressionTable)

theorem attributes_removeFromAttributes (as : List Attribute) :
    (removeFromAttributes names tag table as).attributes = kept names as := by
  induction as generalizing table with
  | nil => rfl
  | cons a as ih =>
      rw [removeFromAttributes, kept, List.filter_cons]
      cases isListed names a.name with
      | true => exact ih table
      | false => exact congrArg (a :: ·) (ih _)

theorem removeFromAttributes_filtered (as : List Attribute) :
    Filtered ((kept names as).map Attribute.value) table
      (removeFromAttributes names tag table as).table := by
  induction as generalizing table with
  | nil => exact .refl [] table
  | cons a as ih =>
      rw [removeFromAttributes, kept, List.filter_cons]
      cases isListed names a.name with
      | true => exact ih table
      | false => exact (removeFromValue_filtered names tag table a.value).trans (ih _)

theorem filter_attr_removeFromAttributes (as : List Attribute) :
    (removeFromAttributes names tag table as).removed.filter (·.place = .attr) =
      struck names ⟨tag, as⟩ := by
  induction as generalizing table with
  | nil => rfl
  | cons a as ih =>
      rw [removeFromAttributes, struck, List.filter_cons]
      cases isListed names a.name with
      | true => exact congrArg (⟨a.name, .attr, tag⟩ :: ·) (ih table)
      | false =>
          have hlater := ih (removeFromValue names tag table a.value).1
          simp only [Bool.false_eq_true, if_false, List.filter_append,
            filter_attr_removeFromValue, List.nil_append]
          exact hlater

theorem elements_removeFromElements (es : List Element) :
    (removeFromElements names table es).elements =
      es.map fun e => ⟨e.tag, kept names e.attributes⟩ := by
  induction es generalizing table with
  | nil => rfl
  | cons e es ih =>
      rw [removeFromElements, List.map_cons]
      simp only [ih, attributes_removeFromAttributes]

theorem removeFromElements_filtered (es : List Element) :
    Filtered (es.flatMap fun e => (kept names e.attributes).map Attribute.value) table
      (removeFromElements names table es).table := by
  induction es generalizing table with
  | nil => exact .refl [] table
  | cons e es ih =>
      exact (removeFromAttributes_filtered names e.tag table e.attributes).trans (ih _)

theorem filter_attr_removeFromElements (es : List Element) :
    (removeFromElements names table es).removed.filter (·.place = .attr) =
      es.flatMap (struck names) := by
  induction es generalizing table with
  | nil => rfl
  | cons e es ih =>
      rw [removeFromElements, List.flatMap_cons]
      simp only [List.filter_append, filter_attr_removeFromAttributes, ih]

end Attributes

/-! ### Documents -/

/-- A name is listed as it stands, or as the lower case of a listed name. -/
def Listed (names : List String) (name : String) : Prop :=
  name ∈ names ∨ ∃ n ∈ names, lower n = name

instance (names : List String) (name : String) : Decidable (Listed names name) :=
  inferInstanceAs (Decidable (_ ∨ _))

theorem isListed_eraseDups (names : List String) (name : String) :
    isListed names.eraseDups name = decide (Listed names name) := by
  rw [Bool.eq_iff_iff, decide_eq_true_iff, Listed, isListed]
  simp [List.mem_eraseDups]

/-- How a document stands after the removal of listed names, compared with how it stood before. -/
structure Frame (names : List String) (doc after : Document) : Prop where
  /-- The elements keep their tags, their order and the attributes that are not listed. -/
  elements : after.elements = doc.elements.map fun e =>
    ⟨e.tag, e.attributes.filter fun a => ¬ Listed names a.name⟩
  keys : after.expressions.entries.map Prod.fst = doc.expressions.entries.map Prod.fst
  /-- An expression changes only if it is an object literal to which a kept attribute refers, and then
  only loses characters. -/
  sources : ∀ i s t, doc.expressions[i]? = some s → after.expressions[i]? = some t →
    t.Sublist s ∧ (t ≠ s → wrapsObject s = true ∧ ∃ e ∈ doc.elements, ∃ a ∈ e.attributes,
      ¬ Listed names a.name ∧ trim a.value.toList = placeholder i)
  instanceScript : Option.Rel List.Sublist after.instanceScript doc.instanceScript
  moduleScript : Option.Rel List.Sublist after.moduleScript doc.moduleScript
  /-- The record grows at its end, by one occurrence for each attribute that went. -/
  removed : ∃ new, after.removed = doc.removed ++ new ∧
    new.filter (·.place = .attr) = doc.elements.flatMap fun e =>
      (e.attributes.filter fun a => Listed names a.name).map fun a => ⟨a.name, .attr, e.tag⟩

theorem remove_frame (doc : Document) (names : List String) : Frame names doc (doc.remove names) := by
  have hfiltered := removeFromElements_filtered names.eraseDups doc.expressions doc.elements
  have hkept : kept names.eraseDups = fun as => as.filter fun a => ¬ Listed names a.name := by
    funext as
    apply List.filter_congr
    intro a _
    rw [isListed_eraseDups, decide_not]
  have hstruck : struck names.eraseDups = fun e =>
      (e.attributes.filter fun a => Listed names a.name).map fun a => ⟨a.name, .attr, e.tag⟩ := by
    funext e
    rw [struck]
    simp only [isListed_eraseDups]
  constructor
  · have helements := elements_removeFromElements names.eraseDups doc.expressions doc.elements
    rw [hkept] at helements
    exact helements
  · rw [ExpressionTable.map_fst_entries, ExpressionTable.map_fst_entries]
    exact congrArg (fun n => (List.range n).map placeholder) hfiltered.length_eq
  · intro i s t hs ht
    obtain ⟨hsub, hchanged⟩ := hfiltered.entry i s t hs ht
    refine ⟨hsub, fun hne => ?_⟩
    obtain ⟨hwraps, v, hv, href⟩ := hchanged hne
    obtain ⟨e, he, hv⟩ := List.mem_flatMap.mp hv
    obtain ⟨a, ha, rfl⟩ := List.mem_map.mp hv
    rw [hkept, List.mem_filter, decide_eq_true_iff] at ha
    exact ⟨hwraps, e, he, a, ha.1, ha.2, href⟩
  · exact removeFromScript?_sublist _ doc.instanceScript
  · exact removeFromScript?_sublist _ doc.moduleScript
  · refine ⟨_, List.append_assoc _ _ _ |>.trans (List.append_assoc _ _ _), ?_⟩
    rw [List.filter_append, List.filter_append, filter_attr_removeFromScript?,
      filter_attr_removeFromScript?, filter_attr_removeFromElements, hstruck]
    rfl

end Pruner.Component
