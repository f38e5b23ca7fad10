import Pruner.Component.Document

/-!
# Removing names from a document

The structural removal takes listed attributes off the elements of a document and listed properties
out of its scripts and of the object literals that are attribute values. It records each occurrence.
-/

namespace Pruner.Component

open Markup Object Text

/-- A removal of several names, one after the other, from one text. -/
def removeEach (remove : List Char → List Char → Removal) (place : Place) (tag : String) :
    List String → List Char → List Char × List Occurrence
  | [], text => (text, [])
  | name :: names, text =>
    let removal := remove name.toList text
    let later := removeEach remove place tag names removal.text
    (later.1, List.replicate removal.count ⟨name, place, tag⟩ ++ later.2)

def removeFromScript (names : List String) (script : List Char) : List Char × List Occurrence :=
  removeEach (fun name => (⟨[name], true⟩ : Selection).removeAll) .script "" names script

def removeFromScript? (names : List String) :
    Option (List Char) → Option (List Char) × List Occurrence
  | none => (none, [])
  | some script =>
    let removal := removeFromScript names script
    (some removal.1, removal.2)

/-- Whether an attribute is listed. Attribute names are lower case in the tree, so a name also counts
in lower case. -/
def isListed (names : List String) (name : String) : Bool :=
  names.contains name || (names.map lower).contains name

/-- The index of the object literal that is the value of an attribute. -/
def objectValue? (table : ExpressionTable) (value : String) : Option Nat :=
  (table.index? (trim value.toList)).filter fun i => wrapsObject (table.getD i [])

/-- Filters the object literal that is the value of a kept attribute. -/
def removeFromValue (names : List String) (tag : String) (table : ExpressionTable)
    (value : String) : ExpressionTable × List Occurrence :=
  match objectValue? table value with
  | none => (table, [])
  | some i =>
    let removal := removeEach removeProperty .object tag names (table.getD i [])
    (table.set i removal.1, removal.2)

/-- What removing names from attributes gives. -/
structure AttributeRemoval where
  attributes : List Attribute
  table : ExpressionTable
  removed : List Occurrence

def removeFromAttributes (names : List String) (tag : String) (table : ExpressionTable) :
    List Attribute → AttributeRemoval
  | [] => ⟨[], table, []⟩
  | a :: as =>
    if isListed names a.name then
      let later := removeFromAttributes names tag table as
      { later with removed := ⟨a.name, .attr, tag⟩ :: later.removed }
    else
      let value := removeFromValue names tag table a.value
      let later := removeFromAttributes names tag value.1 as
      ⟨a :: later.attributes, later.table, value.2 ++ later.removed⟩

/-- What removing names from elements gives. -/
structure ElementRemoval where
  elements : List Element
  table : ExpressionTable
  removed : List Occurrence

def removeFromElements (names : List String) (table : ExpressionTable) :
    List Element → ElementRemoval
  | [] => ⟨[], table, []⟩
  | e :: es =>
    let first := removeFromAttributes names e.tag table e.attributes
    let later := removeFromElements names first.table es
    ⟨⟨e.tag, first.attributes⟩ :: later.elements, later.table, first.removed ++ later.removed⟩

namespace Document

/-- Removes each listed name once, scripts first and then the elements in order. -/
def remove (doc : Document) (listed : List String) : Document :=
  let names := listed.eraseDups
  let inInstance := removeFromScript? names doc.instanceScript
  let inModule := removeFromScript? names doc.moduleScript
  let inElements := removeFromElements names doc.expressions doc.elements
  { instanceScript := inInstance.1
    moduleScript := inModule.1
    elements := inElements.elements
    expressions := inElements.table
    removed := doc.removed ++ inInstance.2 ++ inModule.2 ++ inElements.removed }

end Document

end Pruner.Component
