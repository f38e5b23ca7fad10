import Pruner.Assignment.Erase
import Pruner.Comma
import Pruner.Object.Property

/-!
# The source of a component

The removal that produces code: every listed name goes from the source wherever it is assigned a
quoted value, assigned a balanced expression or used as the key of a property. The names are taken
one after the other, and the commas left over are tidied at the end.
-/

namespace Pruner.Source

open Assignment Object

/-- The properties that the source removal looks for: written out, never shorthand. -/
def selection (name : List Char) : Selection :=
  ⟨[name], false⟩

/-- Removes one name, and counts the properties among what was removed. -/
def removeName (code name : List Char) : Removal :=
  (selection name).removeAll (eraseExpressions name (eraseQuoted name code))

def removeNames (names : List (List Char)) (code : List Char) : List Char :=
  Comma.tidy (names.foldl (fun code name => (removeName code name).text) code)

/-- How many properties each name accounts for, for the names that account for any. -/
def removedKeys : List (List Char) → List Char → List (List Char × Nat)
  | [], _ => []
  | name :: names, code =>
    let removal := removeName code name
    if removal.count = 0 then removedKeys names removal.text
    else (name, removal.count) :: removedKeys names removal.text

end Pruner.Source
