import Pruner.Proofs.Assignment.Lookup
import Pruner.Proofs.Object.Lookup
import Pruner.Source

/-!
# The source removal by index

The removal of all names with every character looked up by its index. No look-up misses.
-/

namespace Pruner.Source

open Assignment Object Scan

def removeNameAt (code name : List Char) : Except Miss Removal := do
  let code ← eraseExpressionsFromAt name (eraseQuoted name code) 0
  (selection name).removeAllAt code

/-- Removes the names one after the other, and records how many properties each accounts for. -/
def removeNamesAt : List (List Char) → List Char → Except Miss (List Char × List (List Char × Nat))
  | [], code => .ok (Comma.tidy code, [])
  | name :: names, code => do
    let removal ← removeNameAt code name
    let later ← removeNamesAt names removal.text
    return (later.1, if removal.count = 0 then later.2 else (name, removal.count) :: later.2)

theorem removeNameAt_eq (code name : List Char) :
    removeNameAt code name = .ok (removeName code name) := by
  rw [removeNameAt, eraseExpressionsFromAt_eq, Miss.bind_ok, Selection.removeAllAt_eq]
  rfl

theorem removeNamesAt_eq (names : List (List Char)) (code : List Char) :
    removeNamesAt names code = .ok (removeNames names code, removedKeys names code) := by
  induction names generalizing code with
  | nil => rfl
  | cons name names ih =>
      rw [removeNamesAt, removeNameAt_eq, Miss.bind_ok, ih, Miss.bind_ok]
      rfl

end Pruner.Source
