/-!
# Cuts

A cut is a stretch of text to delete. Cuts may nest, overlap and come in any order: they are sorted
and then applied in one sweep, in which what an earlier cut has already removed stays removed.
-/

namespace Pruner.Object

/-- Deletes the text from `start` up to but not including `stop`. -/
structure Cut where
  start : Nat
  stop : Nat
  deriving DecidableEq, Repr

namespace Cut

/-- The order of application: by start, and then by stop. -/
def precedes (a b : Cut) : Bool :=
  a.start < b.start || (a.start == b.start && a.stop ≤ b.stop)

/-- Deletes sorted cuts from `rest`, the text from `index` on. -/
def sweep (index : Nat) (rest : List Char) : List Cut → List Char
  | [] => rest
  | cut :: cuts =>
    if cut.stop ≤ index then sweep index rest cuts
    else
      rest.take (cut.start - index) ++ sweep cut.stop (rest.drop (cut.stop - index)) cuts

@[simp] theorem sweep_nil (index : Nat) (rest : List Char) : sweep index rest [] = rest := rfl

def applyAll (text : List Char) (cuts : List Cut) : List Char :=
  sweep 0 text (cuts.mergeSort precedes)

@[simp] theorem applyAll_nil (text : List Char) : applyAll text [] = text := by
  simp [applyAll]

end Cut

end Pruner.Object
