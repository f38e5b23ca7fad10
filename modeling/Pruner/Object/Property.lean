import Pruner.Object.Cut
import Pruner.Object.Key
import Pruner.Scan.Closing
import Pruner.Scan.Span

/-!
# Removing properties

A listed property of an object literal goes together with the comma behind it and the blanks up to
the next property. The blanks in front of it stay, so the property that follows moves into its
place.
-/

namespace Pruner.Object

open Scan Text

/-- A text after a removal, with the number of cuts made. -/
structure Removal where
  text : List Char
  count : Nat

/-- Which properties to remove. -/
structure Selection where
  names : List (List Char)
  shorthand : Bool

namespace Selection

def selects (sel : Selection) (property : List Char) : Bool :=
  match key? sel.shorthand property with
  | some key => sel.names.contains key
  | none => false

/-- The cut that removes the property in a segment of the span that closes at `close`. -/
def cut? (sel : Selection) (text : List Char) (close : Nat) (segment : Segment) : Option Cut :=
  let property := segment.slice text
  if sel.selects property then
    let after := if segment.stop < close then segment.stop + 1 else segment.stop
    some ⟨segment.start + blanks property, min (after + blanks (text.drop after)) close⟩
  else none

def cuts (sel : Selection) (text : List Char) (close : Nat) (segments : List Segment) : List Cut :=
  segments.filterMap (sel.cut? text close)

def spanCuts (sel : Selection) (text : List Char) (span : Span) : List Cut :=
  sel.cuts text span.stop span.segments

/-- Removes the selected properties of every brace span, nested spans included. -/
def removeAll (sel : Selection) (text : List Char) : Removal :=
  let found := (spans text).flatMap (sel.spanCuts text)
  ⟨Cut.applyAll text found, found.length⟩

/-- Removes the selected properties at the top level of the span that opens at `start`. A span that
does not close is left alone. -/
def removeIn (sel : Selection) (text : List Char) (start : Nat) : Removal :=
  match closing? text start with
  | none => ⟨text, 0⟩
  | some close =>
    match segments text (start + 1) close with
    | .error _ => ⟨text, 0⟩
    | .ok parts =>
      let found := sel.cuts text close parts
      ⟨Cut.applyAll text found, found.length⟩

end Selection

end Pruner.Object
