import Pruner.Assignment.Pattern
import Pruner.Scan.Closing

/-!
# Erasing assignments

Assignments of a name go from the name to the end of the value; the blanks in front of them stay.
-/

namespace Pruner.Assignment

open Scan

/-- Erases every quoted assignment of `name`, from left to right. -/
def eraseQuoted (name text : List Char) : List Char :=
  match text with
  | [] => []
  | c :: cs =>
    match matchAt? quoted name (c :: cs) with
    | some m => (c :: cs).take m.lead ++ eraseQuoted name ((c :: cs).drop (m.lead + m.body))
    | none => c :: eraseQuoted name cs
termination_by text.length
decreasing_by
  · have := m.lead_pos
    simp
    omega
  · simp

/-- Erases the expression assignments of `name` that are found from `index` on. One whose braces do
not balance is passed over; after an erasure the search goes on at the place of the erased text. -/
def eraseExpressionsFrom (name code : List Char) (index : Nat) : List Char :=
  match _h : find? openBrace name (code.drop index) with
  | none => code
  | some (ahead, m) =>
    let next := index + ahead + m.lead
    match innerLength? (code.drop (next + m.body)) with
    | none => eraseExpressionsFrom name code (next + m.body)
    | some inner =>
      eraseExpressionsFrom name (code.take next ++ code.drop (next + m.body + inner + 1)) next
termination_by code.length - index
decreasing_by
  all_goals
    have hlt : index < code.length := by
      have := find?_ne_nil _h
      simpa using this
    have := m.lead_pos
    try simp only [List.length_append, List.length_take, List.length_drop]
    omega

/-- Erases every expression assignment of `name` whose braces balance. -/
def eraseExpressions (name code : List Char) : List Char :=
  eraseExpressionsFrom name code 0

end Pruner.Assignment
