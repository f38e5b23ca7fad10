import Pruner.Object.Property

/-!
# Expressions in markup

Expressions in braces are lifted out before markup is read: each goes into a table, and a placeholder
that is safe in markup takes its place. The placeholder is made from the index in the table.
-/

namespace Pruner.Component

open Object Scan Text

/-- The sources of the expressions, in the order in which they were lifted out. -/
abbrev ExpressionTable := List (List Char)

def placeholder (index : Nat) : List Char :=
  "__expr_".toList ++ (toString index).toList ++ "__".toList

namespace ExpressionTable

/-- The placeholders with their sources. -/
def entries (table : ExpressionTable) : List (List Char × List Char) :=
  table.zipIdx.map fun (source, i) => (placeholder i, source)

/-- The index whose placeholder is the given text. -/
def index? (table : ExpressionTable) (text : List Char) : Option Nat :=
  (List.range table.length).find? (placeholder · == text)

end ExpressionTable

/-- What lifting gives: the text with placeholders, or the offset of a brace that does not close;
and in either case the expressions lifted out until then. -/
structure Lifting where
  text : Except Nat (List Char)
  sources : List (List Char)

/-- Lifts the expressions out of the markup from `offset` on, when the table holds `count`. -/
def liftFrom (count offset : Nat) (markup : List Char) : Lifting :=
  match markup with
  | [] => ⟨.ok [], []⟩
  | c :: cs =>
    if c = '{' then
      match innerLength? cs with
      | none => ⟨.error offset, []⟩
      | some n =>
        let later := liftFrom (count + 1) (offset + (n + 2)) (cs.drop (n + 1))
        ⟨later.text.map (placeholder count ++ ·), (c :: cs.take (n + 1)) :: later.sources⟩
    else
      let later := liftFrom count (offset + 1) cs
      ⟨later.text.map (c :: ·), later.sources⟩
termination_by markup.length
decreasing_by
  all_goals simp only [List.length_cons, List.length_drop]
  all_goals omega

/-- Lifts the expressions out of a markup and adds them to the table. -/
def ExpressionTable.lift (table : ExpressionTable) (markup : List Char) :
    Except Nat (List Char) × ExpressionTable :=
  let lifting := liftFrom table.length 0 markup
  (lifting.text, table ++ lifting.sources)

/-! ### Object literals -/

/-- Where the content of an expression begins. -/
def contentStart (expression : List Char) : Nat :=
  1 + blanks expression.tail

/-- Whether the whole value of an expression is one object literal. -/
def wrapsObject (expression : List Char) : Bool :=
  match closing? expression (contentStart expression) with
  | some close => close + 1 == trimmedLength expression.dropLast
  | none => false

/-- Removes one property from the object literal that an expression consists of. -/
def removeProperty (name expression : List Char) : Removal :=
  (⟨[name], true⟩ : Selection).removeIn expression (contentStart expression)

end Pruner.Component
