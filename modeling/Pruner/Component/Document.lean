import Pruner.Component.Expression
import Pruner.Component.Section
import Pruner.Failure
import Pruner.Markup.Element

/-!
# Component documents

A component consists of at most one instance script, a module script and markup. Of several module
scripts the last one counts. What elements the markup consists of is for a reader of markup to say.
-/

namespace Pruner.Component

inductive Place where
  | script
  | attr
  | object
  deriving DecidableEq, Repr

/-- Something that was removed: its name, and the tag of the element that carried it. -/
structure Occurrence where
  name : String
  place : Place
  tag : String
  deriving DecidableEq, Repr

structure Document where
  instanceScript : Option (List Char)
  moduleScript : Option (List Char)
  elements : List Markup.Element
  expressions : ExpressionTable
  removed : List Occurrence

/-- Something that reads markup, and may fail. -/
abbrev Reader := List Char → Except Failure (List Markup.Element)

/-- Why a component cannot be taken apart. -/
inductive ParseError where
  | secondInstance
  | unbalanced (offset : Nat)
  deriving DecidableEq, Repr

namespace ParseError

def message : ParseError → String
  | secondInstance => "a component may only have one instance <script>"
  | unbalanced offset => "unbalanced expression at offset " ++ toString offset

def failure (e : ParseError) : Failure :=
  ⟨"ComponentParseError", ["ValueError", "Exception"], e.message⟩

end ParseError

structure Scripts where
  instanceScript : Option (List Char) := none
  moduleScript : Option (List Char) := none

namespace Scripts

def add (scripts : Scripts) (s : Section) : Except Failure Scripts :=
  if s.isModule then .ok { scripts with moduleScript := some s.body }
  else match scripts.instanceScript with
    | none => .ok { scripts with instanceScript := some s.body }
    | some _ => .error ParseError.secondInstance.failure

end Scripts

namespace Document

/-- Takes a component apart. -/
def parse (reader : Reader) (content : List Char) : Except Failure Document := do
  let scripted := extract "script".toList content
  let scripts ← scripted.sections.foldlM Scripts.add {}
  let markup := (extract "style".toList scripted.rest).rest
  match ExpressionTable.lift [] markup with
  | (.error offset, _) => throw (ParseError.unbalanced offset).failure
  | (.ok safe, expressions) =>
    let elements ← reader safe
    return ⟨scripts.instanceScript, scripts.moduleScript, elements, expressions, []⟩

end Document

end Pruner.Component
