import Pruner.Text.Blank
import Pruner.Text.Quoted
import Pruner.Text.Word

/-!
# Script and style sections

The sections of a component are cut out of its source before the rest is read as markup. A section
runs from its opening tag to the first closing tag of the same name, whatever stands between them.
-/

namespace Pruner.Component

open Text

/-- Whether a character spells a letter of a tag, in either case. The long s and the two Turkish
forms of i count. -/
def spells (letter c : Char) : Bool :=
  c.toLower == letter || (letter == 's' && c == 'ſ') ||
    (letter == 'i' && (c == 'İ' || c == 'ı'))

/-- What follows a word at the start of a text. -/
def afterWord? : List Char → List Char → Option (List Char)
  | [], text => some text
  | _ :: _, [] => none
  | letter :: word, c :: cs => if spells letter c then afterWord? word cs else none

/-- A section: the text of its opening tag after the name, and its content. -/
structure Section where
  attributes : List Char
  body : List Char
  deriving DecidableEq, Repr

namespace Section

/-- The attributes of an opening tag whose name has just been read, and what follows the tag. -/
def attributes? : List Char → Option (List Char × List Char)
  | [] => none
  | c :: cs =>
    if c = '>' then some ([], cs)
    else if isBlank c then
      match cs.dropWhile (· ≠ '>') with
      | [] => none
      | _ :: rest => some (c :: cs.takeWhile (· ≠ '>'), rest)
    else none

def openTag? (name : List Char) : List Char → Option (List Char × List Char)
  | '<' :: cs => (afterWord? name cs).bind attributes?
  | _ => none

/-- What follows a closing tag at the start of a text. -/
def afterCloseTag? (name : List Char) : List Char → Option (List Char)
  | '<' :: '/' :: cs =>
    (afterWord? name cs).bind fun rest =>
      match rest.drop (blanks rest) with
      | '>' :: after => some after
      | _ => none
  | _ => none

/-- The text up to the first closing tag, and what follows that tag. -/
def body? (name : List Char) : List Char → Option (List Char × List Char)
  | [] => none
  | c :: cs =>
    match afterCloseTag? name (c :: cs) with
    | some rest => some ([], rest)
    | none => (body? name cs).map fun (body, rest) => (c :: body, rest)

/-- The section at the start of a text, with the number of characters it takes. -/
def at? (name text : List Char) : Option (Section × Nat) :=
  (openTag? name text).bind fun (attributes, content) =>
    (body? name content).map fun (body, rest) => (⟨attributes, body⟩, text.length - rest.length)

end Section

/-- A source with its sections of one name taken out. -/
structure Extraction where
  sections : List Section
  rest : List Char

/-- Takes out the sections of one name from left to right. -/
def extract (name text : List Char) : Extraction :=
  match text with
  | [] => ⟨[], []⟩
  | c :: cs =>
    match Section.at? name (c :: cs) with
    | some (found, length) =>
      let later := extract name (cs.drop (length - 1))
      ⟨found :: later.sections, later.rest⟩
    | none =>
      let later := extract name cs
      ⟨later.sections, c :: later.rest⟩
termination_by text.length
decreasing_by
  all_goals simp only [List.length_cons, List.length_drop]
  all_goals omega

/-! ### Module scripts -/

def endsWord (next : Option Char) : Bool :=
  match next with
  | some c => !isWord c
  | none => true

/-- Whether the text begins with the assignment that makes a script a module script. -/
def assignsModule (text : List Char) : Bool :=
  match afterWord? "context".toList text with
  | none => false
  | some rest =>
    match rest.drop (blanks rest) with
    | '=' :: right =>
      let value := right.drop (blanks right)
      let word := if (value.head?.map isValueQuote).getD false then value.tail else value
      ((afterWord? "module".toList word).map fun after => endsWord after.head?).getD false
    | _ => false

/-- Looks for that assignment where a word can begin. -/
def hasModuleContext (before : Option Char) : List Char → Bool
  | [] => false
  | c :: cs => (endsWord before && assignsModule (c :: cs)) || hasModuleContext (some c) cs

namespace Section

def isModule (s : Section) : Bool :=
  hasModuleContext none s.attributes

end Section

end Pruner.Component
