import Pruner.Markup.Element
import Pruner.Markup.Vocabulary

/-!
# Open elements

While a document is read, the elements that are open form a list, the innermost first. Its questions
have one shape: is there an element of some kind, with none of another kind in front of it?
-/

namespace Pruner.Markup

open Vocabulary

/-- An open element, with its attributes as they stand in the tree. -/
structure Node where
  key : Nat
  space : Space
  name : String
  attributes : List Attribute
  deriving DecidableEq, Repr

namespace Node

def element (n : Node) : Element :=
  ⟨n.space.tag n.name, n.attributes⟩

def isForeign (n : Node) : Bool :=
  n.space != .html

/-- Whether an element is ordinary and has one of the names. -/
def isOneOf (names : List String) (n : Node) : Bool :=
  !n.isForeign && names.contains n.name

/-- Whether an element has one of the names, be it ordinary or not. -/
def isNamed (names : List String) (n : Node) : Bool :=
  names.contains n.name

def isSpecial (n : Node) : Bool :=
  n.isOneOf special || (n.space == .svg && n.name == "foreignObject")

def isAnnotation (n : Node) : Bool :=
  n.space == .math && n.name == "annotation-xml"

/-- Whether an element of a formula has ordinary text inside. -/
def embedsText (n : Node) : Bool :=
  n.space == .math && mathEmbeddings.contains n.name

/-- Whether a foreign element has ordinary markup inside. -/
def embedsMarkup (n : Node) : Bool :=
  (n.space == .svg && svgEmbeddings.contains n.name) ||
    (n.isAnnotation && n.attributes.any fun a =>
      a.name == "encoding" &&
        markupEncodings.contains (String.ofList (a.value.toList.map Char.toLower)))

/-! ### Barriers -/

def boundsScope (n : Node) : Bool :=
  n.isOneOf scopes || (n.space == .svg && svgEmbeddings.contains n.name) || n.embedsText ||
    n.isAnnotation

def boundsParagraph (n : Node) : Bool :=
  n.boundsScope || n.isOneOf ["button"]

def boundsList (n : Node) : Bool :=
  n.boundsScope || n.isOneOf ["ol", "ul"]

def boundsTable (n : Node) : Bool :=
  n.isOneOf ["html", "table"]

def boundsSelect (n : Node) : Bool :=
  !n.isOneOf ["optgroup", "option"]

/-- Whether a new list item does not end one that is outside this element. -/
def boundsItem (n : Node) : Bool :=
  n.isSpecial && !n.isNamed ["address", "div", "p"]

/-- Whether two formatting elements are the same but for their place. -/
def matchesFormat (left right : Node) : Bool :=
  left.name == right.name && left.space == right.space &&
    Attribute.same left.attributes right.attributes

end Node

/-! ### Lists of open elements -/

/-- Whether an element that satisfies `target` is open with no barrier in front of it. -/
def reaches (target barrier : Node → Bool) : List Node → Bool
  | [] => false
  | n :: ns => target n || (!barrier n && reaches target barrier ns)

/-- Closes elements up to and including the first that satisfies `target`. -/
def closeThrough (target : Node → Bool) (nodes : List Node) : List Node :=
  (nodes.dropWhile (!target ·)).drop 1

/-- Closes elements up to the first that satisfies `target`. -/
def closeUpTo (target : Node → Bool) (nodes : List Node) : List Node :=
  nodes.dropWhile (!target ·)

/-- Closes the innermost element if it has one of the names. -/
def closeCurrent (names : List String) : List Node → List Node
  | [] => []
  | n :: ns => if n.isNamed names then ns else n :: ns

/-- Closes the innermost elements that end with the element around them, other than those of the
name `kept`. -/
def closeImplied (kept : String) (nodes : List Node) : List Node :=
  nodes.dropWhile fun n => n.isNamed impliedEnds && n.name != kept

end Pruner.Markup
