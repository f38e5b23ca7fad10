import Pruner.Markup.Node
import Pruner.Markup.Outline
import Pruner.Markup.Token

/-!
# The state of a construction

A document is constructed token by token. The state holds the outline so far, the open elements, the
formatting elements that go on behind the end of what is around them, and the mode, which says what
part of the document comes next.
-/

namespace Pruner.Markup

open Vocabulary

/-- What part of the document comes next. -/
inductive Mode where
  | initial
  | beforeRoot
  | beforeHead
  | head
  | noscript
  | afterHead
  | body
  | rawText
  | table
  | tableText
  | caption
  | columns
  | tableSection
  | row
  | cell
  | select
  | selectInTable
  | afterBody
  | frameset
  | afterFrameset
  | afterDocument
  | afterFrames
  deriving DecidableEq, Repr

namespace Mode

/-- The mode that goes with an open element. -/
def ofElement? (name : String) : Option Mode :=
  if name = "select" then some select
  else if tableCells.contains name then some cell
  else if name = "tr" then some row
  else if tableSections.contains name then some tableSection
  else if name = "caption" then some caption
  else if name = "colgroup" then some columns
  else if name = "table" then some table
  else if name = "head" ∨ name = "body" then some body
  else if name = "frameset" then some frameset
  else none

/-- The mode that goes with the innermost open element that has one. -/
def within : List Node → Mode
  | [] => body
  | n :: ns => if n.isForeign then within ns else (ofElement? n.name).getD (within ns)

/-- Whether a selection that starts now is one inside a table. -/
def isInTable : Mode → Bool
  | table | caption | columns | tableSection | row | cell => true
  | _ => false

end Mode

structure Construction where
  mode : Mode := .initial
  /-- The mode to go on in after raw text. -/
  afterRaw : Mode := .initial
  /-- The mode to go on in after text inside a table. -/
  afterText : Mode := .initial
  /-- Text inside a table that has no place yet. -/
  pending : List Char := []
  reading : Reading := .markup
  /-- Whether the document is of a legacy kind. -/
  legacy : Bool := false
  outline : Outline := []
  /-- The key of the next element. -/
  fresh : Nat := 0
  /-- The open elements, the innermost first. -/
  nodes : List Node := []
  /-- The formatting elements, the oldest first. `none` bounds what can go on behind it. -/
  formatting : List (Option Node) := []
  head : Option Node := none
  /-- The key of the form that inputs belong to. -/
  form : Option Nat := none
  /-- Whether frames could still take the place of the body. -/
  framesAllowed : Bool := true
  /-- Whether what does not belong into a table is put in front of it. -/
  fostering : Bool := false
  /-- Whether a line end that comes next is dropped. -/
  dropsLineEnd : Bool := false
  /-- Whether the document can hold all the text that was put into it. -/
  sound : Bool := true

namespace Construction

/-! ### The innermost element -/

def current? (c : Construction) : Option Node :=
  c.nodes.head?

def currentIsNamed (c : Construction) (names : List String) : Bool :=
  c.current?.any (·.isNamed names)

def isForeign (c : Construction) : Bool :=
  c.current?.any Node.isForeign

/-- Whether what comes next goes in front of the table. -/
def fosters (c : Construction) : Bool :=
  c.fostering && c.currentIsNamed tableHosts

/-! ### Putting something in -/

/-- Puts a branch where the next element belongs. -/
def place (c : Construction) (branch : Outline) : Outline :=
  match c.current? with
  | none => branch
  | some n =>
    if c.fosters then
      match c.nodes.find? (·.isNamed ["table"]) with
      | some table => c.outline.addBefore table.key branch
      | none => c.outline.addBelow ((c.nodes.getLast?.map (·.key)).getD n.key) branch
    else c.outline.addBelow n.key branch

def areStorable (attributes : List Attribute) : Bool :=
  attributes.all fun a => a.value.toList.all isStorable

/-- Puts in an element whose attributes stand as in the tree, and opens it. -/
def enter (c : Construction) (space : Space) (name : String) (attributes : List Attribute) :
    Construction :=
  let n : Node := ⟨c.fresh, space, name, attributes⟩
  { c with
    outline := c.place [{ key := n.key, element := n.element }]
    fresh := c.fresh + 1
    nodes := n :: c.nodes
    sound := c.sound && areStorable attributes }

/-- Puts in an ordinary element without attributes and opens it. -/
def enterImplied (c : Construction) (name : String) : Construction :=
  c.enter .html name []

/-- Puts in the ordinary element of a tag and opens it. -/
def enterTag (c : Construction) (tag : Tag) : Construction :=
  c.enter .html tag.name (Space.html.attributes tag.attributes)

def leave (c : Construction) : Construction :=
  { c with nodes := c.nodes.drop 1 }

/-- Puts in the element of a tag without opening it. -/
def addTag (c : Construction) (tag : Tag) : Construction :=
  (c.enterTag tag).leave

/-- Puts in the foreign element of a tag. It stays open unless the tag closes itself. -/
def enterForeign (c : Construction) (space : Space) (tag : Tag) : Construction :=
  let entered := c.enter space tag.name (space.attributes tag.attributes)
  if tag.selfClosing then entered.leave else entered

def addText (c : Construction) (text : List Char) : Construction :=
  let filled :=
    match c.current? with
    | some n => if c.fosters || text.isEmpty then c.outline else c.outline.fill n.key
    | none => c.outline
  { c with outline := filled, sound := c.sound && text.all isStorableText }

def addComment (c : Construction) (text : List Char) : Construction :=
  let filled :=
    match c.current? with
    | some n => c.outline.fill n.key
    | none => c.outline
  { c with outline := filled, sound := c.sound && text.all isStorable }

/-- Gives an element the attributes that it does not have yet. -/
def mergeAttributes (c : Construction) (n : Node) (tag : Tag) : Construction :=
  let added := Attribute.missing (c.outline.attributesOf n.key)
    (Space.html.attributes tag.attributes)
  { c with
    outline := c.outline.addAttributes n.key added
    sound := c.sound && areStorable added }

def mergeRoot (c : Construction) (tag : Tag) : Construction :=
  match c.nodes.getLast? with
  | some root => c.mergeAttributes root tag
  | none => c

/-- The body, if it is open. -/
def body? (c : Construction) : Option Node :=
  (c.nodes.reverse[1]?).filter (·.isNamed ["body"])

/-- Opens an element whose content is text up to its end tag. -/
def enterRaw (c : Construction) (tag : Tag) (reading : Reading) : Construction :=
  { c.enterTag tag with reading, afterRaw := c.mode, mode := .rawText }

/-! ### Scope -/

def hasInScope (c : Construction) (name : String) : Bool :=
  reaches (·.isOneOf [name]) Node.boundsScope c.nodes

def hasInTable (c : Construction) (name : String) : Bool :=
  reaches (·.isOneOf [name]) Node.boundsTable c.nodes

def hasParagraph (c : Construction) : Bool :=
  reaches (·.isOneOf ["p"]) Node.boundsParagraph c.nodes

/-- Closes through the innermost element of a name, and first what ends with it. -/
def close (c : Construction) (name : String) : Construction :=
  { c with nodes := closeThrough (·.isNamed [name]) (closeImplied "" c.nodes) }

/-- Closes through the innermost element of a name. Elements of that name do not end by
implication. -/
def closeExactly (c : Construction) (name : String) : Construction :=
  { c with nodes := closeThrough (·.isNamed [name]) (closeImplied name c.nodes) }

def endParagraph (c : Construction) : Construction :=
  if c.hasParagraph then c.closeExactly "p" else c

end Construction

end Pruner.Markup
