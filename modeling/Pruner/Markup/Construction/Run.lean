import Pruner.Failure
import Pruner.Markup.Construction.Start

/-!
# The construction of a document

`elements` lists the elements that a text of markup makes, in document order. Root, head and body
are always there, whether their tags are written or not, unless frames take the place of the body.
-/

namespace Pruner.Markup

open Vocabulary

namespace Construction

/-! ### Graphics and formulas -/

def breaksOut (tag : Tag) : Bool :=
  breakouts.contains tag.name ||
    (tag.name == "font" && tag.attributes.any fun a => fontAttributes.contains a.name)

def startForeign (c : Construction) (space : Space) (tag : Tag) : Step :=
  if breaksOut tag then
    let ordinary (n : Node) : Bool := !n.isForeign || n.embedsMarkup || n.embedsText
    ({ c with nodes := closeUpTo ordinary c.nodes }, true)
  else (c.enterForeign space { tag with name := space.elementName tag.name }, false)

/-- An end tag inside graphics or formulas. It closes an element of its name up to the first
ordinary element, from which on it is an ordinary end tag. -/
def endForeign (c : Construction) (name : String) : Step :=
  let isNamed (n : Node) : Bool := n.name.toList.map Char.toLower == name.toList
  match (c.nodes.takeWhile Node.isForeign).find? isNamed with
  | none => c.takeEnd name
  | some n =>
    let placed := if c.mode = .tableText then c.placeHeld else c
    ({ placed with nodes := closeThrough (·.key == n.key) placed.nodes }, false)

/-- Whether a token is ordinary content of a foreign element. -/
def isEmbedded (n : Node) : Token → Bool
  | .start tag =>
    (n.embedsText && !mathGlyphs.contains tag.name) || (n.isAnnotation && tag.name == "svg") ||
      n.embedsMarkup
  | .text _ _ => n.embedsText || n.embedsMarkup
  | _ => false

/-! ### One token -/

def takeOrdinary (c : Construction) : Token → Step
  | .start tag => c.takeStart tag
  | .stop name => c.takeEnd name
  | .text false text => c.takeText text
  | .text true text => (c.takeSpace text, false)
  | .comment text => (c.takeComment text, false)
  | .doctype legacy =>
    (if c.mode = .initial then { c with legacy, mode := .beforeRoot } else c, false)
  | .nothing => (c, false)

def takeForeign (c : Construction) (space : Space) : Token → Step
  | .start tag => c.startForeign space tag
  | .stop name => c.endForeign name
  | .text false text => (c.takeForeignText text, false)
  | .text true text => (c.addText text, false)
  | .comment text => (c.addComment text, false)
  | _ => (c, false)

def take (c : Construction) (token : Token) : Step :=
  match c.current? with
  | none => c.takeOrdinary token
  | some n =>
    if n.isForeign && !isEmbedded n token then c.takeForeign n.space token
    else c.takeOrdinary token

/-- Takes a token until it is used up, at most `fuel` times. Each time before the last closes an
element or leaves a mode. -/
def settle : Nat → Construction → Token → Construction
  | 0, c, _ => c
  | fuel + 1, c, token =>
    let next := c.take token
    if next.2 then settle fuel next.1 token else next.1

/-- Takes one token. After a tag the input is markup again unless the tag says otherwise. The fuel
covers every open element and all modes on the way to the body. -/
def feed (c : Construction) (token : Token) : Construction :=
  settle (2 * c.nodes.length + 24) (if token.isTag then { c with reading := .markup } else c) token

/-! ### The end of the input -/

/-- What the end of the input leads to, and whether more follows from it. -/
def finishStep (c : Construction) : Step :=
  match c.mode with
  | .initial | .beforeRoot | .beforeHead | .head | .noscript | .afterHead => (c.advance, true)
  | .rawText => (c.leave.withMode c.afterRaw, true)
  | .tableText => (c.placeHeld, true)
  | .columns => (c.leaveColumns, true)
  | _ => (c, false)

def finish : Nat → Construction → Construction
  | 0, c => c
  | fuel + 1, c =>
    let next := c.finishStep
    if next.2 then finish fuel next.1 else next.1

/-- Reads the whole input. -/
def read (c : Construction) (text : List Char) : Construction :=
  match _h : token? c.reading c.isForeign text with
  | none => finish 24 c
  | some (token, rest) => (c.feed token).read rest
termination_by text.length
decreasing_by exact length_token? _h

end Construction

/-- The elements of a text of markup, if the document can hold all that is written in it. -/
def elements? (text : List Char) : Option (List Element) :=
  let constructed := Construction.read {} (unifyLineEnds text)
  if constructed.sound then some constructed.outline.elements else none

/-- What markup fails with that holds a character which a document cannot hold. -/
def forbiddenCharacter : Failure :=
  .builtIn "ValueError"
    "All strings must be XML compatible: Unicode or ASCII, no NULL bytes or control characters"

/-- The elements of a text of markup, or the failure to hold it. -/
def elements (text : List Char) : Except Failure (List Element) :=
  match elements? text with
  | some elements => .ok elements
  | none => .error forbiddenCharacter

end Pruner.Markup
