import Pruner.Markup.Construction.Formatting

/-!
# Text and comments

Where text goes, and what it implies: text in front of the body opens the body, and text directly
inside a table goes in front of the table unless it is nothing but space.
-/

namespace Pruner.Markup.Construction

open Vocabulary

/-! ### What is implied before the body -/

def openRoot (c : Construction) : Construction :=
  { c.enterImplied "html" with mode := .beforeHead }

def openHead (c : Construction) (attributes : List Attribute) : Construction :=
  let entered := c.enter .html "head" attributes
  { entered with head := entered.current?, mode := .head }

def leaveHead (c : Construction) : Construction :=
  { c.leave with mode := .afterHead }

def leaveNoscript (c : Construction) : Construction :=
  { c.leave with mode := .head }

def openBody (c : Construction) : Construction :=
  { c.enterImplied "body" with mode := .body, framesAllowed := true }

def leaveColumns (c : Construction) : Construction :=
  { c.leave with mode := .table }

/-- Opens what has to be there before content can come: one step towards the body. -/
def advance (c : Construction) : Construction :=
  match c.mode with
  | .initial => { c with mode := .beforeRoot, legacy := true }
  | .beforeRoot => c.openRoot
  | .beforeHead => c.openHead []
  | .head => c.leaveHead
  | .noscript => c.leaveNoscript
  | .afterHead => c.openBody
  | _ => c

/-! ### Text in the body -/

def bodyText (c : Construction) (text : List Char) : Construction :=
  if text = ['\x00'] then c
  else
    let added := c.resume.addText text
    { added with framesAllowed := added.framesAllowed && text.all isSpace }

/-- Space in the body. A line end right behind the tag of a preformatted element is dropped. -/
def bodySpace (c : Construction) (text : List Char) : Construction :=
  let drops := c.dropsLineEnd && text.head? == some '\n' &&
    c.current?.any fun n => n.isNamed preformatted && c.outline.isVacant n.key
  let kept := if drops then text.drop 1 else text
  let settled := { c with dropsLineEnd := false }
  if kept.isEmpty then settled else settled.resume.addText kept

/-! ### Text in tables -/

/-- Runs a step while what does not belong into a table goes in front of it. -/
def foster (step : Construction → Construction) (c : Construction) : Construction :=
  { step { c with fostering := true } with fostering := false }

def holdMore (c : Construction) (text : List Char) : Construction :=
  if text = ['\x00'] then c else { c with pending := c.pending ++ text }

/-- Holds text back until it is known whether it is nothing but space. -/
def holdText (c : Construction) (text : List Char) : Construction :=
  { c with mode := .tableText, afterText := c.mode, pending := [] }.holdMore text

/-- Places the text that was held back. -/
def placeHeld (c : Construction) : Construction :=
  let text := c.pending
  let settled := { c with mode := c.afterText, pending := [] }
  if text.all isSpace then settled.addText text else foster (·.bodyText text) settled

/-! ### Text in every mode -/

/-- What a step does, and whether the token is to be taken once more. -/
abbrev Step := Construction × Bool

/-- Text other than space. -/
def takeText (c : Construction) (text : List Char) : Step :=
  match c.mode with
  | .initial | .beforeRoot | .beforeHead | .head | .noscript | .afterHead => (c.advance, true)
  | .body | .caption | .cell => (c.bodyText text, false)
  | .rawText => (c.addText text, false)
  | .table | .tableSection | .row => (c.holdText text, false)
  | .tableText => (c.holdMore text, false)
  | .columns => (c.leaveColumns, true)
  | .select | .selectInTable => (if text = ['\x00'] then c else c.addText text, false)
  | .afterBody | .afterDocument => ({ c with mode := .body }, true)
  | .frameset | .afterFrameset | .afterFrames => (c, false)

def takeSpace (c : Construction) (text : List Char) : Construction :=
  match c.mode with
  | .initial | .beforeRoot | .beforeHead => c
  | .body | .afterDocument | .afterFrames => c.bodySpace text
  | .table | .tableSection | .row => c.holdText text
  | .tableText => c.holdMore text
  | _ => c.addText text

/-- Text inside graphics and formulas. -/
def takeForeignText (c : Construction) (text : List Char) : Construction :=
  if text = ['\x00'] then c.addText ['\ufffd']
  else { c.addText text with framesAllowed := c.framesAllowed && text.all isSpace }

/-- Comments are of interest only as content of the element they stand in, which behind the body is
none of those that are open. -/
def takeComment (c : Construction) (text : List Char) : Construction :=
  match c.mode with
  | .tableText => c.placeHeld.addComment text
  | .afterBody | .afterDocument | .afterFrames =>
    { c with sound := c.sound && text.all isStorable }
  | _ => c.addComment text

end Pruner.Markup.Construction
