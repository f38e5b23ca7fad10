import Pruner.Markup.Construction.Text

/-!
# End tags

What an end tag closes depends on the mode. In the body it closes an element of its name that is in
scope. In a table it closes rows, sections and cells as far as need be; a tag that means nothing
there is taken as in the body.
-/

namespace Pruner.Markup.Construction

open Vocabulary

def withMode (c : Construction) (mode : Mode) : Construction :=
  { c with mode }

/-! ### In the body -/

/-- The end tag of a paragraph that is not open stands for an empty one. -/
def endParagraphTag (c : Construction) : Construction :=
  if c.hasParagraph then c.closeExactly "p" else (c.enterImplied "p").closeExactly "p"

def endBlock (c : Construction) (name : String) : Construction :=
  let settled := if name = "pre" then { c with dropsLineEnd := false } else c
  if settled.hasInScope name then settled.close name else settled

def endForm (c : Construction) : Construction :=
  let left := { c with form := none }
  match c.form with
  | none => left
  | some key =>
    if reaches (·.key == key) Node.boundsScope c.nodes then
      { left with nodes := (closeImplied "" c.nodes).eraseP (·.key == key) }
    else left

def endItem (c : Construction) (name : String) : Construction :=
  let barrier := if name = "li" then Node.boundsList else Node.boundsScope
  if reaches (·.isOneOf [name]) barrier c.nodes then c.closeExactly name else c

def endHeading (c : Construction) : Construction :=
  if reaches (·.isOneOf headings) Node.boundsScope c.nodes then
    { c with nodes := closeThrough (·.isNamed headings) (closeImplied "" c.nodes) }
  else c

def endEmbedded (c : Construction) (name : String) : Construction :=
  if c.hasInScope name then (c.close name).forgetActive else c

def endBody (c : Construction) (name : String) : Step :=
  match Closing.of name with
  | .body => (if c.hasInScope "body" then c.withMode .afterBody else c, false)
  | .root => if c.hasInScope "body" then (c.withMode .afterBody, true) else (c, false)
  | .block => (c.endBlock name, false)
  | .form => (c.endForm, false)
  | .paragraph => (c.endParagraphTag, false)
  | .item => (c.endItem name, false)
  | .heading => (c.endHeading, false)
  | .formatting => (endFormatting name 8 c, false)
  | .embedded => (c.endEmbedded name, false)
  | .lineBreak => ((c.resume.enterImplied "br").leave, false)
  | .other => (c.endOther name, false)

/-! ### In tables -/

def endTable (c : Construction) : Construction :=
  if c.hasInTable "table" then
    let closed := c.close "table"
    closed.withMode (Mode.within closed.nodes)
  else c

/-- An end tag directly inside a table. One that belongs to the body is taken as there, but not
taken again. -/
def endInTable (c : Construction) (name : String) : Step :=
  if name = "table" then (c.endTable, false)
  else if ("body" :: "html" :: tableParts).contains name then (c, false)
  else (foster (fun d => (d.endBody name).1) c, false)

def closeCaption (c : Construction) : Construction :=
  (c.close "caption").forgetActive.withMode .table

def endInCaption (c : Construction) (name : String) : Step :=
  if name = "caption" ∨ name = "table" then
    if c.hasInTable "caption" then (c.closeCaption, name = "table") else (c, false)
  else if ("body" :: "html" :: tableParts).contains name then (c, false)
  else c.endBody name

def endInColumns (c : Construction) (name : String) : Step :=
  if name = "col" then (c, false) else (c.leaveColumns, name ≠ "colgroup")

def hasSection (c : Construction) : Bool :=
  tableSections.any c.hasInTable

/-- Closes the section of the table that is open, with all that is in it. -/
def closeSection (c : Construction) : Construction :=
  { c with nodes := closeThrough (·.isNamed ("html" :: tableSections)) c.nodes, mode := .table }

def endInSection (c : Construction) (name : String) : Step :=
  if tableSections.contains name then
    (if c.hasInTable name then c.closeSection else c, false)
  else if name = "table" then
    if c.hasSection then (c.closeSection, true) else (c, false)
  else if ("body" :: "html" :: tableParts).contains name then (c, false)
  else c.endInTable name

/-- Closes the row that is open, with all that is in it. -/
def closeRow (c : Construction) : Construction :=
  { c with nodes := closeThrough (·.isNamed ["html", "tr"]) c.nodes, mode := .tableSection }

def endInRow (c : Construction) (name : String) : Step :=
  if name = "tr" ∨ name = "table" then
    if c.hasInTable "tr" then (c.closeRow, name = "table") else (c, false)
  else if tableSections.contains name then
    if c.hasInTable name then (c.closeRow, true) else (c, false)
  else if ("body" :: "html" :: tableParts).contains name then (c, false)
  else c.endInTable name

def closeCell (c : Construction) (name : String) : Construction :=
  (c.closeExactly name).forgetActive.withMode .row

/-- Closes the cell that is open, of whichever kind it is. -/
def closeAnyCell (c : Construction) : Construction :=
  if c.hasInTable "td" then c.closeCell "td"
  else if c.hasInTable "th" then c.closeCell "th"
  else c

def endInCell (c : Construction) (name : String) : Step :=
  if tableCells.contains name then
    (if c.hasInTable name then c.closeCell name else c, false)
  else if tableHosts.contains name then
    if c.hasInTable name then (c.closeAnyCell, true) else (c, false)
  else if ("body" :: "html" :: tableParts).contains name then (c, false)
  else c.endBody name

/-! ### In selections -/

def endSelect (c : Construction) : Construction :=
  if reaches (·.isOneOf ["select"]) Node.boundsSelect c.nodes then
    let nodes := closeThrough (·.isNamed ["select"]) c.nodes
    { c with nodes, mode := Mode.within nodes }
  else c

/-- The end of a group of options, with the option that is open in it. -/
def endOptionGroup (nodes : List Node) : List Node :=
  match nodes with
  | n :: m :: _ =>
    if n.isNamed ["option"] && m.isNamed ["optgroup"] then nodes.drop 2
    else closeCurrent ["optgroup"] nodes
  | _ => nodes

def endInSelect (c : Construction) (name : String) : Step :=
  if name = "option" then ({ c with nodes := closeCurrent ["option"] c.nodes }, false)
  else if name = "optgroup" then ({ c with nodes := endOptionGroup c.nodes }, false)
  else if name = "select" then (c.endSelect, false)
  else (c, false)

def endInTableSelect (c : Construction) (name : String) : Step :=
  if selectEnders.contains name then
    if c.hasInTable name then (c.endSelect, true) else (c, false)
  else c.endInSelect name

/-! ### In every mode -/

def endFrameset (c : Construction) : Construction :=
  if c.currentIsNamed ["html"] then c
  else
    let left := c.leave
    if left.currentIsNamed ["frameset"] then left else left.withMode .afterFrameset

/-- Takes an end tag. -/
def takeEnd (c : Construction) (name : String) : Step :=
  match c.mode with
  | .initial => (c.advance, true)
  | .beforeRoot | .beforeHead =>
    if name = "head" ∨ bodyImpliers.contains name then (c.advance, true) else (c, false)
  | .head =>
    if name = "head" then (c.leaveHead, false)
    else if bodyImpliers.contains name then (c.leaveHead, true)
    else (c, false)
  | .noscript =>
    if name = "noscript" then (c.leaveNoscript, false)
    else if name = "br" then (c.leaveNoscript, true)
    else (c, false)
  | .afterHead => if bodyImpliers.contains name then (c.openBody, true) else (c, false)
  | .body => c.endBody name
  | .rawText => (c.leave.withMode c.afterRaw, false)
  | .table => c.endInTable name
  | .tableText => (c.placeHeld, true)
  | .caption => c.endInCaption name
  | .columns => c.endInColumns name
  | .tableSection => c.endInSection name
  | .row => c.endInRow name
  | .cell => c.endInCell name
  | .select => c.endInSelect name
  | .selectInTable => c.endInTableSelect name
  | .afterBody =>
    if name = "html" then (c.withMode .afterDocument, false) else (c.withMode .body, true)
  | .frameset => (if name = "frameset" then c.endFrameset else c, false)
  | .afterFrameset => (if name = "html" then c.withMode .afterFrames else c, false)
  | .afterDocument => (c.withMode .body, true)
  | .afterFrames => (c, false)

end Pruner.Markup.Construction
