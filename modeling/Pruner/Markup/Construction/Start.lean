import Pruner.Markup.Construction.End

/-!
# Start tags

A start tag opens its element, after closing what the element does not nest in and opening what it
implies. A tag that has no place where it stands is ignored.
-/

namespace Pruner.Markup.Construction

open Vocabulary

def blockFrames (c : Construction) : Construction :=
  { c with framesAllowed := false }

/-- Takes an implied end tag. -/
def imply (c : Construction) (name : String) : Construction :=
  (c.takeEnd name).1

/-! ### In the head -/

def startScript (c : Construction) (tag : Tag) : Construction :=
  c.enterRaw tag .script

def startRaw (c : Construction) (tag : Tag) : Construction :=
  c.enterRaw tag (.raw tag.name)

def startInHead (c : Construction) (tag : Tag) : Step :=
  match tag.name with
  | "html" => (c.mergeRoot tag, false)
  | "title" => (c.enterRaw tag (.replaceable tag.name), false)
  | "noframes" | "style" => (c.startRaw tag, false)
  | "noscript" => ((c.enterTag tag).withMode .noscript, false)
  | "script" => (c.startScript tag, false)
  | "base" | "basefont" | "bgsound" | "command" | "link" | "meta" => (c.addTag tag, false)
  | "head" => (c, false)
  | _ => (c.leaveHead, true)

def startInNoscript (c : Construction) (tag : Tag) : Step :=
  if tag.name = "html" then (c.mergeRoot tag, false)
  else if noscriptTags.contains tag.name then c.startInHead tag
  else if tag.name = "head" ∨ tag.name = "noscript" then (c, false)
  else (c.leaveNoscript, true)

/-- Puts an element into the head that has been left. -/
def startLate (c : Construction) (tag : Tag) : Construction :=
  let inside := ({ c with nodes := c.head.toList ++ c.nodes }.startInHead tag).1
  { inside with nodes := inside.nodes.eraseP (·.isNamed ["head"]) }

def startAfterHead (c : Construction) (tag : Tag) : Step :=
  if tag.name = "html" then (c.mergeRoot tag, false)
  else if tag.name = "body" then ((c.blockFrames.enterTag tag).withMode .body, false)
  else if tag.name = "frameset" then ((c.enterTag tag).withMode .frameset, false)
  else if lateHeadTags.contains tag.name then (c.startLate tag, false)
  else if tag.name = "head" then (c, false)
  else (c.openBody, true)

/-! ### Blocks and inline elements -/

def startBody (c : Construction) (tag : Tag) : Construction :=
  match c.body? with
  | some body => c.blockFrames.mergeAttributes body tag
  | none => c

/-- Frames take the place of a body that has no content yet. -/
def startFrames (c : Construction) (tag : Tag) : Construction :=
  match c.framesAllowed, c.body? with
  | true, some body =>
    let bare := { c with
      outline := c.outline.prune body.key
      nodes := closeUpTo (·.isNamed ["html"]) c.nodes }
    (bare.enterTag tag).withMode .frameset
  | _, _ => c

def startBlock (c : Construction) (tag : Tag) : Construction :=
  c.endParagraph.enterTag tag

def startHeading (c : Construction) (tag : Tag) : Construction :=
  let left := c.endParagraph
  { left with nodes := closeCurrent headings left.nodes }.enterTag tag

def startPreformatted (c : Construction) (tag : Tag) : Construction :=
  { (c.startBlock tag).blockFrames with dropsLineEnd := true }

def startForm (c : Construction) (tag : Tag) : Construction :=
  if c.form.isSome then c
  else
    let entered := c.startBlock tag
    { entered with form := entered.current?.map (·.key) }

/-- The items that a new list item ends. -/
def siblingItems (name : String) : List String :=
  if name = "li" then ["li"] else ["dd", "dt"]

def startItem (c : Construction) (tag : Tag) : Construction :=
  let siblings := siblingItems tag.name
  let blocked := c.blockFrames
  let alone :=
    if reaches (·.isNamed siblings) Node.boundsItem blocked.nodes then
      match blocked.nodes.find? (·.isNamed siblings) with
      | some n => blocked.imply n.name
      | none => blocked
    else blocked
  let left := if alone.hasParagraph then alone.imply "p" else alone
  left.enterTag tag

def startPlaintext (c : Construction) (tag : Tag) : Construction :=
  { c.startBlock tag with reading := .plain }

/-- An anchor ends an anchor that is still open. -/
def startAnchor (c : Construction) (tag : Tag) : Construction :=
  let alone :=
    match c.formatted? "a" with
    | none => c
    | some n =>
      let ended := (endFormatting "a" 8 c).forget n
      { ended with nodes := ended.nodes.eraseP (·.key == n.key) }
  alone.resume.enterFormatting tag

def startNobr (c : Construction) (tag : Tag) : Construction :=
  let resumed := c.resume
  let alone :=
    if resumed.hasInScope "nobr" then (endFormatting "nobr" 8 resumed).resume else resumed
  alone.enterFormatting tag

def startButton (c : Construction) (tag : Tag) : Step :=
  if c.hasInScope "button" then (c.endBlock "button", true)
  else ((c.resume.enterTag tag).blockFrames, false)

def startVoid (c : Construction) (tag : Tag) : Construction :=
  (c.resume.addTag tag).blockFrames

def startInput (c : Construction) (tag : Tag) : Construction :=
  let added := c.startVoid tag
  if tag.isHidden then { added with framesAllowed := c.framesAllowed } else added

def startRule (c : Construction) (tag : Tag) : Construction :=
  (c.endParagraph.addTag tag).blockFrames

def startOther (c : Construction) (tag : Tag) : Construction :=
  c.resume.enterTag tag

/-! ### Elements with implied contents -/

def indexPrompt : String :=
  "This is a searchable index. Enter search keywords: "

/-- The attributes of the input that an index consists of. -/
def indexAttributes (tag : Tag) : List Attribute :=
  let kept := tag.attributes.filter fun a => a.name != "action" && a.name != "prompt"
  if kept.any (·.name == "name") then
    kept.map fun a => if a.name == "name" then ⟨a.name, "isindex"⟩ else a
  else kept ++ [⟨"name", "isindex"⟩]

/-- An index is a form with a prompt and an input between two rules. -/
def startIndex (c : Construction) (tag : Tag) : Construction :=
  if c.form.isSome then c
  else
    let form := tag.attributes.filter (·.name == "action")
    let labelled := ((c.startForm ⟨"form", form, false⟩).startRule ⟨"hr", [], false⟩).startOther
      ⟨"label", [], false⟩
    let prompted := labelled.bodyText ((tag.value? "prompt").getD indexPrompt).toList
    let asked := prompted.startInput ⟨"input", indexAttributes tag, tag.selfClosing⟩
    ((asked.endOther "label").startRule ⟨"hr", [], false⟩).endForm

def startTextarea (c : Construction) (tag : Tag) : Construction :=
  { (c.enterTag tag).blockFrames with reading := .replaceable tag.name, dropsLineEnd := true }

def startSelect (c : Construction) (tag : Tag) : Construction :=
  let entered := (c.resume.enterTag tag).blockFrames
  entered.withMode (if c.mode.isInTable then .selectInTable else .select)

def startRuby (c : Construction) (tag : Tag) : Construction :=
  let left := if c.hasInScope "ruby" then { c with nodes := closeImplied "" c.nodes } else c
  left.enterTag tag

def startOption (c : Construction) (tag : Tag) : Construction :=
  let left := if c.currentIsNamed ["option"] then c.imply "option" else c
  left.resume.enterTag tag

def startTable (c : Construction) (tag : Tag) : Construction :=
  let left := if c.legacy then c else c.endParagraph
  (left.enterTag tag).blockFrames.withMode .table

/-! ### In the body -/

def startInBody (c : Construction) (tag : Tag) : Step :=
  match Opening.of tag.name with
  | .root => (c.mergeRoot tag, false)
  | .metadata => c.startInHead tag
  | .body => (c.startBody tag, false)
  | .frameset => (c.startFrames tag, false)
  | .block => (c.startBlock tag, false)
  | .heading => (c.startHeading tag, false)
  | .preformatted => (c.startPreformatted tag, false)
  | .form => (c.startForm tag, false)
  | .item => (c.startItem tag, false)
  | .plaintext => (c.startPlaintext tag, false)
  | .anchor => (c.startAnchor tag, false)
  | .formatting => (c.resume.enterFormatting tag, false)
  | .nobr => (c.startNobr tag, false)
  | .button => c.startButton tag
  | .embedded => ((c.resume.enterTag tag).addBound.blockFrames, false)
  | .example => (c.endParagraph.resume.blockFrames.startRaw tag, false)
  | .table => (c.startTable tag, false)
  | .void => (c.startVoid tag, false)
  | .input => (c.startInput tag, false)
  | .parameter => (c.addTag tag, false)
  | .rule => (c.startRule tag, false)
  | .image => (c.startVoid { tag with name := "img" }, false)
  | .index => (c.startIndex tag, false)
  | .textarea => (c.startTextarea tag, false)
  | .inlineFrame => (c.blockFrames.startRaw tag, false)
  | .raw => (c.startRaw tag, false)
  | .select => (c.startSelect tag, false)
  | .ruby => (c.startRuby tag, false)
  | .option => (c.startOption tag, false)
  | .math => (c.resume.enterForeign .math tag, false)
  | .svg => (c.resume.enterForeign .svg tag, false)
  | .misplaced => (c, false)
  | .other => (c.startOther tag, false)

/-! ### In tables -/

/-- Closes what is open inside the table. -/
def clearToTable (c : Construction) : Construction :=
  { c with nodes := closeUpTo (·.isNamed ["html", "table"]) c.nodes }

def startColumns (c : Construction) (attributes : List Attribute) : Construction :=
  (c.clearToTable.enter .html "colgroup" attributes).withMode .columns

def startSection (c : Construction) (name : String) (attributes : List Attribute) : Construction :=
  (c.clearToTable.enter .html name attributes).withMode .tableSection

def startTableForm (c : Construction) (tag : Tag) : Construction :=
  if c.form.isSome then c
  else
    let entered := c.enterTag tag
    { entered.leave with form := entered.current?.map (·.key) }

def startInTable (c : Construction) (tag : Tag) : Step :=
  let attributes := Space.html.attributes tag.attributes
  if tag.name = "html" then (c.mergeRoot tag, false)
  else if tag.name = "caption" then
    ((c.clearToTable.addBound.enterTag tag).withMode .caption, false)
  else if tag.name = "colgroup" then (c.startColumns attributes, false)
  else if tag.name = "col" then (c.startColumns [], true)
  else if tableSections.contains tag.name then (c.startSection tag.name attributes, false)
  else if tableParts.contains tag.name then (c.startSection "tbody" [], true)
  else if tag.name = "table" then (c.imply "table", true)
  else if tag.name = "style" ∨ tag.name = "script" then c.startInHead tag
  else if tag.name = "input" ∧ tag.isHidden then (c.addTag tag, false)
  else if tag.name = "form" then (c.startTableForm tag, false)
  else (foster (fun d => (d.startInBody tag).1) c, false)

def startInCaption (c : Construction) (tag : Tag) : Step :=
  if tableParts.contains tag.name then
    if c.hasInTable "caption" then (c.closeCaption, true) else (c, false)
  else c.startInBody tag

def startInColumns (c : Construction) (tag : Tag) : Step :=
  if tag.name = "html" then (c.mergeRoot tag, false)
  else if tag.name = "col" then (c.addTag tag, false)
  else (c.leaveColumns, true)

def startRow (c : Construction) (attributes : List Attribute) : Construction :=
  let cleared := { c with nodes := closeUpTo (·.isNamed ("html" :: tableSections)) c.nodes }
  (cleared.enter .html "tr" attributes).withMode .row

def startInSection (c : Construction) (tag : Tag) : Step :=
  if tag.name = "tr" then (c.startRow (Space.html.attributes tag.attributes), false)
  else if tableCells.contains tag.name then (c.startRow [], true)
  else if tableOuterParts.contains tag.name then
    if c.hasSection then (c.closeSection, true) else (c, false)
  else c.startInTable tag

def startCell (c : Construction) (tag : Tag) : Construction :=
  let cleared := { c with nodes := closeUpTo (·.isNamed ["html", "tr"]) c.nodes }
  ((cleared.enterTag tag).withMode .cell).addBound

def startInRow (c : Construction) (tag : Tag) : Step :=
  if tableCells.contains tag.name then (c.startCell tag, false)
  else if tableParts.contains tag.name then
    if c.hasInTable "tr" then (c.closeRow, true) else (c, false)
  else c.startInTable tag

def startInCell (c : Construction) (tag : Tag) : Step :=
  if tableParts.contains tag.name then
    if tableCells.any c.hasInTable then (c.closeAnyCell, true) else (c, false)
  else c.startInBody tag

/-! ### In selections -/

def startInSelect (c : Construction) (tag : Tag) : Step :=
  match tag.name with
  | "html" => (c.mergeRoot tag, false)
  | "option" => ({ c with nodes := closeCurrent ["option"] c.nodes }.enterTag tag, false)
  | "optgroup" =>
    let nodes := closeCurrent ["optgroup"] (closeCurrent ["option"] c.nodes)
    ({ c with nodes }.enterTag tag, false)
  | "select" => (c.endSelect, false)
  | "input" | "keygen" | "textarea" => (c.endSelect, true)
  | "script" => (c.startScript tag, false)
  | _ => (c, false)

def startInTableSelect (c : Construction) (tag : Tag) : Step :=
  if selectEnders.contains tag.name then (c.endSelect, true) else c.startInSelect tag

/-! ### In every mode -/

def startInFrameset (c : Construction) (tag : Tag) : Step :=
  match tag.name with
  | "html" => (c.mergeRoot tag, false)
  | "frameset" => (c.enterTag tag, false)
  | "frame" => (c.addTag tag, false)
  | "noframes" => (c.startRaw tag, false)
  | _ => (c, false)

def startAfterFrames (c : Construction) (tag : Tag) : Step :=
  match tag.name with
  | "html" => (c.mergeRoot tag, false)
  | "noframes" => (c.startRaw tag, false)
  | _ => (c, false)

/-- Takes a start tag. -/
def takeStart (c : Construction) (tag : Tag) : Step :=
  match c.mode with
  | .initial | .beforeRoot => (c.advance, true)
  | .beforeHead =>
    if tag.name = "html" then (c.mergeRoot tag, false)
    else if tag.name = "head" then
      (c.openHead (Space.html.attributes tag.attributes), false)
    else (c.advance, true)
  | .head => c.startInHead tag
  | .noscript => c.startInNoscript tag
  | .afterHead => c.startAfterHead tag
  | .body => c.startInBody tag
  | .rawText => (c, false)
  | .table => c.startInTable tag
  | .tableText => (c.placeHeld, true)
  | .caption => c.startInCaption tag
  | .columns => c.startInColumns tag
  | .tableSection => c.startInSection tag
  | .row => c.startInRow tag
  | .cell => c.startInCell tag
  | .select => c.startInSelect tag
  | .selectInTable => c.startInTableSelect tag
  | .afterBody | .afterDocument =>
    if tag.name = "html" then (c.mergeRoot tag, false) else (c.withMode .body, true)
  | .frameset => c.startInFrameset tag
  | .afterFrameset | .afterFrames => c.startAfterFrames tag

end Pruner.Markup.Construction
