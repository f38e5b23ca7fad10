import Pruner.Markup.Construction.Run
import Pruner.Proofs.Markup.Tag

/-!
# Documents of one block

Markup that begins with a `div` tag gets its root, head and body implied: the tag is taken again in one
mode after the other until it stands in the body. There the block opens. What is left to read is its
end tag, or nothing.
-/

namespace Pruner.Markup

open Vocabulary Construction

/-! ### On the way to the body -/

theorem tag_html : Space.html.tag "html" = "html" := by
  decide +kernel

theorem tag_head : Space.html.tag "head" = "head" := by
  decide +kernel

theorem tag_body : Space.html.tag "body" = "body" := by
  decide +kernel

theorem tag_div : Space.html.tag "div" = "div" := by
  decide +kernel

theorem readName_div : readName "div".toList = "div" := by
  decide +kernel

theorem endsTagName_div : ∀ c ∈ "div".toList, endsTagName c = false := by
  simp [endsTagName, isSpace]

namespace Construction

/-- The state in which the body is open and empty. -/
def bodyStart : Construction where
  mode := .body
  legacy := true
  outline := [⟨0, 0, ⟨"html", []⟩, false, false⟩, ⟨1, 1, ⟨"head", []⟩, false, false⟩,
    ⟨2, 1, ⟨"body", []⟩, false, false⟩]
  fresh := 3
  nodes := [⟨2, .html, "body", []⟩, ⟨0, .html, "html", []⟩]
  head := some ⟨1, .html, "head", []⟩

theorem advance_to_body :
    ({} : Construction).advance.advance.advance.advance.advance = bodyStart := by
  simp [advance, openRoot, openHead, leaveHead, openBody, enterImplied, enter, place, current?,
    fosters, leave, Outline.addBelow, Outline.below, Outline.beyond, Outline.rebase,
    Outline.markFostered, Node.element, tag_html, tag_head, tag_body, bodyStart, areStorable]

/-- The modes in front of the body. -/
def IsFront (mode : Mode) : Prop :=
  mode = .initial ∨ mode = .beforeRoot ∨ mode = .beforeHead ∨ mode = .head ∨ mode = .afterHead

theorem takeStart_div {c : Construction} (h : IsFront c.mode) {tag : Tag} (htag : tag.name = "div") :
    c.takeStart tag = (c.advance, true) := by
  rcases h with h | h | h | h | h <;>
    simp [takeStart, h, htag, advance, startInHead, startAfterHead, lateHeadTags]

theorem take_ordinary {c : Construction} (h : c.isForeign = false) (token : Token) :
    c.take token = c.takeOrdinary token := by
  rw [take]
  split
  · rfl
  · rename_i n hn
    have hforeign : n.isForeign = false := by simpa [isForeign, hn] using h
    rw [hforeign, Bool.false_and, if_neg Bool.false_ne_true]

theorem settle_front {c : Construction} (hmode : IsFront c.mode) (hforeign : c.isForeign = false)
    {tag : Tag} (htag : tag.name = "div") (fuel : Nat) :
    settle (fuel + 1) c (.start tag) = settle fuel c.advance (.start tag) := by
  rw [settle, take_ordinary hforeign, takeOrdinary, takeStart_div hmode htag]
  rfl

theorem startInBody_div (c : Construction) {tag : Tag} (htag : tag.name = "div") :
    c.startInBody tag = (c.startBlock tag, false) := by
  have hopening : Opening.of "div" = .block := by decide +kernel
  rw [startInBody, htag, hopening]

theorem settle_div {tag : Tag} (htag : tag.name = "div") (fuel : Nat) :
    settle (fuel + 6) {} (.start tag) = bodyStart.startBlock tag := by
  rw [settle_front (.inl rfl) rfl htag, settle_front (.inr (.inl rfl)) rfl htag,
    settle_front (.inr (.inr (.inl rfl))) rfl htag,
    settle_front (.inr (.inr (.inr (.inl rfl)))) rfl htag,
    settle_front (.inr (.inr (.inr (.inr rfl)))) rfl htag, advance_to_body, settle,
    take_ordinary rfl, takeOrdinary, takeStart, startInBody_div _ htag]
  rfl

/-! ### The block -/

/-- The state in which the block is open. -/
def opened (attributes : List Attribute) : Construction :=
  { bodyStart with
    outline := bodyStart.outline ++ [⟨3, 2, ⟨"div", attributes⟩, false, false⟩]
    fresh := 4
    nodes := ⟨3, .html, "div", attributes⟩ :: bodyStart.nodes
    sound := areStorable attributes }

theorem startBlock_div {tag : Tag} (htag : tag.name = "div") :
    bodyStart.startBlock tag = opened (Space.html.attributes tag.attributes) := by
  have hparagraph : bodyStart.hasParagraph = false := by decide +kernel
  rw [startBlock, endParagraph, hparagraph, if_neg Bool.false_ne_true]
  simp [enterTag, enter, place, current?, fosters, bodyStart, opened, Outline.addBelow,
    Outline.below, Outline.beyond, Outline.rebase, Outline.markFostered, Node.element, htag, tag_div]

theorem feed_div {tag : Tag} (htag : tag.name = "div") :
    feed {} (.start tag) = opened (Space.html.attributes tag.attributes) := by
  rw [← startBlock_div htag]
  exact settle_div htag 18

theorem feed_stop (attributes : List Attribute) :
    feed (opened attributes) (.stop "div") =
      { opened attributes with nodes := bodyStart.nodes } := by
  have hclosing : Closing.of "div" = .block := by decide +kernel
  have hfuel : 2 * (opened attributes).nodes.length + 24 = 29 + 1 := rfl
  rw [feed, hfuel, settle, take_ordinary rfl]
  simp [takeOrdinary, takeEnd, Token.isTag, opened, bodyStart, endBody, hclosing, endBlock,
    hasInScope, reaches, Node.isOneOf, Node.isForeign, close, closeThrough, closeImplied,
    Node.isNamed, impliedEnds]

/-! ### Reading -/

theorem read_none {c : Construction} {text : List Char}
    (h : token? c.reading c.isForeign text = none) : c.read text = finish 24 c := by
  rw [read]
  split
  · rfl
  · rename_i hsome
    rw [h] at hsome
    cases hsome

theorem read_some {c : Construction} {text rest : List Char} {token : Token}
    (h : token? c.reading c.isForeign text = some (token, rest)) :
    c.read text = (c.feed token).read rest := by
  rw [read]
  split
  · rename_i hnone
    rw [h] at hnone
    cases hnone
  · rename_i hsome
    rw [h] at hsome
    cases hsome
    rfl

theorem finish_body {c : Construction} (h : c.mode = .body) (fuel : Nat) : finish fuel c = c := by
  cases fuel with
  | zero => rfl
  | succ fuel => simp [finish, finishStep, h]

theorem read_opened (attributes : List Attribute) :
    (opened attributes).read [] = opened attributes := by
  rw [read_none rfl, finish_body rfl]

theorem read_opened_stop (attributes : List Attribute) :
    (opened attributes).read "</div>".toList =
      { opened attributes with nodes := bodyStart.nodes } := by
  have htag : tag? "div>".toList = some (⟨"div", [], false⟩, []) :=
    tag?_angle endsTagName_div []
  have htoken : token? .markup false "</div>".toList = some (.stop "div", []) := by
    show (tag? "div>".toList).map _ = _
    rw [htag]
    rfl
  rw [read_some htoken, feed_stop, read_none rfl, finish_body rfl]

theorem read_div {text rest : List Char} {tag : Tag} (htag : tag.name = "div")
    (h : tag? ('d' :: text) = some (tag, rest)) :
    read {} ('<' :: 'd' :: text) = (opened (Space.html.attributes tag.attributes)).read rest := by
  have htoken : token? .markup false ('<' :: 'd' :: text) = some (.start tag, rest) := by
    show (tag? ('d' :: text)).map _ = _
    rw [h]
    rfl
  rw [read_some htoken, feed_div htag]

end Construction

/-- The elements of a document that consists of one block. -/
def blockElements (attributes : List Attribute) : List Element :=
  [⟨"html", []⟩, ⟨"head", []⟩, ⟨"body", []⟩, ⟨"div", attributes⟩]

/-- A block makes one element, whether its end tag is written or not. -/
theorem elements?_div {content text rest : List Char} {tag : Tag}
    (hcontent : unifyLineEnds content = '<' :: 'd' :: text)
    (htag : tag? ('d' :: text) = some (tag, rest)) (hname : tag.name = "div")
    (hrest : rest = [] ∨ rest = "</div>".toList) :
    elements? content =
      if areStorable (Space.html.attributes tag.attributes) then
        some (blockElements (Space.html.attributes tag.attributes))
      else none := by
  rw [elements?, hcontent, read_div hname htag]
  rcases hrest with rfl | rfl
  · rw [read_opened]
    rfl
  · rw [read_opened_stop]
    rfl

end Pruner.Markup
