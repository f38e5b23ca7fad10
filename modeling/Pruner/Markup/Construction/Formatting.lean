import Pruner.Markup.Construction.State

/-!
# Formatting elements

Formatting reaches beyond the elements it was opened in. An element that was closed from outside is
opened again, as a copy, before the next text or element of the body. An end tag that finds other
elements between itself and its element moves them: the element is split so that it covers the same
text as before and no more.
-/

namespace Pruner.Markup.Construction

/-! ### The list of formatting elements -/

def isOpen (c : Construction) (n : Node) : Bool :=
  c.nodes.any (·.key == n.key)

/-- Whether an entry of the list is an element that was closed from outside. -/
def isDormant (c : Construction) : Option Node → Bool
  | none => false
  | some n => !c.isOpen n

def holdsKey (key : Nat) (entry : Option Node) : Bool :=
  entry.any (·.key == key)

/-- The newest elements of the list, back to the last bound. -/
def active (c : Construction) : List Node :=
  (c.formatting.reverse.takeWhile Option.isSome).filterMap id

/-- The newest element of a name. -/
def formatted? (c : Construction) (name : String) : Option Node :=
  c.active.find? (·.name == name)

def forget (c : Construction) (n : Node) : Construction :=
  { c with formatting := c.formatting.eraseP (holdsKey n.key) }

/-- Adds the innermost element to the list, in which at most three are alike. -/
def noteFormatting (c : Construction) : Construction :=
  match c.current? with
  | none => c
  | some n =>
    let alike := c.active.filter (·.matchesFormat n)
    let room := if alike.length < 3 then c else (alike[2]?.map c.forget).getD c
    { room with formatting := room.formatting ++ [some n] }

def enterFormatting (c : Construction) (tag : Tag) : Construction :=
  (c.enterTag tag).noteFormatting

def addBound (c : Construction) : Construction :=
  { c with formatting := c.formatting ++ [none] }

/-- Forgets the elements back to the last bound, and the bound. -/
def forgetActive (c : Construction) : Construction :=
  { c with formatting := ((c.formatting.reverse.dropWhile Option.isSome).drop 1).reverse }

/-- Opens a copy of an element and puts it into the list. -/
def reopen (c : Construction) : Option Node → Construction
  | none => c
  | some n =>
    let entered := c.enter n.space n.name n.attributes
    { entered with formatting := entered.formatting ++ [entered.current?] }

/-- Opens the elements again that were closed from outside since the last one that is open. -/
def resume (c : Construction) : Construction :=
  let dormant := (c.formatting.reverse.takeWhile c.isDormant).length
  let kept := c.formatting.length - dormant
  (c.formatting.drop kept).foldl reopen { c with formatting := c.formatting.take kept }

/-! ### Splitting an element -/

/-- The movement of a block out of formatting elements, from the innermost outward. `moved` is the
branch that moves, `place` where the split element goes in the list. -/
structure Move where
  construction : Construction
  moved : Nat
  place : Nat

/-- A copy of an element, not yet in the outline. -/
def copy (c : Construction) (n : Node) : Node :=
  { n with key := c.fresh }

def indexOf (entries : List (Option Node)) (n : Node) : Nat :=
  entries.findIdx (holdsKey n.key)

/-- The outline with one branch moved below an element that is put in for it. -/
def wrapMoved (o : Outline) (top : Node) (moved : Nat) : Outline :=
  let branch := o.branch moved
  let entry : Entry := { key := top.key, element := top.element }
  o.prune moved ++ entry :: Outline.rebase 1 (Outline.markFostered false branch)

namespace Move

/-- Takes the moving branch under a copy of the formatting element `n`. -/
def under (m : Move) (block n : Node) : Move :=
  let c := m.construction
  let twin := c.copy n
  let replace (k : Node) : Node := if k.key = n.key then twin else k
  { construction := { c with
      outline := wrapMoved c.outline twin m.moved
      fresh := c.fresh + 1
      nodes := c.nodes.map replace
      formatting := c.formatting.map (·.map replace) }
    moved := twin.key
    place := if m.moved = block.key then indexOf c.formatting n + 1 else m.place }

/-- Goes outward from the block through at most `steps` of the elements between it and the split
one. Elements that are no formatting elements are closed on the way. -/
def outward (block : Node) : Nat → List Node → Move → Move
  | 0, _, m => m
  | _, [], m => m
  | steps + 1, n :: between, m =>
    if m.construction.formatting.any (holdsKey n.key) then
      outward block steps between (m.under block n)
    else
      let c := m.construction
      outward block steps between
        { m with construction := { c with nodes := c.nodes.eraseP (·.key == n.key) } }

end Move

/-- Puts the moved branch below an element, or in front of the table if that element is part of
one. -/
def settleMoved (c : Construction) (parent : Node) (moved : Nat) : Construction :=
  let branch := c.outline.branch moved
  let left := c.outline.prune moved
  if parent.isNamed Vocabulary.tableHosts then
    match c.nodes.find? (·.isNamed ["table"]) with
    | some table => { c with outline := left.addBefore table.key branch }
    | none => c
  else { c with outline := left.addBelow parent.key branch }

/-- Puts a copy of the split element around the contents of the block, and in its place in both
lists. -/
def splitAround (c : Construction) (n block : Node) (place : Nat) : Construction :=
  let twin := c.copy n
  let others := c.formatting.eraseP (holdsKey n.key)
  let nodes := c.nodes.eraseP (·.key == n.key)
  { c with
    outline := c.outline.wrapBelow block.key { key := twin.key, element := twin.element }
    fresh := c.fresh + 1
    nodes := nodes.takeWhile (·.key != block.key) ++ twin :: nodes.dropWhile (·.key != block.key)
    formatting := others.take place ++ some twin :: others.drop place }

/-- Splits an open formatting element at the outermost special element inside it; if there is none,
closes it. The answer tells whether it was split. -/
def split (c : Construction) (n : Node) : Construction × Bool :=
  let inner := c.nodes.takeWhile (·.key != n.key)
  match inner.reverse.find? Node.isSpecial, (c.nodes.dropWhile (·.key != n.key))[1]? with
  | some block, some parent =>
    let between := (inner.dropWhile (·.key != block.key)).drop 1
    let start : Move := ⟨c, block.key, indexOf c.formatting n⟩
    let ended := Move.outward block 3 between start
    ((ended.construction.settleMoved parent ended.moved).splitAround n block ended.place, true)
  | _, _ => ({ c with nodes := closeThrough (·.key == n.key) c.nodes }.forget n, false)

/-- The end of an ordinary element that the end tag names. -/
def endOther (c : Construction) (name : String) : Construction :=
  if reaches (·.isNamed [name]) Node.isSpecial c.nodes then c.closeExactly name else c

/-- The end tag of a formatting element, in at most so many rounds. -/
def endFormatting (name : String) : Nat → Construction → Construction
  | 0, c => c
  | rounds + 1, c =>
    match c.formatted? name with
    | none => c.endOther name
    | some n =>
      if !c.isOpen n then c.forget n
      else if !c.hasInScope name then c.endOther name
      else
        let next := c.split n
        if next.2 then endFormatting name rounds next.1 else next.1

end Pruner.Markup.Construction
