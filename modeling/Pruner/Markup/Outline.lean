import Pruner.Markup.Element

/-!
# Outlines

A document under construction is the list of its elements in document order, each with its depth.
What is below an element stands right behind it, as far as it is deeper. Elements are told apart by
their keys; an operation on a key that is not there changes nothing.
-/

namespace Pruner.Markup

/-- An element in its place. It is `filled` if text or a comment stands in it, and `fostered` if it
was put in front of a table instead of into it. -/
structure Entry where
  key : Nat
  depth : Nat := 0
  element : Element
  filled : Bool := false
  fostered : Bool := false
  deriving DecidableEq, Repr

abbrev Outline := List Entry

namespace Outline

/-- Of what follows an element of the given depth, the part that is below it. -/
def below (depth : Nat) (later : Outline) : Outline :=
  later.takeWhile (depth < ·.depth)

/-- Of what follows an element of the given depth, the part that is not below it. -/
def beyond (depth : Nat) (later : Outline) : Outline :=
  later.dropWhile (depth < ·.depth)

/-- A branch moved to another depth. -/
def rebase (depth : Nat) (branch : Outline) : Outline :=
  match branch with
  | [] => []
  | top :: _ => branch.map fun e => { e with depth := depth + (e.depth - top.depth) }

/-- A branch whose top is marked as fostered or not. -/
def markFostered (fostered : Bool) : Outline → Outline
  | [] => []
  | top :: rest => { top with fostered } :: rest

/-- The branch of an element: it and what is below it. -/
def branch (o : Outline) (key : Nat) : Outline :=
  match o with
  | [] => []
  | e :: es => if e.key = key then e :: below e.depth es else branch es key

/-- Takes the branch of an element out. -/
def prune (o : Outline) (key : Nat) : Outline :=
  match o with
  | [] => []
  | e :: es => if e.key = key then beyond e.depth es else e :: prune es key

/-- Puts a branch below an element, behind all that is there. -/
def addBelow (o : Outline) (key : Nat) (added : Outline) : Outline :=
  match o with
  | [] => []
  | e :: es =>
    if e.key = key then
      e :: (below e.depth es ++ rebase (e.depth + 1) (markFostered false added) ++
        beyond e.depth es)
    else e :: addBelow es key added

/-- Puts a branch in front of an element, at the depth of that element. -/
def addBefore (o : Outline) (key : Nat) (added : Outline) : Outline :=
  match o with
  | [] => []
  | e :: es =>
    if e.key = key then rebase e.depth (markFostered true added) ++ e :: es
    else e :: addBefore es key added

/-- Leaves out the branches at the given depth that were fostered. -/
def withoutFostered (depth : Nat) (skipping : Bool) : Outline → Outline
  | [] => []
  | e :: es =>
    let skips := if e.depth = depth then e.fostered else skipping
    if skips then withoutFostered depth skips es else e :: withoutFostered depth skips es

/-- Puts a new element between an element and all that is below it. What was fostered there is
lost. -/
def wrapBelow (o : Outline) (key : Nat) (wrapper : Entry) : Outline :=
  match o with
  | [] => []
  | e :: es =>
    if e.key = key then
      let moved := withoutFostered (e.depth + 1) false (below e.depth es)
      e :: { wrapper with depth := e.depth + 1 } ::
        (moved.map fun d => { d with depth := d.depth + 1 }) ++ beyond e.depth es
    else e :: wrapBelow es key wrapper

/-- Changes the entry of an element. -/
def adjust (o : Outline) (key : Nat) (f : Entry → Entry) : Outline :=
  o.map fun e => if e.key = key then f e else e

/-- Notes that text or a comment stands in an element. -/
def fill (o : Outline) (key : Nat) : Outline :=
  o.adjust key fun e => { e with filled := true }

def addAttributes (o : Outline) (key : Nat) (attributes : List Attribute) : Outline :=
  o.adjust key fun e =>
    { e with element := { e.element with attributes := e.element.attributes ++ attributes } }

def attributesOf (o : Outline) (key : Nat) : List Attribute :=
  ((o.find? (·.key == key)).map (·.element.attributes)).getD []

/-- Whether nothing stands in an element. -/
def isVacant (o : Outline) (key : Nat) : Bool :=
  match o.branch key with
  | [e] => !e.filled
  | _ => false

/-- The elements in document order. -/
def elements (o : Outline) : List Element :=
  o.map (·.element)

end Outline

end Pruner.Markup
