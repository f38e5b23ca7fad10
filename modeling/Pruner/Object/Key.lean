import Pruner.Text.Blank
import Pruner.Text.Quoted
import Pruner.Text.Word

/-!
# Property keys

The key of one property of an object literal: quoted or plain before a single colon, or, where
shorthand properties count, a lone identifier. Spreads, computed keys and methods have none.
-/

namespace Pruner.Object

open Text

def isKeyStart (c : Char) : Bool :=
  c.isAlpha || c == '_' || c == '$'

def isIdentifierChar (c : Char) : Bool :=
  isWord c || c == '$'

/-- A plain key may hold hyphens, which no identifier does. -/
def isKeyChar (c : Char) : Bool :=
  isIdentifierChar c || c == '-'

/-- Whether blanks and a colon come next. A double colon is no key's end. -/
def colonFollows (rest : List Char) : Bool :=
  match rest.drop (blanks rest) with
  | ':' :: ':' :: _ => false
  | ':' :: _ => true
  | _ => false

/-- A key in front of a colon. The key of a quoted property is what stands between the quotes, with
escapes as they are written. -/
def explicitKey? : List Char → Option (List Char)
  | [] => none
  | c :: cs =>
    if isValueQuote c then
      match quotedLength? c cs with
      | some n => if colonFollows (cs.drop n) then some (cs.take (n - 1)) else none
      | none => none
    else if isKeyStart c then
      if colonFollows (cs.dropWhile isKeyChar) then some (c :: cs.takeWhile isKeyChar) else none
    else none

/-- A lone identifier. -/
def shorthandKey? : List Char → Option (List Char)
  | [] => none
  | c :: cs =>
    if isKeyStart c && (cs.dropWhile isIdentifierChar).all isBlank then
      some (c :: cs.takeWhile isIdentifierChar)
    else none

/-- The key at the very start of a property. -/
def leadingKey? (shorthand : Bool) (property : List Char) : Option (List Char) :=
  (explicitKey? property).or (if shorthand then shorthandKey? property else none)

/-- The key of a property, which may have blanks in front. -/
def key? (shorthand : Bool) (property : List Char) : Option (List Char) :=
  leadingKey? shorthand (property.drop (blanks property))

end Pruner.Object
