import Pruner.Markup.NamedCharacter

/-!
# Character references

A reference is an ampersand with a name or a number. The longest name counts. A name without its
semicolon is no reference inside an attribute value if a letter, a digit or an equals sign follows.
-/

namespace Pruner.Markup

/-- What the numbers from 128 to 159 refer to. -/
def legacyCodes : List Nat := [
  0x20ac, 0x81, 0x201a, 0x192, 0x201e, 0x2026, 0x2020, 0x2021, 0x2c6, 0x2030, 0x160, 0x2039,
  0x152, 0x8d, 0x17d, 0x8f, 0x90, 0x2018, 0x2019, 0x201c, 0x201d, 0x2022, 0x2013, 0x2014,
  0x2dc, 0x2122, 0x161, 0x203a, 0x153, 0x9d, 0x17e, 0x178]

/-- What a reference stands for, with its length after the ampersand. -/
structure Reference where
  chars : List Char
  length : Nat

namespace Reference

def ofCode (n : Nat) : Char :=
  if n = 0 then '\ufffd'
  else if 0x80 ≤ n ∧ n < 0xa0 then Char.ofNat (legacyCodes.getD (n - 0x80) n)
  else if (0xd800 ≤ n ∧ n < 0xe000) ∨ 0x10ffff < n then '\ufffd'
  else Char.ofNat n

def digitValue (c : Char) : Nat :=
  if c.isDigit then c.toNat - 48 else if c.isLower then c.toNat - 87 else c.toNat - 55

def isHexDigit (c : Char) : Bool :=
  c.isDigit || ('a' ≤ c && c ≤ 'f') || ('A' ≤ c && c ≤ 'F')

/-- The reference by number whose digits come next, after `mark` characters. -/
def numeric? (mark base : Nat) (isDigit : Char → Bool) (rest : List Char) : Option Reference :=
  let digits := rest.takeWhile isDigit
  if digits.isEmpty then none
  else
    let code := digits.foldl (fun n c => n * base + digitValue c) 0
    let semicolon := if rest[digits.length]? = some ';' then 1 else 0
    some ⟨[ofCode code], mark + digits.length + semicolon⟩

/-- The length of a name at the start of a text, with the semicolon where there is one. -/
def nameLength? (entry : NamedCharacter) (rest : List Char) : Option Nat :=
  let name := entry.name.toList
  if name.isPrefixOf rest then
    if rest[name.length]? = some ';' then some (name.length + 1)
    else if entry.bare then some name.length
    else none
  else none

def longer : Option Reference → Option Reference → Option Reference
  | some a, some b => some (if a.length < b.length then b else a)
  | a, none => a
  | none, b => b

/-- The longest name that starts a text. -/
def named? (rest : List Char) : Option Reference :=
  match rest with
  | [] => none
  | c :: _ =>
    (namesFrom c).foldl (fun best entry =>
      longer best ((nameLength? entry rest).map fun n => ⟨entry.codes.map Char.ofNat, n⟩)) none

/-- Whether a name without semicolon is part of a longer word, such as a query parameter. -/
def continues (rest : List Char) : Bool :=
  match rest with
  | c :: _ => c.isAlphanum || c == '='
  | [] => false

/-- The reference that follows an ampersand. -/
def at? (inValue : Bool) (rest : List Char) : Option Reference :=
  match rest with
  | '#' :: 'x' :: digits => numeric? 2 16 isHexDigit digits
  | '#' :: 'X' :: digits => numeric? 2 16 isHexDigit digits
  | '#' :: digits => numeric? 1 10 Char.isDigit digits
  | _ =>
    match named? rest with
    | some r =>
      if inValue && rest[r.length - 1]? != some ';' && continues (rest.drop r.length) then none
      else some r
    | none => none

end Reference

/-- Replaces the references in an attribute value by the characters they stand for. -/
def decodeReferences (text : List Char) : List Char :=
  match text with
  | [] => []
  | c :: cs =>
    if c = '&' then
      match Reference.at? true cs with
      | some r => r.chars ++ decodeReferences (cs.drop r.length)
      | none => c :: decodeReferences cs
    else c :: decodeReferences cs
termination_by text.length
decreasing_by
  all_goals simp only [List.length_cons, List.length_drop]
  all_goals omega

end Pruner.Markup
