import Pruner.Value

/-!
# The environment

Variables are looked up by the bytes of their names. A name that has no bytes in the encoding of the
environment cannot be looked up at all.
-/

namespace Pruner

open Text

/-! ### Encodings -/

/-- How the text of an environment is written in bytes. -/
structure Encoding where
  name : String
  bytes? : Char → Option (List UInt8)
  /-- What is said of a character that has no bytes. -/
  reason : String

namespace Encoding

def utf8 : Encoding where
  name := "utf-8"
  bytes? c := some (String.utf8EncodeChar c)
  reason := "surrogates not allowed"

/-- The bytes of a code point. Certain halves stand for single bytes that were not to be decoded. -/
def point? (e : Encoding) : Point → Option (List UInt8)
  | .char c => e.bytes? c
  | .half code =>
    if 0xdc80 ≤ code ∧ code ≤ 0xdcff then some [UInt8.ofNat (code - 0xdc00)] else none

/-- Whether the code point is a character that has bytes. -/
def isPlain (e : Encoding) : Point → Bool
  | .char c => (e.bytes? c).isSome
  | .half _ => false

/-- Which code points a text cannot be encoded for: the first that has no bytes, with those behind it up
to the next plain one. -/
def refused (e : Encoding) (text : RawText) : String :=
  let start := text.findIdx fun p => (e.point? p).isNone
  match (text.drop start).takeWhile (!e.isPlain ·) with
  | [p] => "character '" ++ String.ofList (escapeCode p.code) ++ "' in position " ++ toString start
  | stretch =>
    "characters in position " ++ toString start ++ "-" ++ toString (start + stretch.length - 1)

def refusal (e : Encoding) (text : RawText) : Failure :=
  ⟨"UnicodeEncodeError", ["ValueError", "Exception"],
    "'" ++ e.name ++ "' codec can't encode " ++ e.refused text ++ ": " ++ e.reason⟩

def encode (e : Encoding) (text : RawText) : Except Failure (List UInt8) :=
  if text.all fun p => (e.point? p).isSome then .ok (text.flatMap fun p => (e.point? p).getD [])
  else .error (e.refusal text)

end Encoding

/-! ### Variables -/

/-- The variables, by the bytes of their names, with their values as they are read. -/
inductive Environment where
  | unreadable
  | readable (encoding : Encoding) (entries : List (List UInt8 × RawText))

namespace Environment

/-- How a variable is looked up by the name that is written down for it. -/
abbrev Lookup := Written → Except Failure (Option RawText)

/-- The value of a variable, if it is set. -/
def lookup : Environment → Lookup
  | unreadable, _ =>
    .error (.builtIn "AttributeError" "'NoneType' object has no attribute 'get'")
  | readable encoding entries, .text name => (encoding.encode name).map fun bytes => entries.lookup bytes
  | readable _ _, .other v _ => .error (.builtIn "TypeError" ("str expected, not " ++ v.kind))

/-- The kinds of failure after which a variable counts as unset. -/
def expectedKinds : List String :=
  ["AttributeError", "TypeError", "OSError"]

end Environment

end Pruner
