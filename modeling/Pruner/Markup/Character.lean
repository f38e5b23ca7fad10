/-!
# Characters of markup

How single characters are read, and which of them a document can hold.
-/

namespace Pruner.Markup

def isSpace (c : Char) : Bool :=
  c == ' ' || c == '\n' || c == '\t' || c == '\x0c' || c == '\r'

/-- Line ends are read as line feeds, however they are written. -/
def unifyLineEnds : List Char → List Char
  | [] => []
  | '\r' :: '\n' :: cs => '\n' :: unifyLineEnds cs
  | '\r' :: cs => '\n' :: unifyLineEnds cs
  | c :: cs => c :: unifyLineEnds cs

def withoutNul (text : List Char) : List Char :=
  text.map fun c => if c = '\x00' then '\ufffd' else c

/-- Whether a document can hold a character: no control characters but tab and line ends, and
neither of the last two code points of the basic plane. -/
def isStorable (c : Char) : Bool :=
  c == '\t' || c == '\n' || c == '\r' ||
    (0x20 ≤ c.toNat && c.toNat != 0xfffe && c.toNat != 0xffff)

/-- In running text a form feed is kept as a space. -/
def isStorableText (c : Char) : Bool :=
  isStorable c || c == '\x0c'

end Pruner.Markup
