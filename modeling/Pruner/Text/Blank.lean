/-!
# Blanks

A blank is a character of the Unicode whitespace class. The runs of blanks around names, commas and
braces are what the removals keep or drop, so their length is counted here once for all.
-/

namespace Pruner.Text

def blankChars : List Char := [
  '\t', '\n', '\x0b', '\x0c', '\r', '\x1c', '\x1d', '\x1e', '\x1f', ' ', '\x85', '\xa0', '\u1680',
  '\u2000', '\u2001', '\u2002', '\u2003', '\u2004', '\u2005', '\u2006', '\u2007', '\u2008', '\u2009',
  '\u200a', '\u2028', '\u2029', '\u202f', '\u205f', '\u3000']

def isBlank (c : Char) : Bool :=
  blankChars.contains c

/-- Length of the run of blanks at the start of a text. -/
def blanks (text : List Char) : Nat :=
  (text.takeWhile isBlank).length

@[simp] theorem blanks_nil : blanks [] = 0 := rfl

theorem blanks_cons (c : Char) (text : List Char) :
    blanks (c :: text) = if isBlank c then blanks text + 1 else 0 := by
  by_cases h : isBlank c <;> simp [blanks, h]

theorem blanks_le_length (text : List Char) : blanks text ≤ text.length :=
  (List.takeWhile_sublist isBlank).length_le

/-- Length of a text without the blanks at its end. -/
def trimmedLength (text : List Char) : Nat :=
  (text.reverse.dropWhile isBlank).length

/-- A text without the blanks at both ends. -/
def trim (text : List Char) : List Char :=
  ((text.dropWhile isBlank).reverse.dropWhile isBlank).reverse

end Pruner.Text
