import Pruner.Text.Escape

/-!
# Text from outside

The names and values of variables come from outside and need not be well formed: they can hold halves of
surrogate pairs, which are no characters.
-/

namespace Pruner.Text

/-- A character, or a half of a surrogate pair by its code. -/
inductive Point where
  | char (c : Char)
  | half (code : Nat)
  deriving DecidableEq, Repr

namespace Point

def code : Point → Nat
  | char c => c.toNat
  | half code => code

/-- The form in quotes. A half never prints. -/
def escape (quote : Char) : Point → List Char
  | char c => escapeChar quote c
  | half code => escapeCode code

/-- The form for readers. -/
def display : Point → List Char
  | char c => [c]
  | half code => escapeCode code

end Point

abbrev RawText := List Point

namespace RawText

def ofString (s : String) : RawText :=
  s.toList.map .char

/-- A text written so that it can be told from its surroundings: in single quotes, or in double quotes
if it holds a single quote and no double quote. -/
def inQuotes (text : RawText) : String :=
  let quote := if text.contains (.char '\'') && !text.contains (.char '"') then '"' else '\''
  String.ofList (quote :: text.flatMap (Point.escape quote) ++ [quote])

def display (text : RawText) : String :=
  String.ofList (text.flatMap Point.display)

end RawText

def inQuotes (s : String) : String :=
  (RawText.ofString s).inQuotes

end Pruner.Text
