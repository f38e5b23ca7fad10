/-!
# Quoted values

A quoted value runs from an opening quote to the next quote of the same kind. A backslash takes the
character after it along, which may be a quote but not a line break.
-/

namespace Pruner.Text

/-- Length of the rest of a quoted value, closing quote included, when its opening quote has just
been read. -/
def quotedLength? (quote : Char) : List Char → Option Nat
  | [] => none
  | '\\' :: [] => none
  | '\\' :: c :: cs => if c = '\n' then none else (quotedLength? quote cs).map (· + 2)
  | c :: cs => if c = quote then some 1 else (quotedLength? quote cs).map (· + 1)

def isValueQuote (c : Char) : Bool :=
  c == '\'' || c == '"'

end Pruner.Text
