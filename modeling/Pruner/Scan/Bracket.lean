/-!
# Brackets
-/

namespace Pruner.Scan

inductive Bracket where
  | brace
  | square
  | round
  deriving DecidableEq, Repr

namespace Bracket

def opened? (c : Char) : Option Bracket :=
  if c = '{' then some brace
  else if c = '[' then some square
  else if c = '(' then some round
  else none

def closed? (c : Char) : Option Bracket :=
  if c = '}' then some brace
  else if c = ']' then some square
  else if c = ')' then some round
  else none

end Bracket

end Pruner.Scan
