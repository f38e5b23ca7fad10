/-!
# Literals

String literals, comments and regular expression literals are opaque to the scan of an expression:
brackets, commas and quotes inside them do not count. `literalLength` measures the literal at the
start of a text. A slash opens a regular expression only where an operand cannot have just ended, so
the measure also takes the last significant character in front of the text.
-/

namespace Pruner.Scan

/-- A literal whose end is missing. -/
inductive Unterminated where
  | string
  | comment
  deriving DecidableEq, Repr

def isQuote (c : Char) : Bool :=
  c == '\'' || c == '"' || c == '\x60'

/-- Length of the rest of a string literal, closing quote included, when its opening quote has just
been read. A backslash takes any character after it along. -/
def stringLength? (quote : Char) : List Char → Option Nat
  | [] => none
  | '\\' :: [] => none
  | '\\' :: _ :: cs => (stringLength? quote cs).map (· + 2)
  | c :: cs => if c = quote then some 1 else (stringLength? quote cs).map (· + 1)

/-- Length of the rest of a block comment, closing mark included. -/
def blockLength? : List Char → Option Nat
  | [] => none
  | '*' :: '/' :: _ => some 2
  | _ :: cs => (blockLength? cs).map (· + 1)

/-- Length of the body of a regular expression, closing slash included. A slash inside a character
class does not close it, and the body never spans lines. -/
def regexBodyLength? (inClass : Bool) : List Char → Option Nat
  | [] => none
  | '\\' :: [] => none
  | '\\' :: _ :: cs => (regexBodyLength? inClass cs).map (· + 2)
  | c :: cs =>
    if c = '\n' then none
    else if c = '/' ∧ inClass = false then some 1
    else (regexBodyLength? (c = '[' || (c ≠ ']' && inClass)) cs).map (· + 1)

def isRegexFlag (c : Char) : Bool :=
  c.isLower

/-! ### What stands in front -/

def isLayout (c : Char) : Bool :=
  c == ' ' || c == '\t' || c == '\r' || c == '\n'

/-- The last character that is not layout in `text`, or else `prior`. -/
def lastSignificant (prior : Option Char) (text : List Char) : Option Char :=
  text.foldl (fun last c => if isLayout c then last else some c) prior

@[simp] theorem lastSignificant_nil (prior : Option Char) : lastSignificant prior [] = prior := rfl

theorem lastSignificant_append (prior : Option Char) (s t : List Char) :
    lastSignificant prior (s ++ t) = lastSignificant (lastSignificant prior s) t :=
  List.foldl_append

/-- The characters after which a slash opens a regular expression. -/
def regexOpeners : List Char :=
  ['(', ',', '=', ':', '[', '!', '&', '|', '?', ';', '+', '-', '*', '%', '>', '~', '^']

def admitsRegex : Option Char → Bool
  | none => true
  | some c => regexOpeners.contains c

/-! ### Measuring -/

/-- Length of the regular expression whose opening slash has just been read, that slash included;
zero when the slash divides. -/
def regexLength (prior : Option Char) (rest : List Char) : Nat :=
  if admitsRegex prior then
    match regexBodyLength? false rest with
    | some n => 1 + n + ((rest.drop n).takeWhile isRegexFlag).length
    | none => 0
  else 0

/-- Length of the comment or regular expression whose first slash has just been read. A line comment
ends before the line break. -/
def slashLength (prior : Option Char) : List Char → Except Unterminated Nat
  | '/' :: rest => .ok (2 + (rest.takeWhile (· ≠ '\n')).length)
  | '*' :: rest =>
    match blockLength? rest with
    | some n => .ok (2 + n)
    | none => .error .comment
  | rest => .ok (regexLength prior rest)

/-- Length of the literal at the start of a text, zero when there is none. -/
def literalLength (prior : Option Char) : List Char → Except Unterminated Nat
  | [] => .ok 0
  | c :: rest =>
    if isQuote c then
      match stringLength? c rest with
      | some n => .ok (1 + n)
      | none => .error .string
    else if c = '/' then slashLength prior rest
    else .ok 0

end Pruner.Scan
