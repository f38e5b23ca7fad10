import Pruner.Markup.Tag

/-!
# Raw text

The content of some elements is text up to their end tag, whatever it looks like. Inside a script,
a comment can hide an end tag: after `<!--`, what stands between the tags of a further script does
not end the first.
-/

namespace Pruner.Markup.RawText

/-- Whether an end tag of the given name starts a text. -/
def isEnd (name text : List Char) : Bool :=
  match text with
  | '<' :: '/' :: rest =>
    ((rest.take name.length).map Char.toLower == name) &&
      (rest.drop name.length).head?.any endsTagName
  | _ => false

/-- The length of the text before an end tag. -/
def length (name : List Char) : List Char → Nat
  | [] => 0
  | c :: cs => if isEnd name (c :: cs) then 0 else length name cs + 1

/-! ### Scripts -/

/-- Where the reading of a script stands. -/
inductive ScriptState where
  | plain
  /-- The exclamation mark of a comment mark comes next. -/
  | angled
  /-- The comment mark lacks this many dashes. -/
  | opening (dashes : Nat)
  /-- In a comment, after so many dashes. -/
  | comment (dashes : Nat)
  /-- In a comment, at the name of a start tag, of which a part has been read. -/
  | entering (word : List Char)
  /-- In a script within a comment, after so many dashes. -/
  | inner (dashes : Nat)
  /-- In a script within a comment, after an angle. -/
  | innerAngle
  /-- In a script within a comment, at the name of an end tag, of which a part has been read. -/
  | leaving (word : List Char)
  deriving DecidableEq, Repr

namespace ScriptState

/-- Whether an end tag counts. -/
def isOuter : ScriptState → Bool
  | plain | angled | opening _ | comment _ | entering _ => true
  | inner _ | innerAngle | leaving _ => false

def afterPlain (c : Char) (next : Option Char) : ScriptState :=
  if c = '<' ∧ next = some '!' then angled else plain

def afterComment (dashes : Nat) (c : Char) (next : Option Char) : ScriptState :=
  if c = '-' then comment (dashes + 1)
  else if c = '>' ∧ 2 ≤ dashes then plain
  else if c = '<' ∧ next.any Char.isAlpha then entering []
  else comment 0

def afterInner (dashes : Nat) (c : Char) : ScriptState :=
  if c = '-' then inner (dashes + 1)
  else if c = '>' ∧ 2 ≤ dashes then plain
  else if c = '<' then innerAngle
  else inner 0

def isScript (word : List Char) : Bool :=
  word.map Char.toLower == "script".toList

/-- The state after one more character. -/
def after (state : ScriptState) (c : Char) (next : Option Char) : ScriptState :=
  match state with
  | plain => afterPlain c next
  | angled => opening 2
  | opening missing =>
    if c ≠ '-' then afterPlain c next
    else if missing ≤ 1 then comment 2
    else opening (missing - 1)
  | comment dashes => afterComment dashes c next
  | entering word =>
    if c.isAlpha then entering (word ++ [c])
    else if endsTagName c then if isScript word then inner 0 else comment 0
    else afterComment 0 c next
  | inner dashes => afterInner dashes c
  | innerAngle => if c = '/' then leaving [] else afterInner 0 c
  | leaving word =>
    if c.isAlpha then leaving (word ++ [c])
    else if endsTagName c then if isScript word then comment 0 else inner 0
    else afterInner 0 c

end ScriptState

/-- The length of a script before its end tag. -/
def scriptLength (state : ScriptState) : List Char → Nat
  | [] => 0
  | c :: cs =>
    if state.isOuter && isEnd "script".toList (c :: cs) then 0
    else scriptLength (state.after c cs.head?) cs + 1

end Pruner.Markup.RawText
