import Pruner.Decimal.Notation
import Pruner.Failure

/-!
# Setting values

Settings come from build configurations and may hold any data value, also where a text is expected.
A value counts as true or false, has a display form and a literal form unless it holds an integer that
is too long to be written out, and is compared with others by what it stands for: truth values count as
the numbers one and zero, and whole fractions as integers. A setting that is a text may hold halves of
surrogate pairs as well.
-/

namespace Pruner

inductive Value where
  | null
  | bool (b : Bool)
  | int (n : Int)
  | real (x : Float)
  | text (s : String)
  | list (items : List Value)
  | object (fields : List (String × Value))
  deriving Inhabited

namespace Value

/-- Numbers are written with the fewest digits that identify them, positionally from 0.0001 up to
sixteen digits in front of the point, and otherwise with a signed exponent of two digits or more. -/
def number : Decimal.Notation :=
  ⟨-4, 16, 2, "inf", "nan"⟩

def kind : Value → String
  | null => "NoneType"
  | bool _ => "bool"
  | int _ => "int"
  | real _ => "float"
  | text _ => "str"
  | list _ => "list"
  | object _ => "dict"

def text? : Value → Option String
  | text s => some s
  | _ => none

/-- Zero and whatever is empty counts as false. -/
def truthy : Value → Bool
  | null => false
  | bool b => b
  | int n => n != 0
  | real x => x != 0
  | text s => s != ""
  | list items => !items.isEmpty
  | object fields => !fields.isEmpty

/-- How many digits an integer may have to be written out. -/
def digitLimit : Nat :=
  4300

/-- What a longer integer fails with. -/
def tooLong : Failure :=
  .builtIn "ValueError" ("Exceeds the limit (" ++ toString digitLimit ++
    " digits) for integer string conversion; use sys.set_int_max_str_digits() to increase the limit")

def writeInt (n : Int) : Except Failure String :=
  if n.natAbs < Nat.pow 10 digitLimit then .ok (toString n) else .error tooLong

mutual

/-- The form in which a value can be told apart from every other. -/
def literal : Value → Except Failure String
  | null => .ok "None"
  | bool true => .ok "True"
  | bool false => .ok "False"
  | int n => writeInt n
  | real x => .ok (number.write x)
  | text s => .ok (Text.inQuotes s)
  | list items => do
    return "[" ++ ", ".intercalate (← literals items) ++ "]"
  | object fields => do
    return "\x7b" ++ ", ".intercalate (← fieldLiterals fields) ++ "\x7d"

def literals : List Value → Except Failure (List String)
  | [] => .ok []
  | v :: vs => do
    return (← literal v) :: (← literals vs)

def fieldLiterals : List (String × Value) → Except Failure (List String)
  | [] => .ok []
  | (name, v) :: fields => do
    return (Text.inQuotes name ++ ": " ++ (← literal v)) :: (← fieldLiterals fields)

end

/-- The form for readers: a text stands for itself. -/
def display : Value → Except Failure String
  | text s => .ok s
  | v => literal v

/-- A number, as an integer or a floating-point number. -/
def numeric? : Value → Option (Int ⊕ Float)
  | bool b => some (.inl (if b then 1 else 0))
  | int n => some (.inl n)
  | real x => some (.inr x)
  | _ => none

def equalsInt (x : Float) (n : Int) : Bool :=
  match Decimal.Real.ofFloat x with
  | .finite b => b.equalsInt n
  | _ => false

def sameNumber : Int ⊕ Float → Int ⊕ Float → Bool
  | .inl m, .inl n => m == n
  | .inr x, .inr y => x == y
  | .inl m, .inr y => equalsInt y m
  | .inr x, .inl n => equalsInt x n

mutual

/-- Whether two values stand for the same thing. The order of an object's fields does not count. -/
def same : Value → Value → Bool
  | null, null => true
  | text s, text t => s == t
  | list items, list others => sameItems items others
  | object fields, object others => fields.length == others.length && sameFields fields others
  | v, w =>
    match numeric? v, numeric? w with
    | some m, some n => sameNumber m n
    | _, _ => false

def sameItems : List Value → List Value → Bool
  | [], [] => true
  | v :: vs, w :: ws => same v w && sameItems vs ws
  | _, _ => false

/-- Whether every field has a field of the same name and value among the others. -/
def sameFields : List (String × Value) → List (String × Value) → Bool
  | [], _ => true
  | (name, v) :: fields, others =>
    (match others.lookup name with
      | some w => same v w
      | none => false) && sameFields fields others

end

end Value

/-! ### Settings as they are written down -/

/-- A text, which may hold halves, or another value. -/
inductive Written where
  | text (s : Text.RawText)
  | other (v : Value) (h : v.text? = none)

namespace Written

def ofValue (v : Value) : Written :=
  match h : v.text? with
  | some s => text (.ofString s)
  | none => other v h

def literal : Written → Except Failure String
  | text s => .ok s.inQuotes
  | other v _ => v.literal

/-- The text that a setting stands for. -/
def raw : Written → Except Failure Text.RawText
  | text s => .ok s
  | other v _ => v.display.map .ofString

def display (w : Written) : Except Failure String :=
  w.raw.map Text.RawText.display

def same : Written → Written → Bool
  | text s, text t => s == t
  | other v _, other w _ => v.same w
  | _, _ => false

end Written

end Pruner
