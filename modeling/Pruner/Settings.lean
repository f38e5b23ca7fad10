import Pruner.Environment

/-!
# Settings

What a preprocessor is set up with: the environment flag that switches it on, the names to remove,
and optionally an activation that takes the place of the flag. Settings are drafted with arbitrary
values, because configurations hold them, and only the names have to make sense.
-/

namespace Pruner

/-! ### Activations -/

/-- Something that is asked, once for each decision, whether to remove anything. -/
inductive Resolver where
  | always (answer : Value)
  | failing (failure : Failure)
  | queue (answers : List Value)

namespace Resolver

/-- One answer, and the resolver for the next time. -/
def ask : Resolver → Except Failure Value × Resolver
  | always answer => (.ok answer, always answer)
  | failing failure => (.error failure, failing failure)
  | queue [] => (.error .exhausted, queue [])
  | queue (answer :: later) => (.ok answer, queue later)

end Resolver

/-- What decides instead of the environment. -/
inductive Activation where
  | unset
  | fixed (value : Value)
  | asked (resolver : Resolver)

/-- A computation that can call the activation. What it raises leaves the activation as the calls have
left it. -/
abbrev Asking (σ : Type) := ExceptT Failure (StateM σ)

namespace Asking

/-- What a computation gives or raises, and what is left of the activation. -/
def outcome {σ α : Type} (x : Asking σ α) (state : σ) : Except Failure α × σ :=
  StateT.run (ExceptT.run x) state

end Asking

namespace Activation

/-- A null value leaves the decision to the environment. -/
def ofValue : Value → Activation
  | .null => unset
  | v => fixed v

/-- One call. Only a resolver is ever called. -/
def call : Asking Activation Value :=
  ExceptT.mk fun
    | asked resolver =>
      let (answer, next) := resolver.ask
      (answer, asked next)
    | activation => (.error .exhausted, activation)

end Activation

/-! ### Settings -/

/-- Settings as they are written down. -/
structure Draft where
  flag : Written := .ofValue (.text "STRIP_ATTRIBUTES")
  expected : Written := .ofValue (.text "1")
  names : Value := .list []
  activation : Activation := .unset

structure Settings where
  flag : Written
  expected : Written
  names : List String
  activation : Activation

namespace Settings

/-- Names that a production build usually does without. -/
def testNames : List String :=
  ["data-testid", "data-test", "data-test-id", "data-cy", "data-qa"]

/-- The names that a value lists: each once, in the order of first mention, and none empty. -/
def namesOf : Value → Except Failure (List String)
  | .null => .ok []
  | .text s => .ok (if s = "" then [] else [s])
  | .list items => ((items.filter Value.truthy).mapM Value.display).map List.eraseDups
  | .object fields => .ok ((fields.map (·.1)).filter (· ≠ "")).eraseDups
  | v => .error (.builtIn "TypeError" ("'" ++ v.kind ++ "' object is not iterable"))

def ofDraft (draft : Draft) : Except Failure Settings :=
  (namesOf draft.names).map fun names => ⟨draft.flag, draft.expected, names, draft.activation⟩

/-- Settings are equal if all but their activations are. -/
def same (a b : Settings) : Bool :=
  a.flag.same b.flag && a.expected.same b.expected && a.names == b.names

/-! ### Descriptions -/

/-- The literal form of a fixed sequence: a single item keeps a comma. -/
def sequenceLiteral : List String → String
  | [s] => "(" ++ Text.inQuotes s ++ ",)"
  | items => "(" ++ ", ".intercalate (items.map Text.inQuotes) ++ ")"

/-- A description, for settings whose activation has a literal form. -/
def describe (s : Settings) : Except Failure (Option String) := do
  let flag ← s.flag.literal
  let expected ← s.expected.literal
  let activation? ← match s.activation with
    | .unset => some <$> Value.null.literal
    | .fixed v => some <$> v.literal
    | .asked _ => pure none
  return activation?.map fun activation =>
    "StripOptions(flag_name=" ++ flag ++ ", expected_value=" ++ expected ++
      ", attribute_names=" ++ sequenceLiteral s.names ++ ", activation=" ++ activation ++ ")"

end Settings

end Pruner
