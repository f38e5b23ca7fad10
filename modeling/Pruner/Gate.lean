import Pruner.Log
import Pruner.Settings

/-!
# The gate

Whether a run removes anything. An activation decides if there is one; otherwise the flag does, by
the value it has in the environment at that moment. An activation that fails with an error counts as a
no, and a variable that cannot be looked up counts as unset if the failure is of an expected kind. Any
other failure is raised.
-/

namespace Pruner.Settings

variable {σ : Type} (s : Settings)

/-- The value of the flag. -/
def readFlag (lookup : Environment.Lookup) : Except Failure (Option Text.RawText × List Event) :=
  tryCatch ((lookup s.flag).map fun value => (value, [])) fun failure =>
    if failure.isOneOf Environment.expectedKinds then
      return (none, [.environmentUnavailable s.flag failure.message])
    else throw failure

/-- Whether the flag has the expected value. -/
def flagMatches : Option Text.RawText → Except Failure Bool
  | none => .ok false
  | some value => s.expected.raw.map fun expected => value == expected

/-- The decision of the flag. -/
def decideByFlag (lookup : Environment.Lookup) : Except Failure (Bool × List Event) := do
  let (value, noted) ← s.readFlag lookup
  let enabled ← s.flagMatches value
  return (enabled, noted ++ [.flagChecked s.flag value s.expected enabled])

/-- The truth of an answer. -/
def resolve (call : Asking σ Value) : Asking σ (Bool × List Event) :=
  tryCatch (do return ((← call).truthy, [])) fun failure =>
    if failure.isError then return (false, [.resolverFailed failure.kind failure.message])
    else throw failure

/-- One decision, with what it logs. A resolver is called exactly once. -/
def decide (lookup : Environment.Lookup) (call : Asking σ Value) : Asking σ (Bool × List Event) :=
  match s.activation with
  | .unset => s.decideByFlag lookup
  | .fixed v => return (v.truthy, [.activated v.truthy])
  | .asked _ => do
    let (enabled, noted) ← resolve call
    return (enabled, noted ++ [.activated enabled])

end Pruner.Settings
