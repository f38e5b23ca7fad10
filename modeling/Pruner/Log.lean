import Pruner.Environment

/-!
# The log

What happens during a run, as events; `Event.render` is the line that each leaves in the log.
-/

namespace Pruner

inductive Event where
  | activated (enabled : Bool)
  | resolverFailed (kind message : String)
  | environmentUnavailable (flag : Written) (reason : String)
  | flagChecked (flag : Written) (value : Option Text.RawText) (expected : Written) (enabled : Bool)
  | structureRemoved (count : Nat)
  | structureSkipped (kind reason : String)
  | keysRemoved (count : Nat) (name : String)
  | codeChanged (file : String)

namespace Event

def render : Event → Except Failure String
  | activated enabled => do
    return "attr_strip.options: activation injected: " ++ (← (Value.bool enabled).literal)
  | resolverFailed kind message =>
    .ok ("attr_strip.options: activation resolver failed, treated as disabled: " ++ kind ++ ": " ++
      message)
  | environmentUnavailable flag reason => do
    return "attr_strip.options: environment unavailable, " ++ (← flag.display) ++
      " treated as unset: " ++ reason
  | flagChecked flag value expected enabled => do
    let value ← match value with
      | none => Value.null.literal
      | some text => .ok text.inQuotes
    return "attr_strip.options: " ++ (← flag.display) ++ "=" ++ value ++ ", expected " ++
      (← expected.literal) ++ ": " ++ (if enabled then "enabled" else "disabled")
  | structureRemoved count =>
    .ok ("attr_strip.preprocessor: structural pass removed " ++ toString count ++ " occurrence(s)")
  | structureSkipped kind reason =>
    .ok ("attr_strip.preprocessor: structural pass skipped: " ++ kind ++ ": " ++ reason)
  | keysRemoved count name =>
    .ok ("attr_strip.rewrite: removed " ++ toString count ++ " \"" ++ name ++ "\" object key(s)")
  | codeChanged file => .ok ("attr_strip.preprocessor: stripped attributes from " ++ file)

/-- The lines that some events leave. An event that holds a value without a form leaves none. -/
def lines (events : List Event) : List String :=
  events.filterMap fun event => event.render.toOption

end Event

end Pruner
