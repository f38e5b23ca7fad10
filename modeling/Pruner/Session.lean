import Pruner.Pass

/-!
# Sessions

A preprocessor is set up once and then used for any number of components. Between its uses only two
things change: the environment, and what the activation will answer next.
-/

namespace Pruner.Session

/-- What is asked of the settings alone. -/
inductive Query where
  | describe
  | settings
  | assign (field : String)
  | compare (other : Draft)

inductive Step where
  | environment (env : Environment)
  | markup (content : List Char) (file : Option String)
  | enabled
  | query (q : Query)

inductive Reply where
  | done
  | code (code : List Char) (events : List Event)
  | enabled (enabled : Bool) (events : List Event)
  | description (text : Option String)
  | settings (settings : Settings)
  | equal (equal : Bool)

/-- Settings are never changed, so the answer to a query is always the same. -/
def answer (s : Settings) : Query → Except Failure Reply
  | .describe => (Pass.describe s).map .description
  | .settings => .ok (.settings s)
  | .assign field => .error (.frozen field)
  | .compare other => (Settings.ofDraft other).map fun t => .equal (s.same t)

/-- The environment in force after a step. -/
def Step.inForce (env : Environment) : Step → Environment
  | .environment env' => env'
  | _ => env

section

variable {σ : Type} (s : Settings) (stages : Pass.Stages) (call : Asking σ Value)

def perform (env : Environment) : Step → Asking σ Reply
  | .environment _ => return .done
  | .markup content file => do
    let (code, events) ← Pass.run s stages env.lookup call content
    return .code code (events ++ Pass.changeEvents content file code)
  | .enabled => do
    let (enabled, events) ← s.decide env.lookup call
    return .enabled enabled events
  | .query q => answer s q

/-- What each step gives or raises, with the activation behind it. A step that raises is not the last. -/
def trace (env : Environment) (state : σ) : List Step → List (Except Failure Reply × σ)
  | [] => []
  | step :: later =>
    let outcome := (perform s stages call env step).outcome state
    outcome :: trace (step.inForce env) outcome.2 later

end

/-- The replies to all steps of a session. -/
def run (s : Settings) (reader : Component.Reader) (env : Environment) (steps : List Step) :
    List (Except Failure Reply) :=
  (trace s (.running reader) Activation.call env s.activation steps).map Prod.fst

end Pruner.Session
