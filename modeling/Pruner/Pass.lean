import Pruner.Component.Removal
import Pruner.Gate
import Pruner.Source

/-!
# A pass over a component

The code that a pass gives comes from the source removal alone. The structural removal runs beside
it for the record, and an error in it is noted and no more.
-/

namespace Pruner.Pass

open Component

/-- The two removals of a pass, each of which may raise a failure. The structural one gives the number of
occurrences, the one in the source gives the code with what it logs. -/
structure Stages where
  structural : List String → List Char → Except Failure Nat
  source : List String → List Char → Except Failure (List Char × List Event)

def structuralRemoval (reader : Reader) (names : List String) (content : List Char) :
    Except Failure Nat :=
  (Document.parse reader content).map fun doc => (doc.remove names).removed.length

def keyEvents (names : List String) (content : List Char) : List Event :=
  (Source.removedKeys (names.map String.toList) content).map fun (name, count) =>
    .keysRemoved count (String.ofList name)

def sourceRemoval (names : List String) (content : List Char) :
    Except Failure (List Char × List Event) :=
  .ok (Source.removeNames (names.map String.toList) content, keyEvents names content)

def Stages.running (reader : Reader) : Stages :=
  ⟨structuralRemoval reader, sourceRemoval⟩

/-- What is noted of a structural removal. -/
def noteStructure (structural : Except Failure Nat) : Except Failure Event :=
  tryCatch (structural.map .structureRemoved) fun failure =>
    if failure.isError then return .structureSkipped failure.kind failure.message
    else throw failure

/-- The code that comes out behind the gate, with all that has been logged. -/
def carryOut (s : Settings) (stages : Stages) (content : List Char) (decision : Bool × List Event) :
    Except Failure (List Char × List Event) := do
  if !decision.1 then return (content, decision.2)
  if s.names.isEmpty then return (content, decision.2)
  let noted ← noteStructure (stages.structural s.names content)
  let (code, keys) ← stages.source s.names content
  return (code, decision.2 ++ noted :: keys)

/-- Removes the listed names from a component if the gate is open. -/
def run {σ : Type} (s : Settings) (stages : Stages) (lookup : Environment.Lookup)
    (call : Asking σ Value) (content : List Char) : Asking σ (List Char × List Event) := do
  let decision ← s.decide lookup call
  carryOut s stages content decision

/-- The name of a component in the log. -/
def displayName (file : Option String) : String :=
  match file with
  | none => "<component>"
  | some name => if name = "" then "<component>" else name

/-- What is logged of the code that a pass over the component in a file gives. -/
def changeEvents (content : List Char) (file : Option String) (code : List Char) : List Event :=
  if code = content then [] else [.codeChanged (displayName file)]

def describe (s : Settings) : Except Failure (Option String) :=
  s.describe.map fun description? =>
    description?.map fun settings => "RemoveAttributesPreprocessor(" ++ settings ++ ")"

end Pruner.Pass
