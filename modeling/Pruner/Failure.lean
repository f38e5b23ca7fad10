import Pruner.Text.RawText

/-!
# Failures

A failure is of one kind and of all more general kinds, and it is caught by any of them. Most kinds are
errors. The others ask for the whole program to end, and are not caught where errors are.
-/

namespace Pruner

/-- A failure: its kind, the more general kinds that it is of as well, and what it says. -/
structure Failure where
  kind : String
  above : List String
  message : String
  deriving DecidableEq, Repr

namespace Failure

def isOneOf (f : Failure) (kinds : List String) : Bool :=
  (f.kind :: f.above).any kinds.contains

def isError (f : Failure) : Bool :=
  f.isOneOf ["Exception"]

/-- The kinds that are no errors. -/
def exits : List String :=
  ["BaseException", "GeneratorExit", "KeyboardInterrupt", "SystemExit"]

/-- The kinds of failure that the operating system reports. -/
def systemKinds : List String := [
  "BlockingIOError", "BrokenPipeError", "ChildProcessError", "ConnectionAbortedError",
  "ConnectionError", "ConnectionRefusedError", "ConnectionResetError", "FileExistsError",
  "FileNotFoundError", "InterruptedError", "IsADirectoryError", "NotADirectoryError",
  "PermissionError", "ProcessLookupError", "TimeoutError"]

/-- A failure of a built-in kind. Of the kinds above it only those count that anything is caught by. -/
def builtIn (kind message : String) : Failure :=
  ⟨kind,
    if exits.contains kind then []
    else if systemKinds.contains kind then ["OSError", "Exception"]
    else ["Exception"],
    message⟩

/-- A failure as it describes itself. A missing key is quoted. -/
def raised (kind text : String) : Failure :=
  builtIn kind (if kind = "KeyError" then Text.inQuotes text else text)

/-- What a used-up queue fails with. -/
def exhausted : Failure :=
  builtIn "IndexError" "pop from empty list"

/-- What an attempt to change a setting fails with. -/
def frozen (field : String) : Failure :=
  ⟨"FrozenInstanceError", ["AttributeError", "Exception"],
    "cannot assign to field " ++ Text.inQuotes field⟩

end Failure

end Pruner
