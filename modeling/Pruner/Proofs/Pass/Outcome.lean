import Pruner.Pass
import Pruner.Proofs.Pass.Gate
import Pruner.Proofs.Source.Lookup

/-!
# What a pass gives and raises

The source removal raises nothing, whatever the component looks like, and the structural removal stops a
pass only if it asks for the program to end. So what a pass raises is what its gate raises, but for that.
-/

namespace Pruner

def Scan.Miss.failure : Scan.Miss → Failure
  | index => .builtIn "IndexError" "string index out of range"
  | value => .builtIn "ValueError" "substring not found"
  | pattern => .builtIn "AttributeError" "'NoneType' object has no attribute 'end'"

namespace Pass

open Component Object Scan Source

/-! ### The source removal by index -/

def sourceRemovalAt (names : List String) (content : List Char) :
    Except Failure (List Char × List Event) := do
  let (code, keys) ← (removeNamesAt (names.map String.toList) content).mapError Miss.failure
  return (code, keys.map fun (name, count) => .keysRemoved count (String.ofList name))

theorem sourceRemovalAt_eq (names : List String) (content : List Char) :
    sourceRemovalAt names content = sourceRemoval names content := by
  rw [sourceRemovalAt, removeNamesAt_eq]
  rfl

/-! ### The structural removal -/

/-- Errors are noted. -/
theorem noteStructure_eq_error_iff {structural : Except Failure Nat} {failure : Failure} :
    noteStructure structural = .error failure ↔
      structural = .error failure ∧ failure.isError = false := by
  cases structural with
  | ok count =>
      have hnote : noteStructure (.ok count) = .ok (.structureRemoved count) := rfl
      simp [hnote]
  | error reason =>
      have hnote : noteStructure (.error reason) =
          if reason.isError then .ok (.structureSkipped reason.kind reason.message)
          else .error reason := rfl
      rw [hnote]
      split_ifs with hkind <;> grind

/-! ### Behind the gate -/

section

variable {s : Settings} {structural : List String → List Char → Except Failure Nat}
variable {content : List Char} {decision : Bool × List Event} {failure : Failure}

theorem carryOut_shut {stages : Stages} (h : decision.1 = true → s.names = []) :
    carryOut s stages content decision = .ok (content, decision.2) := by
  obtain ⟨enabled, events⟩ := decision
  cases enabled with
  | false => rfl
  | true =>
      rw [carryOut, h rfl]
      rfl

theorem carryOut_open (hopen : decision.1 = true) (hnames : s.names ≠ []) :
    carryOut s ⟨structural, sourceRemoval⟩ content decision =
      (noteStructure (structural s.names content)).map fun noted =>
        (removeNames (s.names.map String.toList) content,
          decision.2 ++ noted :: keyEvents s.names content) := by
  have hnonempty : s.names.isEmpty = false := by simpa using hnames
  obtain ⟨enabled, events⟩ := decision
  obtain rfl : enabled = true := hopen
  rw [carryOut, hnonempty]
  cases noteStructure (structural s.names content) <;> rfl

theorem carryOut_eq_error_iff :
    carryOut s ⟨structural, sourceRemoval⟩ content decision = .error failure ↔
      decision.1 = true ∧ s.names ≠ [] ∧ structural s.names content = .error failure ∧
        failure.isError = false := by
  by_cases h : decision.1 = true ∧ s.names ≠ []
  · rw [carryOut_open h.1 h.2, ← noteStructure_eq_error_iff]
    cases noteStructure (structural s.names content) <;> simp [Except.map, h]
  · rw [carryOut_shut fun hopen => by_contra fun hnames => h ⟨hopen, hnames⟩]
    exact iff_of_false (by simp) fun ⟨hopen, hnames, _⟩ => h ⟨hopen, hnames⟩

/-- The code is that of the source removal behind an open gate if there is something to remove. -/
theorem code_of_carryOut {code : List Char} {events : List Event}
    (h : carryOut s ⟨structural, sourceRemoval⟩ content decision = .ok (code, events)) :
    (decision.1 = true → s.names ≠ [] → code = removeNames (s.names.map String.toList) content) ∧
      (¬ decision.1 = true ∨ s.names = [] → code = content) := by
  constructor
  · intro hopen hnames
    rw [carryOut_open hopen hnames] at h
    cases hnoted : noteStructure (structural s.names content) with
    | error failure =>
        rw [hnoted] at h
        cases h
    | ok noted =>
        rw [hnoted] at h
        exact (congrArg Prod.fst (Except.ok.inj h)).symm
  · intro hshut
    rw [carryOut_shut fun hopen => hshut.resolve_left (not_not_intro hopen)] at h
    exact (congrArg Prod.fst (Except.ok.inj h)).symm

end

/-! ### Passes -/

/-- What a pass gives or raises when the call of the activation gives the answer. -/
def given (s : Settings) (stages : Stages) (lookup : Environment.Lookup) (answer : Except Failure Value)
    (content : List Char) : Except Failure (List Char × List Event) :=
  s.verdict lookup answer >>= carryOut s stages content

/-- A pass fails: its gate fails or, behind an open gate, the structural removal asks for the program to
end. -/
def Fails (s : Settings) (lookup : Environment.Lookup) (answer : Except Failure Value)
    (structural : Except Failure Nat) (failure : Failure) : Prop :=
  s.Raises lookup answer failure ∨
    s.Opens lookup answer ∧ s.names ≠ [] ∧ structural = .error failure ∧ failure.isError = false

section

variable {s : Settings} {structural : List String → List Char → Except Failure Nat}
variable {lookup : Environment.Lookup} {answer : Except Failure Value} {content : List Char}

theorem outcome_run {σ : Type} (s : Settings) (stages : Stages) (lookup : Environment.Lookup)
    (call : Asking σ Value) (content : List Char) (state : σ) :
    (run s stages lookup call content).outcome state =
      (given s stages lookup (call.outcome state).1 content, s.behind call state) := by
  rw [run, Asking.outcome_bind_lift, s.outcome_decide]
  rfl

theorem given_eq_error_iff {failure : Failure} :
    given s ⟨structural, sourceRemoval⟩ lookup answer content = .error failure ↔
      Fails s lookup answer (structural s.names content) failure := by
  rw [given, Failure.bind_eq_error_iff, s.verdict_eq_error_iff, Fails, ← s.verdict_eq_ok_true_iff]
  simp [carryOut_eq_error_iff]

theorem code_of_given {code : List Char} {events : List Event}
    (h : given s ⟨structural, sourceRemoval⟩ lookup answer content = .ok (code, events)) :
    (s.Opens lookup answer → s.names ≠ [] → code = removeNames (s.names.map String.toList) content) ∧
      (¬ s.Opens lookup answer ∨ s.names = [] → code = content) := by
  obtain ⟨decision, hverdict, hcarry⟩ := Failure.bind_eq_ok_iff.mp h
  rw [← s.opens_of_verdict hverdict]
  exact code_of_carryOut hcarry

end

/-- Nothing but the gate and a structural removal that asks for the program to end stops a pass. The
readers by index find what the scans and removals give, for every text and wherever they start, and the
split inside a balanced span does not even raise what would be caught. So a pass gives its code, for every
look-up of variables and every activation, unless its gate fails or, behind an open gate, the structural
removal raises something that is no error. In an environment the gate fails in three cases: the flag is a
text that cannot be encoded, the flag is set and the expected value holds an integer too long to be
written out, or the activation raises something that is no error. -/
theorem run_fails_iff {σ : Type} (s : Settings)
    (structural : List String → List Char → Except Failure Nat) (lookup : Environment.Lookup)
    (call : Asking σ Value) (content : List Char) (state : σ) :
    (∀ text start, closingAt text start = .ok (closing? text start)) ∧
    (∀ text, spansAt text = .ok (spans text)) ∧
    (∀ text start close, closing? text start = some close →
      ∃ parts, segmentsAt text (start + 1) close = .ok parts ∧
        segments text (start + 1) close = .ok parts) ∧
    (∀ (sel : Selection) text start, sel.removeInAt text start = .ok (sel.removeIn text start)) ∧
    (∀ (sel : Selection) text, sel.removeAllAt text = .ok (sel.removeAll text)) ∧
    (∀ names content,
      removeNamesAt names content = .ok (removeNames names content, removedKeys names content)) ∧
    (∀ names content, sourceRemovalAt names content = sourceRemoval names content) ∧
    (∀ failure,
      ((run s ⟨structural, sourceRemovalAt⟩ lookup call content).outcome state).1 = .error failure ↔
        Fails s lookup (call.outcome state).1 (structural s.names content) failure) ∧
    ∀ (env : Environment) (answer : Except Failure Value) (failure : Failure),
      s.Raises env.lookup answer failure ↔
        (s.activation = .unset ∧ (env.Refuses s.flag failure ∨
          (∃ value, env.Holds s.flag value) ∧ s.expected.Unwritable ∧ failure = Value.tooLong)) ∨
        ∃ resolver, s.activation = .asked resolver ∧ answer = .error failure ∧
          failure.isError = false := by
  refine ⟨closingAt_eq, spansAt_eq, ?_, Selection.removeInAt_eq, Selection.removeAllAt_eq,
    removeNamesAt_eq, sourceRemovalAt_eq, ?_, ?_⟩
  · intro text start close hclose
    obtain ⟨F, tail, hdrop, hF, rfl⟩ := closing?_eq_some_iff.mp hclose
    exact ⟨_, segmentsAt_inside hdrop hF, segments_inside hdrop hF⟩
  · intro failure
    rw [funext₂ sourceRemovalAt_eq, outcome_run]
    exact given_eq_error_iff
  · intro env answer failure
    exact s.raises_environment_iff

/-- A flag with a lone half of a pair cannot be looked up, and the pass fails over it. -/
theorem not_every_pass_returns :
    ¬ ∀ (s : Settings) (reader : Reader) (env : Environment) (content : List Char),
      ∃ result, ((run s (.running reader) env.lookup Activation.call content).outcome
        s.activation).1 = .ok result := by
  intro h
  obtain ⟨result, hresult⟩ := h ⟨.text [.half 0xd800], .ofValue (.text "1"), ["a"], .unset⟩ (fun _ => .ok [])
    (.readable .utf8 []) []
  have hfails : Except.error (Encoding.utf8.refusal [.half 0xd800]) = Except.ok result := hresult
  cases hfails

end Pass

end Pruner
