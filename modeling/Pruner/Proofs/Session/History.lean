import Pruner.Proofs.Pass.Outcome
import Pruner.Session

/-!
# The history of a session

All that a session sees of its activation is what the calls give, so the activation may be any sequence
of results whose calls are counted as they are made. Each step then has the outcome that it would have as
the only step, in the environment in force and with the result that is next.
-/

namespace Pruner

/-! ### Activations call by call -/

namespace Resolver

def after (r : Resolver) : Nat → Resolver
  | 0 => r
  | n + 1 => (r.after n).ask.2

/-- What the calls of a resolver give. -/
def results (r : Resolver) (n : Nat) : Except Failure Value :=
  (r.after n).ask.1

end Resolver

namespace Activation

def after : Activation → Nat → Activation
  | asked resolver, n => asked (resolver.after n)
  | activation, _ => activation

/-- What the calls of an activation give. Only a resolver is ever called. -/
def results : Activation → Nat → Except Failure Value
  | asked resolver => resolver.results
  | _ => fun _ => .error .exhausted

def callsEach : Activation → Nat
  | asked _ => 1
  | _ => 0

theorem outcome_call (activation : Activation) (calls : Nat) :
    call.outcome (activation.after calls) =
      (activation.results calls, activation.after (calls + 1)) := by
  cases activation <;> rfl

end Activation

/-! ### Counted calls -/

/-- One call, which gives the result that is next. It counts whether it gives a value or fails. -/
def Asking.counted (results : Nat → Except Failure Value) : Asking Nat Value :=
  ExceptT.mk fun calls => (results calls, calls + 1)

namespace Settings

variable (s : Settings) (calls : Nat)

theorem behind_counted (results : Nat → Except Failure Value) :
    s.behind (.counted results) calls = calls + s.activation.callsEach := by
  rw [behind]
  cases s.activation <;> rfl

theorem behind_call :
    s.behind Activation.call (s.activation.after calls) =
      s.activation.after (calls + s.activation.callsEach) := by
  rw [behind, Activation.outcome_call]
  cases s.activation <;> rfl

end Settings

namespace Session

open Pass Source

/-! ### Single steps -/

/-- The step evaluates the gate. -/
def Step.consults : Step → Bool
  | .markup _ _ | .enabled => true
  | _ => false

section

variable (s : Settings) (stages : Stages) (env : Environment)

/-- What a step gives or raises when the call of the activation gives the answer. -/
def outcome (answer : Except Failure Value) : Step → Except Failure Reply
  | .environment _ => .ok .done
  | .markup content file =>
    (given s stages env.lookup answer content).map fun (code, events) =>
      .code code (events ++ changeEvents content file code)
  | .enabled => (s.verdict env.lookup answer).map fun (enabled, events) => .enabled enabled events
  | .query q => Session.answer s q

theorem outcome_perform {σ : Type} (call : Asking σ Value) (step : Step) (state : σ) :
    (perform s stages call env step).outcome state =
      (outcome s stages env (call.outcome state).1 step,
        if step.consults then s.behind call state else state) := by
  cases step with
  | environment env' => rfl
  | markup content file =>
      rw [perform, Asking.outcome_bind, outcome_run, outcome]
      cases given s stages env.lookup (call.outcome state).1 content <;> rfl
  | enabled =>
      rw [perform, Asking.outcome_bind, s.outcome_decide, outcome]
      cases s.verdict env.lookup (call.outcome state).1 <;> rfl
  | query q =>
      rw [perform, outcome]
      cases answer s q <;> rfl

end

/-- What a step is to give in an environment when the call gives the answer: an evaluation fails if the
gate does, and otherwise says whether the gate is open; a pass can also fail in the structural removal,
and otherwise removes the names if the gate is open; and nothing else depends on the environment or on
the answer. -/
inductive Answers (s : Settings) (structural : List Char → Except Failure Nat) (env : Environment)
    (answer : Except Failure Value) : Step → Except Failure Reply → Prop
  | environment (env' : Environment) : Answers s structural env answer (.environment env') (.ok .done)
  | query (q : Query) : Answers s structural env answer (.query q) (Session.answer s q)
  | enabled {enabled : Bool} (events : List Event)
      (hreturns : ∀ failure, ¬ s.Raises env.lookup answer failure)
      (henabled : enabled = true ↔ s.Opens env.lookup answer) :
      Answers s structural env answer .enabled (.ok (.enabled enabled events))
  | enabledFails {failure : Failure} (h : s.Raises env.lookup answer failure) :
      Answers s structural env answer .enabled (.error failure)
  | markup {content code : List Char} (file : Option String) (events : List Event)
      (hreturns : ∀ failure, ¬ Fails s env.lookup answer (structural content) failure)
      (hopen : s.Opens env.lookup answer → s.names ≠ [] →
        code = removeNames (s.names.map String.toList) content)
      (hshut : ¬ s.Opens env.lookup answer ∨ s.names = [] → code = content) :
      Answers s structural env answer (.markup content file) (.ok (.code code events))
  | markupFails {content : List Char} (file : Option String) {failure : Failure}
      (h : Fails s env.lookup answer (structural content) failure) :
      Answers s structural env answer (.markup content file) (.error failure)

section

variable (s : Settings) (structural : List String → List Char → Except Failure Nat)
variable (env : Environment) (answer : Except Failure Value)

theorem answers_outcome (step : Step) :
    Answers s (structural s.names) env answer step
      (outcome s ⟨structural, sourceRemoval⟩ env answer step) := by
  cases step with
  | environment env' => exact .environment env'
  | markup content file =>
      rw [outcome]
      cases hgiven : given s ⟨structural, sourceRemoval⟩ env.lookup answer content with
      | error failure => exact .markupFails file (given_eq_error_iff.mp hgiven)
      | ok result =>
          obtain ⟨hopen, hshut⟩ := code_of_given hgiven
          refine .markup file _ (fun failure hfails => ?_) hopen hshut
          rw [given_eq_error_iff.mpr hfails] at hgiven
          cases hgiven
  | enabled =>
      rw [outcome]
      cases hverdict : s.verdict env.lookup answer with
      | error failure => exact .enabledFails (s.verdict_eq_error_iff.mp hverdict)
      | ok decision =>
          refine .enabled _ (fun failure hraises => ?_) (s.opens_of_verdict hverdict)
          rw [s.verdict_eq_error_iff.mpr hraises] at hverdict
          cases hverdict
  | query q => exact .query q

end

/-! ### Whole sessions -/

def inForce (env : Environment) (steps : List Step) : Environment :=
  steps.foldl Step.inForce env

/-- How often some steps evaluate the gate. -/
def evaluations (steps : List Step) : Nat :=
  steps.countP Step.consults

section

variable (s : Settings) (stages : Stages) (env : Environment) (calls : Nat)

/-- An evaluation makes one call if the activation is one that is called, and no other step makes any. -/
theorem calls_cons (step : Step) (later : List Step) :
    (if step.consults then calls + s.activation.callsEach else calls) +
        s.activation.callsEach * evaluations later =
      calls + s.activation.callsEach * evaluations (step :: later) := by
  rw [evaluations, evaluations, List.countP_cons]
  split_ifs with hstep
  · rw [Nat.mul_add, Nat.mul_one, Nat.add_assoc, Nat.add_comm s.activation.callsEach]
  · rfl

theorem length_trace {σ : Type} (call : Asking σ Value) (state : σ) (steps : List Step) :
    (trace s stages call env state steps).length = steps.length := by
  induction steps generalizing env state with
  | nil => rfl
  | cons first later ih => simp [trace, ih]

/-- Behind any steps, a step has its outcome in the environment in force, and the calls are those of the
evaluations so far. -/
theorem trace_getElem? (results : Nat → Except Failure Value) (steps : List Step) {i : Nat}
    {step : Step} (hi : steps[i]? = some step) :
    (trace s stages (.counted results) env calls steps)[i]? =
      some (outcome s stages (inForce env (steps.take i))
          (results (calls + s.activation.callsEach * evaluations (steps.take i))) step,
        calls + s.activation.callsEach * evaluations (steps.take (i + 1))) := by
  induction steps generalizing env calls i with
  | nil => simp at hi
  | cons first later ih =>
      rw [trace, outcome_perform, s.behind_counted]
      cases i with
      | zero =>
          obtain rfl : first = step := by simpa using hi
          rw [List.take_succ_cons, List.take_zero, ← calls_cons]
          rfl
      | succ i =>
          rw [List.getElem?_cons_succ, ih _ _ (by simpa using hi), List.take_succ_cons,
            List.take_succ_cons, calls_cons, calls_cons]
          rfl

/-- The running session is the one in which its own activation gives the results. -/
theorem trace_call (steps : List Step) :
    trace s stages Activation.call env (s.activation.after calls) steps =
      (trace s stages (.counted s.activation.results) env calls steps).map fun (outcome, calls) =>
        (outcome, s.activation.after calls) := by
  induction steps generalizing env calls with
  | nil => rfl
  | cons first later ih =>
      have hbehind : (if first.consults then s.behind Activation.call (s.activation.after calls)
          else s.activation.after calls) =
            s.activation.after (if first.consults then calls + s.activation.callsEach else calls) := by
        rw [s.behind_call]
        split_ifs <;> rfl
      rw [trace, trace, outcome_perform, outcome_perform, Activation.outcome_call, hbehind, ih,
        s.behind_counted]
      rfl

/-- An evaluation without a call does not depend on how many there have been. -/
theorem outcome_callsEach_mul (results : Nat → Except Failure Value) (evaluated : Nat) (step : Step) :
    outcome s stages env (results (s.activation.callsEach * evaluated)) step =
      outcome s stages env (results evaluated) step := by
  cases hactivation : s.activation with
  | asked resolver => rw [Activation.callsEach, Nat.one_mul]
  | unset | fixed v => cases step <;> simp only [outcome, given, Settings.verdict, hactivation]

end

/-- In every session each step has an outcome that depends on nothing but the settings, the environment
in force and, where it evaluates the gate, the result of the one call that it makes, which is the next.
The other steps make no call. This holds whatever the calls give and whatever the structural removal
does. The running session is the case where the activation gives the results, and it leaves its activation
called as often. In an environment the gate is opened by the flag, by a fixed value or by the answer, and
fails over a flag that cannot be encoded, over an expected value that cannot be written out, and over an
answer that is a failure but no error. -/
theorem trace_consults_once (s : Settings)
    (structural : List String → List Char → Except Failure Nat) (env : Environment)
    (steps : List Step) :
    (∀ results : Nat → Except Failure Value,
      (trace s ⟨structural, sourceRemoval⟩ (.counted results) env 0 steps).length = steps.length ∧
      ∀ i step, steps[i]? = some step → ∃ outcome,
        (trace s ⟨structural, sourceRemoval⟩ (.counted results) env 0 steps)[i]? =
            some (outcome, s.activation.callsEach * evaluations (steps.take (i + 1))) ∧
          Answers s (structural s.names) (inForce env (steps.take i))
            (results (evaluations (steps.take i))) step outcome) ∧
      (trace s ⟨structural, sourceRemoval⟩ Activation.call env s.activation steps =
        (trace s ⟨structural, sourceRemoval⟩ (.counted s.activation.results) env 0 steps).map
          fun (outcome, calls) => (outcome, s.activation.after calls)) ∧
      (∀ reader, run s reader env steps =
        (trace s (.running reader) (.counted s.activation.results) env 0 steps).map Prod.fst) ∧
      (∀ (env : Environment) (answer : Except Failure Value), s.Opens env.lookup answer ↔
        (s.activation = .unset ∧ ∃ expected, s.expected.raw = .ok expected ∧
          env.Holds s.flag expected) ∨
        (∃ v, s.activation = .fixed v ∧ v.truthy = true) ∨
        ∃ resolver v, s.activation = .asked resolver ∧ answer = .ok v ∧ v.truthy = true) ∧
      ∀ (env : Environment) (answer : Except Failure Value) (failure : Failure),
        s.Raises env.lookup answer failure ↔
          (s.activation = .unset ∧ (env.Refuses s.flag failure ∨
            (∃ value, env.Holds s.flag value) ∧ s.expected.Unwritable ∧ failure = Value.tooLong)) ∨
          ∃ resolver, s.activation = .asked resolver ∧ answer = .error failure ∧
            failure.isError = false := by
  have hrunning : ∀ stages, trace s stages Activation.call env s.activation steps =
      (trace s stages (.counted s.activation.results) env 0 steps).map fun (outcome, calls) =>
        (outcome, s.activation.after calls) := by
    intro stages
    have hafter : s.activation.after 0 = s.activation := by
      cases s.activation <;> rfl
    have hcall := trace_call s stages env 0 steps
    rwa [hafter] at hcall
  refine ⟨fun results => ⟨length_trace s _ env _ 0 steps, ?_⟩, hrunning _, ?_, ?_, ?_⟩
  · intro i step hi
    have houtcome := trace_getElem? s ⟨structural, sourceRemoval⟩ env 0 results steps hi
    rw [Nat.zero_add, Nat.zero_add, outcome_callsEach_mul] at houtcome
    exact ⟨_, houtcome, answers_outcome s structural _ _ step⟩
  · intro reader
    rw [run, hrunning, List.map_map]
    rfl
  · exact fun env answer => s.opens_environment_iff
  · exact fun env answer failure => s.raises_environment_iff

/-- A flag with a lone half of a pair is not set, but an evaluation fails over it. So it does over a
resolver that asks for the program to end. -/
theorem not_every_evaluation_decides :
    (¬ ∀ (s : Settings) (reader : Component.Reader) (env : Environment), s.activation = .unset →
      ∃ enabled events, run s reader env [.enabled] = [.ok (.enabled enabled events)]) ∧
    ¬ ∀ (s : Settings) (reader : Component.Reader) (env : Environment) (failure : Failure),
      s.activation = .asked (.failing failure) →
        ∃ events, run s reader env [.enabled] = [.ok (.enabled false events)] := by
  refine ⟨fun h => ?_, fun h => ?_⟩
  · obtain ⟨enabled, events, hrun⟩ := h ⟨.text [.half 0xd800], .ofValue (.text "1"), ["a"], .unset⟩
      (fun _ => .ok []) (.readable .utf8 []) rfl
    have hfails : [Except.error (Encoding.utf8.refusal [.half 0xd800])] =
        [Except.ok (Reply.enabled enabled events)] := hrun
    cases hfails
  · let exit := Failure.builtIn "SystemExit" ""
    obtain ⟨events, hrun⟩ := h ⟨.text [], .ofValue (.text "1"), ["a"], .asked (.failing exit)⟩
      (fun _ => .ok []) .unreadable exit rfl
    have hfails : [Except.error exit] = [Except.ok (Reply.enabled false events)] := hrun
    cases hfails

/-- Only the two evaluations take answers from the queue, and the second finds it used up. -/
example (reader : Component.Reader) :
    run ⟨.text (.ofString "FLAG"), .ofValue (.text "1"), [], .asked (.queue [.int 1])⟩ reader .unreadable
      [.enabled, .query (.assign "flag"), .enabled] =
        [.ok (.enabled true [.activated true]), .error (.frozen "flag"),
          .ok (.enabled false [.resolverFailed "IndexError" "pop from empty list",
            .activated false])] := by
  rfl

end Session

end Pruner
