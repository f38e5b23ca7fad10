import Pruner.Gate
import Pruner.Proofs.Pass.Flag

/-!
# What the gate gives and raises

A decision depends on the look-up of the flag or on what the one call of the activation gives. It fails
over a flag that cannot be encoded, over an expected value that cannot be written out, and over an
activation that asks for the program to end; in all other cases it says whether the gate is open.
-/

namespace Pruner

/-! ### Computations that call -/

namespace Asking

variable {σ α β : Type}

theorem outcome_bind (x : Asking σ α) (f : α → Asking σ β) (state : σ) :
    (x >>= f).outcome state =
      match x.outcome state with
      | (.ok a, next) => (f a).outcome next
      | (.error failure, next) => (.error failure, next) := by
  rw [outcome, outcome, ExceptT.run_bind, StateT.run_bind]
  obtain ⟨result, next⟩ := StateT.run (ExceptT.run x) state
  cases result <;> rfl

theorem outcome_tryCatch (x : Asking σ α) (handle : Failure → Asking σ α) (state : σ) :
    (tryCatch x handle).outcome state =
      match x.outcome state with
      | (.ok a, next) => (.ok a, next)
      | (.error failure, next) => (handle failure).outcome next := by
  rw [outcome, outcome, ExceptT.run_tryCatch, StateT.run_bind]
  obtain ⟨result, next⟩ := StateT.run (ExceptT.run x) state
  cases result <;> rfl

/-- What follows without a call leaves the activation as it is. -/
theorem outcome_bind_lift (x : Asking σ α) (f : α → Except Failure β) (state : σ) :
    (x >>= fun a => (liftM (f a) : Asking σ β)).outcome state =
      ((x.outcome state).1 >>= f, (x.outcome state).2) := by
  rw [outcome_bind]
  obtain ⟨result, next⟩ := x.outcome state
  cases result <;> rfl

end Asking

/-! ### Decisions -/

namespace Settings

section

variable (s : Settings) (lookup : Environment.Lookup) (answer : Except Failure Value)

/-- What a resolver's answer comes to. -/
def judge : Except Failure Value → Except Failure (Bool × List Event)
  | .ok v => .ok (v.truthy, [])
  | .error failure =>
    if failure.isError then .ok (false, [.resolverFailed failure.kind failure.message])
    else .error failure

/-- The decision when the call of the activation gives the answer. -/
def verdict : Except Failure (Bool × List Event) :=
  match s.activation with
  | .unset => s.decideByFlag lookup
  | .fixed v => .ok (v.truthy, [.activated v.truthy])
  | .asked _ => (judge answer).map fun (enabled, noted) => (enabled, noted ++ [.activated enabled])

/-- The activation behind a decision. Only a resolver is called. -/
def behind {σ : Type} (call : Asking σ Value) (state : σ) : σ :=
  match s.activation with
  | .asked _ => (call.outcome state).2
  | _ => state

/-- The gate is open: the answer is true or, without an activation, the flag is set to the expected
value. -/
def Opens : Prop :=
  match s.activation with
  | .unset => ∃ expected, s.expected.raw = .ok expected ∧ lookup s.flag = .ok (some expected)
  | .fixed v => v.truthy = true
  | .asked _ => ∃ v, answer = .ok v ∧ v.truthy = true

/-- The gate fails: the answer is a failure that is no error or, without an activation, the flag cannot
be looked up for an unexpected reason, or it is set and there is nothing to compare it with. -/
def Raises (failure : Failure) : Prop :=
  match s.activation with
  | .unset =>
    (lookup s.flag = .error failure ∧ failure.isOneOf Environment.expectedKinds = false) ∨
      ∃ value, lookup s.flag = .ok (some value) ∧ s.expected.raw = .error failure
  | .fixed _ => False
  | .asked _ => answer = .error failure ∧ failure.isError = false

end

section

variable {σ : Type} {s : Settings} {lookup : Environment.Lookup} {answer : Except Failure Value}
variable {failure : Failure}

theorem outcome_resolve (call : Asking σ Value) (state : σ) :
    (resolve call).outcome state = (judge (call.outcome state).1, (call.outcome state).2) := by
  rw [resolve, Asking.outcome_tryCatch, Asking.outcome_bind]
  obtain ⟨result, next⟩ := call.outcome state
  cases result with
  | ok v => rfl
  | error failure =>
      dsimp only [judge]
      split <;> rfl

/-- A decision is the verdict on what one call gives, if there is something to call. -/
theorem outcome_decide (s : Settings) (lookup : Environment.Lookup) (call : Asking σ Value)
    (state : σ) :
    (s.decide lookup call).outcome state =
      (s.verdict lookup (call.outcome state).1, s.behind call state) := by
  rw [verdict, behind, decide]
  cases s.activation with
  | unset => cases s.decideByFlag lookup <;> rfl
  | fixed v => rfl
  | asked resolver =>
      dsimp only
      rw [Asking.outcome_bind, outcome_resolve]
      cases judge (call.outcome state).1 <;> rfl

/-- A flag that can be looked up is compared with the expected value. -/
theorem decideByFlag_of_ok {value? : Option Text.RawText} (h : lookup s.flag = .ok value?) :
    s.decideByFlag lookup = (s.flagMatches value?).map fun enabled =>
      (enabled, [.flagChecked s.flag value? s.expected enabled]) := by
  rw [decideByFlag, readFlag, h]
  rfl

/-- A flag that cannot be looked up for an expected reason counts as unset. -/
theorem decideByFlag_of_error (h : lookup s.flag = .error failure) :
    s.decideByFlag lookup =
      if failure.isOneOf Environment.expectedKinds then
        .ok (false, [.environmentUnavailable s.flag failure.message,
          .flagChecked s.flag none s.expected false])
      else .error failure := by
  have hread : s.readFlag lookup =
      if failure.isOneOf Environment.expectedKinds then
        .ok (none, [.environmentUnavailable s.flag failure.message])
      else .error failure := by
    rw [readFlag, h]
    rfl
  rw [decideByFlag, hread]
  split_ifs <;> rfl

theorem verdict_eq_error_iff :
    s.verdict lookup answer = .error failure ↔ s.Raises lookup answer failure := by
  rw [verdict, Raises]
  cases s.activation with
  | unset =>
      cases hlookup : lookup s.flag with
      | error reason =>
          rw [decideByFlag_of_error hlookup]
          split_ifs with hkind <;> grind
      | ok value? =>
          rw [decideByFlag_of_ok hlookup]
          cases value? with
          | none => simp [flagMatches, Except.map]
          | some value =>
              rw [flagMatches]
              cases s.expected.raw <;> simp [Except.map]
  | fixed v => simp
  | asked resolver =>
      cases answer with
      | ok v => simp [judge, Except.map]
      | error reason =>
          rw [judge]
          split_ifs with hkind <;> grind [Except.map]

theorem verdict_eq_ok_true_iff :
    (∃ events, s.verdict lookup answer = .ok (true, events)) ↔ s.Opens lookup answer := by
  rw [verdict, Opens]
  cases s.activation with
  | unset =>
      cases hlookup : lookup s.flag with
      | error reason =>
          rw [decideByFlag_of_error hlookup]
          split_ifs <;> simp
      | ok value? =>
          rw [decideByFlag_of_ok hlookup]
          cases value? with
          | none => simp [flagMatches, Except.map]
          | some value =>
              rw [flagMatches]
              cases s.expected.raw <;> simp [Except.map]
  | fixed v => simp
  | asked resolver =>
      cases answer with
      | ok v => simp [judge, Except.map]
      | error reason =>
          rw [judge]
          split_ifs <;> simp [Except.map]

theorem opens_of_verdict {decision : Bool × List Event} (h : s.verdict lookup answer = .ok decision) :
    decision.1 = true ↔ s.Opens lookup answer := by
  obtain ⟨enabled, events⟩ := decision
  rw [← verdict_eq_ok_true_iff, h]
  simp

/-- In an environment the gate is opened by the value of the flag, by a fixed value or by the answer. -/
theorem opens_environment_iff {env : Environment} : s.Opens env.lookup answer ↔
    (s.activation = .unset ∧ ∃ expected, s.expected.raw = .ok expected ∧
      env.Holds s.flag expected) ∨
    (∃ v, s.activation = .fixed v ∧ v.truthy = true) ∨
    ∃ resolver v, s.activation = .asked resolver ∧ answer = .ok v ∧ v.truthy = true := by
  rw [Opens]
  cases s.activation <;> simp [Environment.lookup_eq_ok_some_iff]

/-- In an environment the gate fails over a flag that cannot be encoded, over an expected value that
cannot be written out and is needed, and over an answer that is a failure but no error. -/
theorem raises_environment_iff {env : Environment} : s.Raises env.lookup answer failure ↔
    (s.activation = .unset ∧ (env.Refuses s.flag failure ∨
      (∃ value, env.Holds s.flag value) ∧ s.expected.Unwritable ∧ failure = Value.tooLong)) ∨
    ∃ resolver, s.activation = .asked resolver ∧ answer = .error failure ∧
      failure.isError = false := by
  rw [Raises]
  cases s.activation with
  | unset =>
      simp only [Environment.lookup_eq_error_iff, Environment.lookup_eq_ok_some_iff,
        Written.raw_eq_error_iff]
      grind
  | fixed v => simp
  | asked resolver => simp

end

end Settings

end Pruner
