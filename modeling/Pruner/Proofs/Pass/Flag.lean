import Mathlib.Data.List.Basic
import Pruner.Environment

/-!
# What cannot be written or looked up

A value has a display form unless it holds an integer that is too long, and a name has bytes unless one of
its code points has none. So the look-up of a flag finds a value, or nothing, or it fails: for a reason
that is expected, or over a name without bytes.
-/

namespace Pruner

namespace Failure

variable {α β : Type} {x : Except Failure α} {f : α → Except Failure β}

/-- A sequence fails as its first part or, behind that, as its second. -/
theorem bind_eq_error_iff {failure : Failure} :
    (x >>= f) = .error failure ↔ x = .error failure ∨ ∃ a, x = .ok a ∧ f a = .error failure := by
  cases x <;> simp [bind, Except.bind]

theorem bind_eq_ok_iff {b : β} : (x >>= f) = .ok b ↔ ∃ a, x = .ok a ∧ f a = .ok b := by
  cases x <;> simp [bind, Except.bind]

end Failure

/-! ### Values that cannot be written out -/

namespace Value

/-- The value is or holds an integer that is too long. -/
inductive Unwritable : Value → Prop
  | int {n : Int} (h : Nat.pow 10 digitLimit ≤ n.natAbs) : Unwritable (.int n)
  | item {v : Value} {items : List Value} (hmem : v ∈ items) (h : Unwritable v) :
      Unwritable (.list items)
  | field {name : String} {v : Value} {fields : List (String × Value)} (hmem : (name, v) ∈ fields)
      (h : Unwritable v) : Unwritable (.object fields)

theorem writeInt_eq_error_iff {n : Int} {failure : Failure} :
    writeInt n = .error failure ↔ failure = tooLong ∧ Unwritable (.int n) := by
  have hlong : Unwritable (.int n) ↔ ¬ n.natAbs < Nat.pow 10 digitLimit :=
    ⟨fun | .int h => Nat.not_lt.mpr h, fun h => .int (Nat.le_of_not_lt h)⟩
  rw [writeInt, hlong]
  split_ifs with hshort
  · exact iff_of_false (by simp) fun h => h.2 hshort
  · rw [and_iff_left hshort, Except.error.injEq, eq_comm]

section

variable {α β γ : Type} {x : Except Failure α} {y : Except Failure β} {p q : Prop}
variable {failure : Failure}

theorem return_one_eq_error_iff (hx : ∀ f, x = .error f ↔ f = tooLong ∧ p) (g : α → β) :
    (do return g (← x)) = Except.error failure ↔ failure = tooLong ∧ p := by
  rw [Failure.bind_eq_error_iff, hx]
  simp [pure, Except.pure]

theorem return_two_eq_error_iff (hx : ∀ f, x = .error f ↔ f = tooLong ∧ p)
    (hy : ∀ f, y = .error f ↔ f = tooLong ∧ q) (g : α → β → γ) :
    (do return g (← x) (← y)) = Except.error failure ↔ failure = tooLong ∧ (p ∨ q) := by
  cases x with
  | error e =>
      obtain ⟨rfl, hp⟩ := (hx e).mp rfl
      simp [bind, Except.bind, hp, eq_comm]
  | ok a =>
      have hp : ¬p := fun hp => absurd ((hx tooLong).mpr ⟨rfl, hp⟩) (by simp)
      rw [or_iff_right hp]
      exact return_one_eq_error_iff hy (g a)

end

mutual

/-- Only an integer that is too long stands in the way of a literal form. -/
theorem literal_eq_error_iff {failure : Failure} (v : Value) :
    v.literal = .error failure ↔ failure = tooLong ∧ v.Unwritable := by
  cases v with
  | null | real x | text s => exact iff_of_false (by simp [literal]) fun ⟨_, h⟩ => by cases h
  | bool b => cases b <;> exact iff_of_false (by simp [literal]) fun ⟨_, h⟩ => by cases h
  | int n => rw [literal, writeInt_eq_error_iff]
  | list items =>
      have hitems : (∃ v ∈ items, v.Unwritable) ↔ Unwritable (.list items) :=
        ⟨fun ⟨_, hmem, h⟩ => .item hmem h, fun | .item hmem h => ⟨_, hmem, h⟩⟩
      rw [literal, return_one_eq_error_iff fun _ => literals_eq_error_iff items, hitems]
  | object fields =>
      have hfields : (∃ field ∈ fields, field.2.Unwritable) ↔ Unwritable (.object fields) :=
        ⟨fun ⟨_, hmem, h⟩ => .field hmem h, fun | .field hmem h => ⟨_, hmem, h⟩⟩
      rw [literal, return_one_eq_error_iff fun _ => fieldLiterals_eq_error_iff fields, hfields]

theorem literals_eq_error_iff {failure : Failure} (items : List Value) :
    literals items = .error failure ↔ failure = tooLong ∧ ∃ v ∈ items, v.Unwritable := by
  cases items with
  | nil => simp [literals]
  | cons v vs =>
      rw [literals, return_two_eq_error_iff (fun _ => literal_eq_error_iff v)
        fun _ => literals_eq_error_iff vs]
      simp

theorem fieldLiterals_eq_error_iff {failure : Failure} (fields : List (String × Value)) :
    fieldLiterals fields = .error failure ↔
      failure = tooLong ∧ ∃ field ∈ fields, field.2.Unwritable := by
  cases fields with
  | nil => simp [fieldLiterals]
  | cons field fields =>
      rw [fieldLiterals, return_two_eq_error_iff (fun _ => literal_eq_error_iff field.2)
        fun _ => fieldLiterals_eq_error_iff fields]
      simp

end

end Value

namespace Written

/-- The setting is a value that cannot be written out. -/
def Unwritable : Written → Prop
  | text _ => False
  | other v _ => v.Unwritable

theorem raw_eq_error_iff {w : Written} {failure : Failure} :
    w.raw = .error failure ↔ failure = Value.tooLong ∧ w.Unwritable := by
  cases w with
  | text s => exact iff_of_false (by simp [raw]) fun ⟨_, h⟩ => h
  | other v hother =>
      have hdisplay : v.display = v.literal := by
        cases v with
        | text s => simp [Value.text?] at hother
        | _ => rfl
      rw [raw, hdisplay, Unwritable, ← Value.literal_eq_error_iff]
      cases v.literal <;> simp [Except.map]

end Written

/-! ### Names that cannot be encoded -/

theorem Encoding.encode_eq_error_iff {e : Encoding} {text : Text.RawText} {failure : Failure} :
    e.encode text = .error failure ↔ failure = e.refusal text ∧ ∃ p ∈ text, e.point? p = none := by
  rw [encode]
  split_ifs with hall
  · have hplain : ∀ p ∈ text, e.point? p ≠ none := by
      simpa [Option.isSome_iff_ne_none] using hall
    exact iff_of_false (by simp) fun ⟨_, p, hp, hnone⟩ => hplain p hp hnone
  · have hsome : ∃ p ∈ text, e.point? p = none := by simpa using hall
    rw [and_iff_left hsome, Except.error.injEq, eq_comm]

namespace Environment

/-- The environment can be read, and the flag is a text that is set to the value in it. -/
def Holds (env : Environment) (flag : Written) (value : Text.RawText) : Prop :=
  ∃ encoding entries name bytes, env = .readable encoding entries ∧ flag = .text name ∧
    encoding.encode name = .ok bytes ∧ entries.lookup bytes = some value

/-- The environment can be read, but the flag is a text that cannot be encoded for it. -/
def Refuses (env : Environment) (flag : Written) (failure : Failure) : Prop :=
  ∃ encoding entries name, env = .readable encoding entries ∧ flag = .text name ∧
    (∃ p ∈ name, encoding.point? p = none) ∧ failure = encoding.refusal name

variable {env : Environment} {flag : Written} {failure : Failure}

theorem lookup_eq_ok_some_iff {value : Text.RawText} :
    env.lookup flag = .ok (some value) ↔ env.Holds flag value := by
  rw [Holds]
  cases env with
  | unreadable => simp [lookup]
  | readable encoding entries =>
      cases flag with
      | text name => cases hname : encoding.encode name <;> simp [lookup, hname, Except.map]
      | other v hother => simp [lookup]

/-- Every other failure of a look-up is of an expected kind. -/
theorem lookup_eq_error_iff :
    env.lookup flag = .error failure ∧ failure.isOneOf expectedKinds = false ↔
      env.Refuses flag failure := by
  rw [Refuses]
  cases env with
  | unreadable =>
      refine iff_of_false (fun ⟨hlookup, hkind⟩ => ?_) (by simp)
      cases Except.error.inj hlookup
      exact Bool.noConfusion hkind
  | readable encoding entries =>
      cases flag with
      | text name =>
          have hmap : (readable encoding entries).lookup (.text name) = .error failure ↔
              encoding.encode name = .error failure := by
            rw [lookup]
            cases encoding.encode name <;> simp [Except.map]
          rw [hmap, Encoding.encode_eq_error_iff]
          constructor
          · rintro ⟨⟨hfailure, hpoint⟩, -⟩
            exact ⟨encoding, entries, name, rfl, rfl, hpoint, hfailure⟩
          · rintro ⟨_, _, _, ⟨⟩, ⟨⟩, hpoint, rfl⟩
            exact ⟨⟨rfl, hpoint⟩, rfl⟩
      | other v hother =>
          refine iff_of_false (fun ⟨hlookup, hkind⟩ => ?_) (by simp)
          cases Except.error.inj hlookup
          exact Bool.noConfusion hkind

end Environment

end Pruner
