import ClauseBinding.Evaluation.Evaluate
import Mathlib.Data.List.Forall2

/-!
Contract: outcomes of computations that may fail, compared and bounded.

Owns:
- uses of a state, one after the other, and the values of several outcomes at once;
- `Refines`: the second outcome keeps the value of the first;
- `Meets`: a value with a property, or else a failure that numbers bring about;
- that chains, quantifiers and counts respect both.

Does not own: the computations.
-/

namespace ClauseBinding

/-- Failures that numbers bring about: division by zero, whole numbers that
overflow, and lengths and positions that 32 bits do not hold. -/
def Failure.IsNumeric : Failure → Prop
  | .divisionByZero => True
  | .evaluation (.overflow _) => True
  | .evaluation (.lengthTooLarge length) => Int32.maxValue.toInt.toNat < length
  | _ => False

namespace Outcome

variable {α β : Type}

@[simp] theorem ok_bind
    (value : α)
    (next : α → Except Failure β) : (Except.ok value >>= next) = next value :=
  rfl

@[simp] theorem error_bind
    (failure : Failure)
    (next : α → Except Failure β) : (Except.error failure >>= next) = .error failure :=
  rfl

@[simp] theorem pure_eq_ok (value : α) : (pure value : Except Failure α) = .ok value :=
  rfl

/-- A chain succeeds exactly when both of its steps do. -/
theorem bind_eq_ok
    {outcome : Except Failure α}
    {next : α → Except Failure β}
    {result : β} :
    outcome >>= next = .ok result ↔
      ∃ value, outcome = .ok value ∧ next value = .ok result := by
  cases outcome <;> simp

/-- A chain fails as its first step, or else as the second. -/
theorem bind_eq_error
    {outcome : Except Failure α}
    {next : α → Except Failure β}
    {failure : Failure} :
    outcome >>= next = .error failure ↔
      outcome = .error failure ∨ ∃ value, outcome = .ok value ∧ next value = .error failure := by
  cases outcome <;> simp

/-- Chains that agree on the value of the first step agree. -/
theorem bind_congr_of_ok
    {outcome : Except Failure α}
    {next next' : α → Except Failure β}
    (agree : ∀ value, outcome = .ok value → next value = next' value) :
    outcome >>= next = outcome >>= next' := by
  cases outcome with
  | error failure => rfl
  | ok value => exact agree value rfl

/-- After a use of a state that fails nothing follows; the state stays as that use left
it. -/
theorem run_bind
    {σ : Type}
    (use : ExceptT Failure (StateM σ) α)
    (next : α → ExceptT Failure (StateM σ) β)
    (state : σ) :
    (use >>= next).run.run state =
      match use.run.run state with
      | (.ok value, after) => (next value).run.run after
      | (.error failure, after) => (.error failure, after) := by
  unfold ExceptT.run StateT.run
  simp only [Bind.bind, ExceptT.bind, ExceptT.mk, StateT.bind, ExceptT.bindCont]
  rcases use state with ⟨outcome, after⟩
  cases outcome <;> rfl

/-! ## Several outcomes -/

/-- The values of some outcomes, up to the first failure. -/
def all : List (Except Failure α) → Except Failure (List α)
  | [] => .ok []
  | first :: rest => do
      let value ← first
      let values ← all rest
      pure (value :: values)

/-- Some outcomes have values exactly when each has its own. -/
theorem all_eq_ok
    {outcomes : List (Except Failure α)}
    {values : List α} :
    all outcomes = .ok values ↔
      List.Forall₂ (fun outcome value => outcome = .ok value) outcomes values := by
  induction outcomes generalizing values with
  | nil =>
      constructor
      · intro succeeds
        obtain rfl := Except.ok.inj succeeds
        exact .nil
      · intro each
        cases each
        rfl
  | cons first rest inductionHypothesis =>
      constructor
      · intro succeeds
        obtain ⟨value, isValue, succeeds⟩ := bind_eq_ok.mp succeeds
        obtain ⟨others, areOthers, together⟩ := bind_eq_ok.mp succeeds
        obtain rfl := Except.ok.inj together
        exact .cons isValue (inductionHypothesis.mp areOthers)
      · intro each
        cases each with
        | cons isValue areOthers =>
            rw [all, isValue, inductionHypothesis.mpr areOthers]
            rfl

/-! ## Refinement -/

/-- Where the first outcome is a value, the second is the same value. -/
def Refines (left right : Except Failure α) : Prop :=
  ∀ value, left = .ok value → right = .ok value

namespace Refines

theorem refl (outcome : Except Failure α) : Refines outcome outcome :=
  fun _ same => same

theorem of_error
    (failure : Failure)
    (right : Except Failure α) : Refines (.error failure) right :=
  fun _ absurd => nomatch absurd

/-- Refinement of a chain. The rest has to be refined only for the value that the
first step has. -/
theorem bind
    {left right : Except Failure α}
    {next next' : α → Except Failure β}
    (first : Refines left right)
    (rest : ∀ value, left = .ok value → Refines (next value) (next' value)) :
    Refines (left >>= next) (right >>= next') := by
  intro result succeeds
  obtain ⟨value, isValue, continues⟩ := bind_eq_ok.mp succeeds
  exact bind_eq_ok.mpr ⟨value, first value isValue, rest value isValue result continues⟩

/-- What fails after refinement failed before. -/
theorem fails
    {left right : Except Failure α}
    (refined : Refines left right)
    {failure : Failure}
    (failed : right = .error failure) :
    ∃ before, left = .error before := by
  cases outcome : left with
  | error before => exact ⟨before, rfl⟩
  | ok value =>
      have kept := refined value outcome
      rw [failed] at kept
      cases kept

/-- A quantifier is refined where its condition is. -/
theorem test
    {holds holds' : Value → Except Failure Bool}
    (quantifier : Quantifier)
    (items : List Value)
    (refined : ∀ item ∈ items, Refines (holds item) (holds' item)) :
    Refines (quantifier.test holds items) (quantifier.test holds' items) := by
  induction items with
  | nil => exact refl _
  | cons item rest inductionHypothesis =>
      apply bind (refined item List.mem_cons_self)
      intro held _
      split
      · exact refl _
      · exact inductionHypothesis fun other member =>
          refined other (List.mem_cons_of_mem item member)

/-- A count is refined where its condition is. -/
theorem countHolding
    {holds holds' : Value → Except Failure Bool}
    (items : List Value)
    (refined : ∀ item ∈ items, Refines (holds item) (holds' item)) :
    Refines (ClauseBinding.countHolding holds items)
      (ClauseBinding.countHolding holds' items) := by
  induction items with
  | nil => exact refl _
  | cons item rest inductionHypothesis =>
      apply bind (refined item List.mem_cons_self)
      intro held _
      apply bind (inductionHypothesis fun other member =>
        refined other (List.mem_cons_of_mem item member))
      intro count _
      exact refl _

end Refines

/-! ## Bounds -/

/-- The value of which a property holds, or a failure that numbers bring about. -/
def Meets (property : α → Prop) : Except Failure α → Prop
  | .ok value => property value
  | .error failure => failure.IsNumeric

namespace Meets

theorem mono
    {property weaker : α → Prop}
    {outcome : Except Failure α}
    (meets : Meets property outcome)
    (implies : ∀ value, property value → weaker value) :
    Meets weaker outcome := by
  cases outcome with
  | ok value => exact implies value meets
  | error failure => exact meets

theorem bind
    {property : α → Prop}
    {next : α → Except Failure β}
    {goal : β → Prop}
    {outcome : Except Failure α}
    (first : Meets property outcome)
    (rest : ∀ value, outcome = .ok value → property value → Meets goal (next value)) :
    Meets goal (outcome >>= next) := by
  cases outcome with
  | ok value => exact rest value rfl first
  | error failure => exact first

theorem of_ok
    {property : α → Prop}
    {outcome : Except Failure α}
    {value : α}
    (meets : Meets property outcome)
    (isValue : outcome = .ok value) : property value := by
  rw [isValue] at meets
  exact meets

theorem test
    {holds : Value → Except Failure Bool}
    (quantifier : Quantifier)
    (items : List Value)
    (each : ∀ item ∈ items, Meets (fun _ => True) (holds item)) :
    Meets (fun _ => True) (quantifier.test holds items) := by
  induction items with
  | nil => trivial
  | cons item rest inductionHypothesis =>
      apply bind (each item List.mem_cons_self)
      intro held _ _
      split
      · trivial
      · exact inductionHypothesis fun other member =>
          each other (List.mem_cons_of_mem item member)

/-- A count is at most the number of items. -/
theorem countHolding
    {holds : Value → Except Failure Bool}
    (items : List Value)
    (each : ∀ item ∈ items, Meets (fun _ => True) (holds item)) :
    Meets (· ≤ items.length) (ClauseBinding.countHolding holds items) := by
  induction items with
  | nil => exact Nat.le_refl 0
  | cons item rest inductionHypothesis =>
      apply bind (each item List.mem_cons_self)
      intro held _ _
      apply bind (inductionHypothesis fun other member =>
        each other (List.mem_cons_of_mem item member))
      intro count _ bounded
      show (if held then count + 1 else count) ≤ rest.length + 1
      split <;> omega

end Meets

end Outcome

end ClauseBinding
