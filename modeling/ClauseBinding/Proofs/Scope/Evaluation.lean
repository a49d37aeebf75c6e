import ClauseBinding.Proofs.Scope.Scoped
import ClauseBinding.Proofs.Soundness.Clause

/-!
Contract: the evaluation of scoped expressions.

Owns:
- bindings that agree on a scope;
- that a scoped expression looks at nothing but the variables of its scope;
- outcomes that are no failure to find a parameter;
- that a scoped expression has such an outcome where its scope is bound.

Does not own: other failures.
-/

namespace ClauseBinding

open ClauseBinding.Outcome

/-! ## What evaluation looks at -/

/-- Two bindings with the same values for the variables in scope. -/
def Bindings.Agree
    (scope : List Parameter)
    (left right : Bindings) : Prop :=
  ∀ name parameter, scope.find? (·.name == name) = some parameter →
    left.lookup name = right.lookup name

namespace Bindings.Agree

variable {scope : List Parameter} {left right : Bindings}

theorem of_empty (left right : Bindings) : Agree [] left right :=
  fun _ _ absurd => nomatch absurd

theorem push
    (agree : Agree scope left right)
    (item : Parameter)
    (value : Value) :
    Agree (item :: scope) (left.push item.name value) (right.push item.name value) := by
  intro name parameter found
  by_cases same : item.name = name
  · simp [Bindings.lookup, Bindings.push, Table.find?, same]
  · rw [List.find?_cons_of_neg (by simp [same])] at found
    simpa [Bindings.lookup, Bindings.push, Table.find?, same] using agree name parameter found

end Bindings.Agree

namespace Expression.Scoped

variable {scope : List Parameter} {expression : Expression}

end Expression.Scoped

/-! ## Failures to find a parameter -/

def Failure.IsUnbound : Failure → Prop
  | .evaluation (.unboundParameter _) => True
  | _ => False

/-- An outcome that is a value, or a failure of another kind than to find a parameter. -/
def Outcome.Finds
    {α : Type}
    (outcome : Except Failure α) : Prop :=
  ∀ failure, outcome = .error failure → ¬ failure.IsUnbound

namespace Outcome.Finds

variable {α β : Type}

theorem of_ok (value : α) : Finds (.ok value) :=
  fun _ absurd => nomatch absurd

theorem of_error
    {failure : Failure}
    (other : ¬ failure.IsUnbound) : Finds (.error failure : Except Failure α) := by
  intro reported same
  obtain rfl := Except.error.inj same
  exact other

theorem bind
    {outcome : Except Failure α}
    {next : α → Except Failure β}
    (first : Finds outcome)
    (rest : ∀ value, Finds (next value)) : Finds (outcome >>= next) := by
  cases outcome with
  | ok value => exact rest value
  | error failure => exact of_error (first failure rfl)

theorem test
    {holds : Value → Except Failure Bool}
    (quantifier : Quantifier)
    (each : ∀ item, Finds (holds item))
    (items : List Value) : Finds (quantifier.test holds items) := by
  induction items with
  | nil => exact of_ok _
  | cons item rest inductionHypothesis =>
      apply bind (each item)
      intro held
      split
      · exact of_ok held
      · exact inductionHypothesis

theorem countHolding
    {holds : Value → Except Failure Bool}
    (each : ∀ item, Finds (holds item))
    (items : List Value) : Finds (ClauseBinding.countHolding holds items) := by
  induction items with
  | nil => exact of_ok 0
  | cons item rest inductionHypothesis =>
      apply bind (each item)
      intro held
      apply bind inductionHypothesis
      intro count
      exact of_ok _

theorem all
    {outcomes : List (Except Failure α)}
    (each : ∀ outcome ∈ outcomes, Finds outcome) : Finds (Outcome.all outcomes) := by
  induction outcomes with
  | nil => exact of_ok []
  | cons first rest inductionHypothesis =>
      obtain ⟨firstFinds, restFind⟩ := List.forall_mem_cons.mp each
      apply bind firstFinds
      intro value
      apply bind (inductionHypothesis restFind)
      intro values
      exact of_ok _

end Outcome.Finds

/-! Operations and functions look at values alone. -/

namespace Value

private theorem member_finds
    (name : String)
    (source : Value) : Finds (source.member name) := by
  cases source with
  | record members => exact .of_ok _
  | _ => exact .of_error not_false

private theorem items_finds
    (operation : String)
    (source : Value) : Finds (source.items operation) := by
  cases source with
  | collection items => exact .of_ok items
  | _ => exact .of_error not_false

private theorem truth?_finds (value : Value) : Finds value.truth? := by
  cases value with
  | bool | null => exact .of_ok _
  | _ => exact .of_error not_false

private theorem truth_finds (value : Value) : Finds value.truth :=
  value.truth?_finds.bind fun _ => .of_ok _

private theorem complement_finds (value : Value) : Finds value.complement := by
  cases value with
  | bool | null => exact .of_ok _
  | _ => exact .of_error not_false

private theorem negate_finds (value : Value) : Finds value.negate := by
  cases value with
  | int32 | int64 =>
      unfold negate
      dsimp only
      split
      · exact .of_error not_false
      · exact .of_ok _
  | float32 | float64 | null => exact .of_ok _
  | _ => exact .of_error not_false

private theorem ofCount_finds (count : Nat) : Finds (ofCount count) := by
  unfold ofCount
  split
  · exact .of_ok _
  · exact .of_error not_false

private theorem ofLength_finds (length : Nat) : Finds (ofLength length) := by
  unfold ofLength
  split
  · exact .of_ok _
  · exact .of_error not_false

end Value

namespace Arithmetic

private theorem onWhole_finds
    (operator : Arithmetic)
    (left right : Int64) : Finds (operator.onWhole left right) := by
  unfold onWhole
  dsimp only
  split
  · exact .of_error not_false
  · split
    · exact .of_ok _
    · exact .of_error not_false

private theorem narrow_finds
    (operator : Arithmetic)
    (result : Int64) : Finds (operator.narrow result) := by
  unfold narrow
  split
  · exact .of_ok _
  · exact .of_error not_false

theorem apply_finds
    (operator : Arithmetic)
    (left right : Value) : Finds (operator.apply left right) := by
  fun_cases apply operator left right
  case case3 => exact (operator.onWhole_finds _ _).bind fun result =>
    (operator.narrow_finds result).bind fun _ => .of_ok _
  case case4 => exact (operator.onWhole_finds _ _).bind fun _ => .of_ok _
  case case7 => exact .of_error not_false
  all_goals exact .of_ok _

end Arithmetic

theorem Function.apply_finds
    (function : Function)
    (arguments : List Value) : Finds (function.apply arguments) := by
  fun_cases apply function arguments
  case case4 => exact Value.ofLength_finds _
  case case5 => exact Value.ofLength_finds _
  all_goals first | exact .of_ok _ | exact .of_error not_false

/-- Every variable in scope is bound to some value. -/
def Bindings.Cover
    (bindings : Bindings)
    (scope : List Parameter) : Prop :=
  ∀ name parameter, scope.find? (·.name == name) = some parameter →
    ∃ value, bindings.lookup name = some value

namespace Bindings.Cover

variable {scope : List Parameter} {bindings : Bindings}

theorem of_empty (bindings : Bindings) : bindings.Cover [] :=
  fun _ _ absurd => nomatch absurd

theorem push
    (cover : bindings.Cover scope)
    (item : Parameter)
    (value : Value) : (bindings.push item.name value).Cover (item :: scope) := by
  intro name parameter found
  by_cases same : item.name = name
  · exact ⟨value, by simp [lookup, Bindings.push, Table.find?, same]⟩
  · rw [List.find?_cons_of_neg (by simp [same])] at found
    obtain ⟨bound, isBound⟩ := cover name parameter found
    exact ⟨bound, by simpa [lookup, Bindings.push, Table.find?, same] using isBound⟩

end Bindings.Cover

namespace Expression.Scoped

variable {scope : List Parameter} {expression : Expression}

/-- A scoped expression finds all of its parameters where its scope is bound. -/
theorem evaluate_finds
    {bindings : Bindings}
    (wellScoped : Scoped scope expression)
    (cover : bindings.Cover scope) : Finds (expression.evaluate bindings) := by
  induction wellScoped generalizing bindings with
  | constant => exact .of_ok _
  | @parameter scope name type innermost =>
      obtain ⟨value, isBound⟩ := cover name _ innermost
      simp only [evaluate, isBound]
      exact .of_ok value
  | read _ source => exact (source cover).bind fun value => value.member_finds _
  | comparison _ _ left right | has _ _ left right =>
      exact (left cover).bind fun _ => (right cover).bind fun _ => .of_ok _
  | arithmetic _ _ left right =>
      exact (left cover).bind fun _ => (right cover).bind fun _ => Arithmetic.apply_finds _ _ _
  | logical _ _ left right =>
      apply (left cover).bind
      intro leftValue
      apply leftValue.truth?_finds.bind
      intro leftKnown
      split
      · exact .of_ok _
      · exact (right cover).bind fun rightValue => rightValue.truth?_finds.bind fun _ => .of_ok _
  | not _ operand => exact (operand cover).bind Value.complement_finds
  | negate _ operand => exact (operand cover).bind Value.negate_finds
  | isNull _ operand | convert _ operand => exact (operand cover).bind fun _ => .of_ok _
  | coalesce _ _ operand fallback =>
      apply (operand cover).bind
      intro value
      split
      · exact fallback cover
      · exact .of_ok value
  | conditional _ _ _ test whenTrue whenFalse =>
      apply (test cover).bind
      intro value
      split
      · exact whenTrue cover
      · exact whenFalse cover
  | @call scope function arguments type _ each =>
      have together : Finds (evaluateAll arguments bindings) := by
        rw [evaluateAll_eq_all]
        apply Outcome.Finds.all
        intro outcome member
        obtain ⟨argument, isArgument, rfl⟩ := List.mem_map.mp member
        exact each argument isArgument cover
      apply together.bind
      intro values
      split
      · exact .of_error not_false
      · exact function.apply_finds values
  | @quantified scope quantifier _ _ item type _ _ source body =>
      apply (source cover).bind
      intro value
      apply (value.items_finds _).bind
      intro items
      apply Outcome.Finds.bind _ fun _ => .of_ok _
      apply Outcome.Finds.test
      intro argument
      exact (body (cover.push item argument)).bind Value.truth_finds
  | count _ source =>
      exact (source cover).bind fun value => (value.items_finds _).bind fun items =>
        Value.ofCount_finds _
  | @countWhere scope _ _ item type _ _ source condition =>
      apply (source cover).bind
      intro value
      apply (value.items_finds _).bind
      intro items
      apply Outcome.Finds.bind _ Value.ofCount_finds
      apply Outcome.Finds.countHolding
      intro argument
      exact (condition ((Bindings.Cover.of_empty bindings).push item argument)).bind
        Value.truth_finds

end Expression.Scoped

end ClauseBinding
