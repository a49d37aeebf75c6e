import ClauseBinding.Expression.NullGuard
import ClauseBinding.Evaluation.Evaluate

/-!
Contract: induction over typed expressions.

Owns:
- the induction principle in which a call has a hypothesis for each of its arguments;
- lists of expressions, guarded and evaluated, in terms of the single expressions.

Does not own: any property that is shown by it.
-/

namespace ClauseBinding.Expression

/-- Induction over expressions; the arguments of a call are covered by membership. -/
@[elab_as_elim, induction_eliminator]
theorem induction
    {motive : Expression → Prop}
    (constant : ∀ value type, motive (.constant value type))
    (parameter : ∀ name type, motive (.parameter name type))
    (read : ∀ source member type, motive source → motive (.read source member type))
    (comparison : ∀ operator left right type,
      motive left → motive right → motive (.comparison operator left right type))
    (logical : ∀ operator left right type,
      motive left → motive right → motive (.logical operator left right type))
    (arithmetic : ∀ operator left right type,
      motive left → motive right → motive (.arithmetic operator left right type))
    (has : ∀ value flag type, motive value → motive flag → motive (.has value flag type))
    (not : ∀ operand type, motive operand → motive (.not operand type))
    (negate : ∀ operand type, motive operand → motive (.negate operand type))
    (isNull : ∀ operand negated type, motive operand → motive (.isNull operand negated type))
    (coalesce : ∀ operand fallback type,
      motive operand → motive fallback → motive (.coalesce operand fallback type))
    (convert : ∀ operand type, motive operand → motive (.convert operand type))
    (conditional : ∀ test whenTrue whenFalse isGuard type,
      motive test → motive whenTrue → motive whenFalse →
        motive (.conditional test whenTrue whenFalse isGuard type))
    (call : ∀ function arguments type,
      (∀ argument ∈ arguments, motive argument) → motive (.call function arguments type))
    (quantified : ∀ quantifier source item body type,
      motive source → motive body → motive (.quantified quantifier source item body type))
    (count : ∀ source type, motive source → motive (.count source type))
    (countWhere : ∀ source item condition type,
      motive source → motive condition → motive (.countWhere source item condition type))
    (expression : Expression) : motive expression :=
  @Expression.rec motive (fun arguments => ∀ argument ∈ arguments, motive argument)
    constant parameter read comparison logical arithmetic has not negate isNull coalesce convert
    conditional call quantified count countWhere
    (fun _ absurd => nomatch absurd)
    (fun _ _ first rest => List.forall_mem_cons.mpr ⟨first, rest⟩)
    expression

/-- Guarding a list guards each of its expressions. -/
theorem guardNullsAll_eq_map (expressions : List Expression) :
    guardNullsAll expressions = expressions.map guardNulls := by
  induction expressions with
  | nil => rfl
  | cons first rest inductionHypothesis =>
      rw [guardNullsAll, inductionHypothesis, List.map_cons]

end ClauseBinding.Expression
