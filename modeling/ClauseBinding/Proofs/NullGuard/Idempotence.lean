import ClauseBinding.Proofs.Expression.Induction

/-!
Contract: guarding twice is guarding once.

Owns:
- what guarding leaves as it is: guards built anew, and folds of unknown conditions;
- idempotence of guarding, for expressions and for conditions, alone and one after the other.

Does not own: what guarded expressions evaluate to.

The second pass takes every guard away and builds it from operands that the
first pass has rewritten. It comes out equal because a guard depends on nothing
but the node it stands before, and that node is fixed once its operands are.
-/

namespace ClauseBinding.Expression

/-- A guard is built anew from the node it stands before. -/
theorem guardNulls_guardAbsence
    {node : Expression}
    (rebuilt : node.guardNulls = node.guardAbsence) :
    node.guardAbsence.guardNulls = node.guardAbsence := by
  cases test : node.absenceTest? with
  | none =>
      have bare : node.guardAbsence = node := by simp only [guardAbsence, test]
      rw [bare, rebuilt, bare]
  | some found =>
      have guardedNode : node.guardAbsence = guarded found node := by
        simp only [guardAbsence, test]
      rw [guardedNode]
      simp only [guarded, guardNulls, if_true]
      rw [rebuilt, guardedNode, guarded]

/-- A fold of an unknown condition adds nothing that guarding would change. -/
theorem guardNulls_unknownToFalse
    {condition : Expression}
    (fixed : condition.guardNulls = condition) :
    condition.unknownToFalse.guardNulls = condition.unknownToFalse := by
  unfold unknownToFalse
  split
  · simp only [orElse, ofBool, guardNulls, fixed]
  · exact fixed

/-- A folded condition is never unknown, so it is not folded again. -/
theorem unknownToFalse_unknownToFalse (condition : Expression) :
    condition.unknownToFalse.unknownToFalse = condition.unknownToFalse := by
  by_cases unknown : condition.type = .optional .bool
  · have folded : condition.unknownToFalse = orElse condition (ofBool false) := by
      simp only [unknownToFalse, unknown, if_true]
    have known : condition.unknownToFalse.type ≠ .optional .bool := by
      rw [folded]
      simp [orElse, type, isNullable, ofBool, ValueType.required, ValueType.optional]
    rw [unknownToFalse, if_neg known]
  · have kept : condition.unknownToFalse = condition := by
      simp only [unknownToFalse, unknown, if_false]
    rw [kept, kept]

private theorem guardCondition_of_guardNulls_eq
    {condition : Expression}
    (fixed : condition.guardNulls = condition) :
    condition.unknownToFalse.guardCondition = condition.unknownToFalse := by
  rw [guardCondition, guardNulls_unknownToFalse fixed, unknownToFalse_unknownToFalse]

/-- Guarding a guarded expression changes nothing. The conditions inside
quantifiers and counts are folded as well, which the hypothesis on the body
covers through `guardNulls_unknownToFalse`. -/
theorem guardNulls_guardNulls (expression : Expression) :
    expression.guardNulls.guardNulls = expression.guardNulls := by
  induction expression with
  | constant | parameter => rfl
  | conditional test whenTrue whenFalse isGuard type testFixed whenTrueFixed whenFalseFixed =>
      cases isGuard with
      | true => simpa only [guardNulls, if_true] using whenFalseFixed
      | false =>
          simp only [guardNulls, Bool.false_eq_true, if_false]
          rw [testFixed, whenTrueFixed, whenFalseFixed]
  | read source member type sourceFixed =>
      simp only [guardNulls]
      apply guardNulls_guardAbsence
      rw [guardNulls, sourceFixed]
  | call function arguments type argumentsFixed =>
      simp only [guardNulls]
      apply guardNulls_guardAbsence
      have fixed : guardNullsAll (guardNullsAll arguments) = guardNullsAll arguments := by
        simp only [guardNullsAll_eq_map, List.map_map]
        exact List.map_congr_left argumentsFixed
      rw [guardNulls, fixed]
  | quantified quantifier source item body type sourceFixed bodyFixed =>
      simp only [guardNulls]
      apply guardNulls_guardAbsence
      rw [guardNulls, sourceFixed, guardNulls_unknownToFalse bodyFixed,
        unknownToFalse_unknownToFalse]
  | count source type sourceFixed =>
      simp only [guardNulls]
      apply guardNulls_guardAbsence
      rw [guardNulls, sourceFixed]
  | countWhere source item condition type sourceFixed conditionFixed =>
      simp only [guardNulls]
      apply guardNulls_guardAbsence
      rw [guardNulls, sourceFixed, guardNulls_unknownToFalse conditionFixed,
        unknownToFalse_unknownToFalse]
  | comparison operator left right type leftFixed rightFixed
  | logical operator left right type leftFixed rightFixed
  | arithmetic operator left right type leftFixed rightFixed
  | has left right type leftFixed rightFixed
  | coalesce left right type leftFixed rightFixed =>
      simp only [guardNulls]
      rw [leftFixed, rightFixed]
  | not operand type operandFixed
  | negate operand type operandFixed
  | isNull operand negated type operandFixed
  | convert operand type operandFixed =>
      simp only [guardNulls]
      rw [operandFixed]

/-- Guarding a condition that was guarded before changes nothing. -/
theorem guardCondition_guardCondition (condition : Expression) :
    condition.guardCondition.guardCondition = condition.guardCondition :=
  guardCondition_of_guardNulls_eq (guardNulls_guardNulls condition)

/-- Guarding is idempotent on every expression, whatever types it records and
whatever conditionals it holds: for expressions, for conditions, and for the one
after the other. -/
theorem guarding_idempotent (expression : Expression) :
    expression.guardNulls.guardNulls = expression.guardNulls
      ∧ expression.guardCondition.guardCondition = expression.guardCondition
      ∧ expression.guardCondition.guardNulls = expression.guardCondition
      ∧ expression.guardNulls.guardCondition = expression.guardCondition := by
  have fixed := guardNulls_guardNulls expression
  refine ⟨fixed, guardCondition_guardCondition expression, ?_, ?_⟩
  · exact guardNulls_unknownToFalse fixed
  · rw [guardCondition, fixed, guardCondition]

end ClauseBinding.Expression
