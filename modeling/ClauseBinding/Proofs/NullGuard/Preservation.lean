import ClauseBinding.Proofs.NullGuard.Evaluation

/-!
Contract: guarding keeps every value that an expression has.

Owns:
- expressions in which no conditional is marked as a guard;
- that their values survive guarding, of expressions and of conditions, under any
  bindings and whatever types are recorded;
- hence that guarding brings about no failure of its own.

Does not own: what becomes of expressions that fail before they are guarded.
-/

namespace ClauseBinding.Expression

open ClauseBinding.Outcome

mutual

/-- Whether some conditional is marked as a guard. -/
def hasGuard : Expression → Bool
  | .constant _ _ => false
  | .parameter _ _ => false
  | .read source _ _ => source.hasGuard
  | .comparison _ left right _ => left.hasGuard || right.hasGuard
  | .logical _ left right _ => left.hasGuard || right.hasGuard
  | .arithmetic _ left right _ => left.hasGuard || right.hasGuard
  | .has value flag _ => value.hasGuard || flag.hasGuard
  | .not operand _ => operand.hasGuard
  | .negate operand _ => operand.hasGuard
  | .isNull operand _ _ => operand.hasGuard
  | .coalesce operand fallback _ => operand.hasGuard || fallback.hasGuard
  | .convert operand _ => operand.hasGuard
  | .conditional test whenTrue whenFalse isGuard _ =>
      isGuard || test.hasGuard || whenTrue.hasGuard || whenFalse.hasGuard
  | .call _ arguments _ => anyHasGuard arguments
  | .quantified _ source _ body _ => source.hasGuard || body.hasGuard
  | .count source _ => source.hasGuard
  | .countWhere source _ condition _ => source.hasGuard || condition.hasGuard
termination_by structural expression => expression

def anyHasGuard : List Expression → Bool
  | [] => false
  | first :: rest => first.hasGuard || anyHasGuard rest
termination_by structural expressions => expressions

end

private theorem hasGuard_of_mem
    {expressions : List Expression}
    (unguarded : anyHasGuard expressions = false) :
    ∀ expression ∈ expressions, expression.hasGuard = false := by
  induction expressions with
  | nil => simp
  | cons first rest inductionHypothesis =>
      simp only [anyHasGuard, Bool.or_eq_false_iff] at unguarded
      exact List.forall_mem_cons.mpr ⟨unguarded.1, inductionHypothesis unguarded.2⟩

/-! ## Operands -/

private theorem refines_evaluateAll
    {rewrite : Expression → Expression}
    {expressions : List Expression}
    {bindings : Bindings}
    (refined : ∀ expression ∈ expressions,
      Refines (expression.evaluate bindings) ((rewrite expression).evaluate bindings)) :
    Refines (evaluateAll expressions bindings)
      (evaluateAll (expressions.map rewrite) bindings) := by
  induction expressions with
  | nil => exact Refines.refl _
  | cons first rest inductionHypothesis =>
      apply Refines.bind (refined first List.mem_cons_self)
      intro value _
      apply Refines.bind (inductionHypothesis fun expression member =>
        refined expression (List.mem_cons_of_mem first member))
      intro values _
      exact Refines.refl _

/-- Among operands that are all present no absent one is found. -/
theorem anyAbsent_filter_of_present
    {expressions : List Expression}
    {values : List Value}
    {bindings : Bindings}
    (select : Expression → Bool)
    (evaluated : evaluateAll expressions bindings = .ok values)
    (present : values.any Value.isNull = false) :
    anyAbsent (expressions.filter select) bindings = .ok false := by
  induction expressions generalizing values with
  | nil => rfl
  | cons first rest inductionHypothesis =>
      obtain ⟨value, isValue, evaluatedRest⟩ := bind_eq_ok.mp evaluated
      obtain ⟨others, areOthers, together⟩ := bind_eq_ok.mp evaluatedRest
      obtain rfl : value :: others = values := Except.ok.inj together
      simp only [List.any_cons, Bool.or_eq_false_iff] at present
      have absentRest := inductionHypothesis areOthers present.2
      cases selected : select first with
      | false => rw [List.filter_cons_of_neg (by simp [selected]), absentRest]
      | true =>
          rw [List.filter_cons_of_pos selected, anyAbsent, isValue]
          simp [present.1, absentRest]

/-- A guarded node with one dereferenced operand has every value that it has
without the guard, as it fails without it on an absent operand. -/
theorem refines_guardAbsence_of_single
    {node source : Expression}
    {bindings : Bindings}
    {outcome : Except Failure Value}
    {next next' : Value → Except Failure Value}
    {failure : Failure}
    (single : node.dereferenced = [source])
    (evaluated : node.evaluate bindings = source.evaluate bindings >>= next')
    (operand : Refines outcome (source.evaluate bindings))
    (rest : ∀ value, Refines (next value) (next' value))
    (absentFails : next .null = .error failure) :
    Refines (outcome >>= next) (node.guardAbsence.evaluate bindings) := by
  rw [evaluate_guardAbsence_of_single single evaluated]
  apply operand.bind
  intro value _
  cases value with
  | null =>
      rw [absentFails]
      exact Refines.of_error failure _
  | _ => simpa [Value.isNull] using rest _

/-- Folding does not change what a condition decides. -/
theorem truth_unknownToFalse
    (condition : Expression)
    (bindings : Bindings) :
    condition.unknownToFalse.evaluate bindings >>= Value.truth =
      condition.evaluate bindings >>= Value.truth := by
  rw [evaluate_unknownToFalse]
  cases condition.evaluate bindings with
  | error failure => rfl
  | ok value =>
      by_cases folded : condition.type = .optional .bool ∧ value.isNull
      · cases value with
        | null => simp only [ok_bind, folded, and_self, if_true]; rfl
        | _ => exact absurd folded.2 (by simp [Value.isNull])
      · simp only [ok_bind, folded, if_false]

/-! ## Guarding by the kind of node -/

/-- Guarding keeps the values of an expression, if it has no guards. The bindings are
general, as bodies of quantifiers and counts are evaluated under more of them. -/
def GuardingKeeps (expression : Expression) : Prop :=
  expression.hasGuard = false → ∀ bindings,
    Refines (expression.evaluate bindings) (expression.guardNulls.evaluate bindings)

namespace GuardingKeeps

variable {source body : Expression} {item : Parameter} {type : ValueType}

/-- A guarded condition decides about a value as it did before, where it did. -/
private theorem truth
    (bodyKept : body.GuardingKeeps)
    (unguarded : body.hasGuard = false)
    (bindings : Bindings) :
    Refines (body.evaluate bindings >>= Value.truth)
      (body.guardNulls.unknownToFalse.evaluate bindings >>= Value.truth) := by
  rw [truth_unknownToFalse]
  exact (bodyKept unguarded bindings).bind fun _ _ => Refines.refl _

private theorem quantified
    (quantifier : Quantifier)
    (sourceKept : source.GuardingKeeps)
    (bodyKept : body.GuardingKeeps) :
    GuardingKeeps (.quantified quantifier source item body type) := by
  intro unguarded bindings
  simp only [hasGuard, Bool.or_eq_false_iff] at unguarded
  refine refines_guardAbsence_of_single rfl rfl (sourceKept unguarded.1 bindings) ?_ rfl
  intro value
  apply (Refines.refl _).bind
  intro items _
  apply (Refines.test quantifier items fun argument _ => bodyKept.truth unguarded.2 _).bind
  intro held _
  exact Refines.refl _

private theorem countWhere
    (sourceKept : source.GuardingKeeps)
    (conditionKept : body.GuardingKeeps) :
    GuardingKeeps (.countWhere source item body type) := by
  intro unguarded bindings
  simp only [hasGuard, Bool.or_eq_false_iff] at unguarded
  refine refines_guardAbsence_of_single rfl rfl (sourceKept unguarded.1 bindings) ?_ rfl
  intro value
  apply (Refines.refl _).bind
  intro items _
  apply (Refines.countHolding items fun argument _ => conditionKept.truth unguarded.2 _).bind
  intro held _
  exact Refines.refl _

private theorem call
    {arguments : List Expression}
    (function : Function)
    (each : ∀ argument ∈ arguments, argument.GuardingKeeps) :
    GuardingKeeps (.call function arguments type) := by
  intro unguarded bindings
  have kept : Refines (evaluateAll arguments bindings)
      (evaluateAll (guardNullsAll arguments) bindings) := by
    rw [guardNullsAll_eq_map]
    exact refines_evaluateAll fun argument member =>
      each argument member (hasGuard_of_mem unguarded argument member) bindings
  intro result succeeds
  obtain ⟨values, evaluated, applied⟩ := bind_eq_ok.mp succeeds
  cases absent : values.any Value.isNull with
  -- Unguarded, the call fails on an absent argument; there is no value to keep.
  | true => simp [absent] at applied
  | false =>
      have guardedValues := kept values evaluated
      have found := anyAbsent_filter_of_present isNullable guardedValues absent
      rw [guardNulls, evaluate_guardAbsence]
      simp only [dereferenced, found, ok_bind, evaluate, guardedValues]
      exact applied

private theorem logical
    {left right : Expression}
    (operator : Connective)
    (leftKept : left.GuardingKeeps)
    (rightKept : right.GuardingKeeps) :
    GuardingKeeps (.logical operator left right type) := by
  intro unguarded bindings
  simp only [hasGuard, Bool.or_eq_false_iff] at unguarded
  apply (leftKept unguarded.1 bindings).bind
  intro value _
  apply (Refines.refl _).bind
  intro known _
  split
  · exact Refines.refl _
  · exact (rightKept unguarded.2 bindings).bind fun _ _ => Refines.refl _

end GuardingKeeps

theorem refines_guardNulls (expression : Expression) : expression.GuardingKeeps := by
  induction expression with
  | constant | parameter => exact fun _ _ => Refines.refl _
  | read source member type sourceKept =>
      intro unguarded bindings
      exact refines_guardAbsence_of_single rfl rfl (sourceKept unguarded bindings)
        (fun _ => Refines.refl _) rfl
  | count source type sourceKept =>
      intro unguarded bindings
      exact refines_guardAbsence_of_single rfl rfl (sourceKept unguarded bindings)
        (fun _ => Refines.refl _) rfl
  | quantified quantifier source item body type sourceKept bodyKept =>
      exact sourceKept.quantified quantifier bodyKept
  | countWhere source item condition type sourceKept conditionKept =>
      exact sourceKept.countWhere conditionKept
  | call function arguments type argumentsKept => exact .call function argumentsKept
  | conditional test whenTrue whenFalse isGuard type testKept whenTrueKept whenFalseKept =>
      intro unguarded bindings
      simp only [hasGuard, Bool.or_eq_false_iff] at unguarded
      obtain ⟨⟨⟨rfl, testUnguarded⟩, whenTrueUnguarded⟩, whenFalseUnguarded⟩ := unguarded
      apply (testKept testUnguarded bindings).bind
      intro value _
      split
      · exact whenTrueKept whenTrueUnguarded bindings
      · exact whenFalseKept whenFalseUnguarded bindings
  | logical operator left right type leftKept rightKept =>
      exact leftKept.logical operator rightKept
  | coalesce operand fallback type operandKept fallbackKept =>
      intro unguarded bindings
      simp only [hasGuard, Bool.or_eq_false_iff] at unguarded
      apply (operandKept unguarded.1 bindings).bind
      intro value _
      split
      · exact fallbackKept unguarded.2 bindings
      · exact Refines.refl _
  | comparison operator left right type leftKept rightKept
  | arithmetic operator left right type leftKept rightKept
  | has left right type leftKept rightKept =>
      intro unguarded bindings
      simp only [hasGuard, Bool.or_eq_false_iff] at unguarded
      apply (leftKept unguarded.1 bindings).bind
      intro value _
      exact (rightKept unguarded.2 bindings).bind fun _ _ => Refines.refl _
  | not operand type operandKept
  | negate operand type operandKept
  | isNull operand negated type operandKept
  | convert operand type operandKept =>
      intro unguarded bindings
      exact (operandKept unguarded bindings).bind fun _ _ => Refines.refl _

/-- Guarding a condition keeps its values too, except that an absent value may
become false. -/
theorem evaluate_guardCondition_of_ok
    {expression : Expression}
    {bindings : Bindings}
    {value : Value}
    (kept : expression.guardNulls.evaluate bindings = .ok value) :
    expression.guardCondition.evaluate bindings = .ok value
      ∨ value.isNull ∧ expression.guardCondition.evaluate bindings = .ok (.bool false) := by
  rw [guardCondition, evaluate_unknownToFalse, kept, ok_bind]
  split
  · rename_i folded
    exact .inr ⟨folded.2, rfl⟩
  · exact .inl rfl

/-- Guarding keeps every value of an expression without guards, whatever types it
records and whatever its parameters are bound to. An absent value stays absent,
or becomes false in a condition. Hence guarding brings about no failure. -/
theorem guarding_preserves_values
    (expression : Expression)
    (unguarded : expression.hasGuard = false)
    (bindings : Bindings) :
    (∀ value, expression.evaluate bindings = .ok value →
      expression.guardNulls.evaluate bindings = .ok value
        ∧ (value.isNull = false → expression.guardCondition.evaluate bindings = .ok value)
        ∧ (value.isNull = true →
            expression.guardCondition.evaluate bindings = .ok .null
              ∨ expression.guardCondition.evaluate bindings = .ok (.bool false)))
      ∧ (∀ failure, expression.guardNulls.evaluate bindings = .error failure →
          ∃ before, expression.evaluate bindings = .error before)
      ∧ (∀ failure, expression.guardCondition.evaluate bindings = .error failure →
          ∃ before, expression.evaluate bindings = .error before) := by
  have refined := refines_guardNulls expression unguarded bindings
  refine ⟨?values, ?failures, ?conditionFailures⟩
  case values =>
    intro value evaluated
    have kept := refined value evaluated
    refine ⟨kept, ?_, ?_⟩
    · intro present
      rcases evaluate_guardCondition_of_ok kept with same | folded
      · exact same
      · simp [present] at folded
    · intro absent
      obtain rfl : value = .null := by cases value <;> simp_all [Value.isNull]
      rcases evaluate_guardCondition_of_ok kept with same | folded
      · exact .inl same
      · exact .inr folded.2
  case failures =>
    intro failure failed
    exact refined.fails failed
  case conditionFailures =>
    intro failure failed
    cases outcome : expression.evaluate bindings with
    | error before => exact ⟨before, rfl⟩
    | ok value =>
        rcases evaluate_guardCondition_of_ok (refined value outcome) with same | folded
        · simp [same] at failed
        · simp [folded.2] at failed

/-- Some item of a collection that may be missing, with items that may be missing,
is the number one. -/
def someItemIsOne : Expression :=
  .quantified .any
    (.parameter "items" (.optional (.collection .int32 true)))
    ⟨"item", .optional .int32⟩
    (compare .eq (.parameter "item" (.optional .int32)) (.constant (.int32 1) (.required .int32)))
    (.optional .bool)

theorem guarding_preserves_values_someItemIsOne :
    someItemIsOne.hasGuard = false
      ∧ someItemIsOne.evaluate [("items", .collection [.null, .int32 1])] = .ok (.bool true)
      ∧ someItemIsOne.guardNulls.evaluate [("items", .collection [.null, .int32 1])] =
          .ok (.bool true) :=
  have evaluated :
      someItemIsOne.evaluate [("items", .collection [.null, .int32 1])] = .ok (.bool true) := rfl
  ⟨rfl, evaluated, ((guarding_preserves_values someItemIsOne rfl _).1 _ evaluated).1⟩

end ClauseBinding.Expression
