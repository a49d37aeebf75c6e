import ClauseBinding.Evaluation.Rows
import ClauseBinding.Proofs.Binding.Limit
import ClauseBinding.Proofs.Meaning.Literals
import ClauseBinding.Proofs.NullGuard.Preservation

/-!
Contract: conditions of filters, and the predicates that they are bound to.

Owns:
- operators on truth values, which need no promotion;
- that what a clause is bound to is no conditional, so that guarding keeps its data type;
- that a scope leaves a clause one expression at most;
- what the predicate of a filter decides, read off any derivation of its condition;
- that a filter is bound where another one is, if their conditions have derivations alike.

Does not own: the derivations of the conditions.
-/

namespace ClauseBinding

open ClauseBinding.Outcome

/-! ## Data types under guards -/

namespace Expression

variable {catalog : Catalog} {left right operand expression : Expression}

theorem data_guardAbsence (node : Expression) : node.guardAbsence.data = node.data := by
  unfold guardAbsence
  split <;> rfl

/-- Guarding keeps the data type of everything but conditionals, which it may take away. -/
theorem data_guardNulls
    (unconditional : expression.shape ≠ .conditional) :
    expression.guardNulls.data = expression.data := by
  cases expression with
  | conditional => exact absurd rfl unconditional
  | read | call | quantified | count | countWhere => exact data_guardAbsence _
  | _ => rfl

theorem data_unknownToFalse (condition : Expression) :
    condition.unknownToFalse.data = condition.data := by
  unfold unknownToFalse
  split <;> rfl

/-- A condition that may be unknown is a truth value once it is folded; every other one is
left as it is. -/
theorem type_unknownToFalse (condition : Expression) :
    condition.unknownToFalse.type =
      if condition.type = .optional .bool then .required .bool else condition.type := by
  unfold unknownToFalse
  split
  case isTrue unknown =>
    rw [orElse, type, unknown]
    rfl
  case isFalse => rfl

/-! ## Truth values -/

theorem isTruthLike_of_truth (isTruth : operand.data = .bool) : operand.isTruthLike = true := by
  simp [isTruthLike, isTruth]

theorem promote_of_truth (isTruth : operand.data = .bool) : operand.promote .bool = operand :=
  if_pos isTruth

/-- Truth values are connected as they are. -/
theorem bindConnective_of_truth
    {operator : Connective}
    (leftIsTruth : left.data = .bool)
    (rightIsTruth : right.data = .bool) :
    bindConnective operator left right = .ok (connect operator left right) := by
  rw [bindConnective, isTruthLike_of_truth leftIsTruth, isTruthLike_of_truth rightIsTruth,
    promote_of_truth leftIsTruth, promote_of_truth rightIsTruth]
  rfl

/-- A truth value is negated as it is. -/
theorem bindUnary_not_of_truth (isTruth : operand.data = .bool) :
    bindUnary .not operand = .ok (negation operand) := by
  simp only [bindUnary, isTruthLike_of_truth isTruth, promote_of_truth isTruth, if_true]

/-- A quantifier takes a truth value for its body as it is. -/
theorem bindQuantified_of_truth
    {quantifier : Quantifier}
    {source body : Expression}
    {item : Parameter}
    (isTruth : body.data = .bool) :
    bindQuantified quantifier source item body =
      .ok (.quantified quantifier source item body ⟨.bool, source.isNullable⟩) := by
  simp only [bindQuantified, isTruthLike_of_truth isTruth, promote_of_truth isTruth, if_true]

end Expression

/-! ## Bound clauses -/

private theorem Clause.Binds.unconditional
    {catalog : Catalog}
    {scope : List Parameter}
    {clause : Clause}
    {expression : Expression}
    (binds : Binds catalog scope clause expression) : expression.shape ≠ .conditional := by
  cases binds with
  | literal | reference | count | countWhere => rintro ⟨⟩
  | member _ bound =>
      obtain ⟨_, _, _, _, rfl⟩ := Expression.bindMember_eq_ok bound
      rintro ⟨⟩
  | binary _ _ bound => cases Expression.binaryRule_of_bind bound <;> rintro ⟨⟩
  | unary _ bound => cases Expression.unaryRule_of_bind bound <;> rintro ⟨⟩
  | call _ _ bound =>
      obtain ⟨_, _, _, rfl⟩ := Expression.bindCall_eq_ok bound
      rintro ⟨⟩
  | cast _ bound => cases Expression.castRule_of_bind bound <;> rintro ⟨⟩
  | quantified _ _ _ bound =>
      obtain ⟨_, rfl⟩ := Expression.bindQuantified_eq_ok bound
      rintro ⟨⟩

/-- A condition that makes a predicate is a truth value, before it is guarded as well. -/
theorem Clause.Binds.data_of_truth
    {catalog : Catalog}
    {scope : List Parameter}
    {clause : Clause}
    {condition : Expression}
    (binds : Binds catalog scope clause condition)
    (isTruth : condition.guardCondition.type = .required .bool) : condition.data = .bool := by
  rw [← Expression.data_guardNulls binds.unconditional, ← Expression.data_unknownToFalse]
  exact congrArg ValueType.data isTruth

/-- In a scope a clause is bound to one expression at most. -/
theorem Clause.Binds.unique
    {context : Context}
    {clause : Clause}
    {left right : Expression}
    (leftBinds : Binds context.catalog context.scope clause left)
    (rightBinds : Binds context.catalog context.scope clause right)
    (fits : context.Fits clause.need) : left = right := by
  have leftBound := Clause.bind_of_binds leftBinds fits rfl rfl
  have rightBound := Clause.bind_of_binds rightBinds fits rfl rfl
  exact Except.ok.inj (leftBound.symm.trans rightBound)

/-! ## Filters -/

namespace FilterClause

/-- A filter accepts what its condition decides, as guarding it decides the same. -/
theorem accepts_of_binds
    {filter : FilterClause}
    {type : ValueType}
    {context : Context}
    {predicate : Predicate}
    {condition : Expression}
    (bound : filter.bindOver type context = .ok predicate)
    (binds : Clause.Binds context.catalog (⟨filter.rangeVariable, type⟩ :: context.scope)
      filter.condition condition) :
    condition.data = .bool
      ∧ ∀ value, predicate.accepts value =
        condition.guardNulls.evaluate (Bindings.push [] filter.rangeVariable value)
          >>= Value.truth := by
  obtain ⟨_, fits⟩ := bindOver_eq_ok_iff.mp bound
  obtain ⟨other, otherBinds, isGuarded, isTruth⟩ := bindOver_eq_ok bound
  let inside : Context :=
    { context.deeper with scope := ⟨filter.rangeVariable, type⟩ :: context.scope }
  obtain rfl : other = condition :=
    @Clause.Binds.unique inside _ _ _ otherBinds binds (fits.inside (Nat.le_refl _))
  refine ⟨otherBinds.data_of_truth isTruth, ?_⟩
  intro value
  rw [Predicate.accepts, Lambda.apply, isGuarded]
  exact Expression.truth_unknownToFalse _ _

def BindsIn
    (filter : FilterClause)
    (context : Context) : Prop :=
  ∃ predicate, filter.bindIn context = .ok predicate

/-- A filter is bound where another one is, if its condition needs no more levels and is
bound to something of the same type, guarded, wherever the other condition is bound. -/
theorem BindsIn.alike
    {condition other : Clause}
    {rangeVariable : String}
    {context : Context}
    (noDeeper : other.need ≤ condition.need)
    (counterpart : ∀ {expression : Expression},
      Clause.Binds context.catalog
          (⟨rangeVariable, .required context.elementType⟩ :: context.scope) condition expression →
        ∃ alike,
          Clause.Binds context.catalog
              (⟨rangeVariable, .required context.elementType⟩ :: context.scope) other alike
            ∧ alike.guardNulls.type = expression.guardNulls.type)
    (bound : BindsIn ⟨condition, rangeVariable⟩ context) :
    BindsIn ⟨other, rangeVariable⟩ context := by
  obtain ⟨predicate, bound⟩ := bound
  obtain ⟨⟨expression, binds, made⟩, fits⟩ := bindOver_eq_ok_iff.mp bound
  obtain ⟨_, isTruth⟩ := Predicate.ofCondition_eq_ok made
  obtain ⟨alike, alikeBinds, sameType⟩ := counterpart binds
  have alikeIsTruth : alike.guardCondition.type = .required .bool := by
    rw [Expression.guardCondition, Expression.type_unknownToFalse] at isTruth ⊢
    rw [sameType, isTruth]
  have alikeMade :=
    @Predicate.ofCondition_of_truth ⟨rangeVariable, .required context.elementType⟩ alike
      alikeIsTruth
  have alikeFits : context.Fits (1 + other.need) := by
    simp only [Context.Fits] at fits ⊢
    omega
  exact ⟨_, bindOver_eq_ok_iff.mpr ⟨⟨alike, alikeBinds, alikeMade⟩, alikeFits⟩⟩

end FilterClause

end ClauseBinding
