import ClauseBinding.Proofs.Meaning.Evaluator
import ClauseBinding.Proofs.Soundness.Operator

/-!
Contract: the types that binding chooses for operands, seen from the values.

Owns: comparisons and arithmetic in the chosen type, which are those in the
common type of the values themselves.

Does not own: how operands come by their values.
-/

namespace ClauseBinding

variable {catalog : Catalog}

/-! ## Values -/

namespace Value

variable {conversions : ConversionTable} {left right : Value}
  {leftType rightType target : DataType}

private theorem convert_own
    {value : Value}
    {data : DataType}
    (own : value.dataType? = some data) : value.convert data = value := by
  rw [convert, if_pos own]

private theorem inCommonType_of_null_left (right : Value) :
    inCommonType conversions .null right = (.null, right) :=
  rfl

private theorem inCommonType_of_null_right (left : Value) :
    inCommonType conversions left .null = (left, .null) := by
  cases left <;> rfl

/-- Numbers are converted to the common type of their types. -/
theorem inCommonType_of_numeric
    (leftOwn : left.dataType? = some leftType)
    (rightOwn : right.dataType? = some rightType)
    (numeric : (leftType.isNumeric && rightType.isNumeric) = true)
    (common : conversions.commonType? leftType rightType = some target) :
    inCommonType conversions left right = (left.convert target, right.convert target) := by
  simp only [inCommonType, leftOwn, rightOwn, numeric, common, if_true]

/-- Values of one type that is not numeric are left as they are. -/
theorem inCommonType_of_same
    (leftOwn : left.dataType? = some target)
    (rightOwn : right.dataType? = some target)
    (numeric : ¬(target.isNumeric && target.isNumeric) = true) :
    inCommonType conversions left right = (left.convert target, right.convert target) := by
  simp only [inCommonType, leftOwn, rightOwn, numeric, convert_own leftOwn, convert_own rightOwn]
  rfl

/-- A present value of an operand shows the type of the operand, which says something then. -/
private theorem Conforms.shows_operand
    {operand : Expression}
    {value : Value}
    (conforms : value.Conforms catalog operand.type)
    (conservative : catalog.conversions.Conservative)
    (accepted : Signature.acceptsArgument catalog.conversions target operand.type = true)
    (single : target.isOrderable = true)
    (present : value.isNull = false) :
    value.dataType? = some operand.data ∧ operand.data ≠ .null := by
  have own : value.dataType? = some operand.data :=
    conforms.own_type_of_accepted conservative accepted single present
  refine ⟨own, ?_⟩
  intro untyped
  rw [untyped] at own
  exact looksLike_of_dataType? own

end Value

/-! ## Operators -/

theorem Comparison.apply_of_null
    (operator : Comparison)
    {left right : Value}
    (absent : (left.isNull || right.isNull) = true) : operator.apply left right = .null := by
  rw [apply, if_pos absent]

/-- A comparison in the type that binding chooses is one in the common type of
the values. -/
theorem Comparison.apply_convert
    (conservative : catalog.conversions.Conservative)
    (operator : Comparison)
    {left right : Expression}
    {target : DataType}
    {leftValue rightValue : Value}
    (chosen : Expression.comparisonType? catalog.conversions operator left.data right.data =
      some target)
    (leftConforms : leftValue.Conforms catalog left.type)
    (rightConforms : rightValue.Conforms catalog right.type) :
    operator.apply (leftValue.convert target) (rightValue.convert target) =
      operator.apply (Value.inCommonType catalog.conversions leftValue rightValue).1
        (Value.inCommonType catalog.conversions leftValue rightValue).2 := by
  obtain ⟨leftAccepted, rightAccepted⟩ := Expression.comparisonType?_accepts chosen
  have leftSame := leftConforms.isNull_promote conservative leftAccepted
  have rightSame := rightConforms.isNull_promote conservative rightAccepted
  -- Beside an absent operand the types do not matter; two present ones show theirs.
  cases leftAbsent : leftValue.isNull with
  | true =>
      rw [operator.apply_of_null (by rw [leftSame, leftAbsent, Bool.true_or])]
      obtain rfl := Value.isNull_iff.mp leftAbsent
      rw [Value.inCommonType_of_null_left]
      rfl
  | false =>
      cases rightAbsent : rightValue.isNull with
      | true =>
          rw [operator.apply_of_null (by rw [rightSame, rightAbsent, Bool.or_true])]
          obtain rfl := Value.isNull_iff.mp rightAbsent
          rw [Value.inCommonType_of_null_right, operator.apply_of_null (by simp [Value.isNull])]
      | false =>
          obtain ⟨typed, comparable⟩ := Option.filter_eq_some_iff.mp chosen
          have single := Expression.isOrderable_of_isComparable comparable
          obtain ⟨leftOwn, leftTyped⟩ :=
            leftConforms.shows_operand conservative leftAccepted single leftAbsent
          obtain ⟨rightOwn, rightTyped⟩ :=
            rightConforms.shows_operand conservative rightAccepted single rightAbsent
          simp only [leftTyped, rightTyped, false_and, if_false] at typed
          split at typed
          case isTrue numeric =>
            rw [Value.inCommonType_of_numeric leftOwn rightOwn numeric typed]
          case isFalse other =>
            split at typed
            case isTrue same =>
              obtain rfl := Option.some.inj typed
              rw [← same] at rightOwn other
              rw [Value.inCommonType_of_same leftOwn rightOwn other]
            case isFalse => cases typed

/-- Arithmetic in the type that binding chooses is arithmetic in the common type
of the values. -/
theorem Arithmetic.apply_convert
    (conservative : catalog.conversions.Conservative)
    (operator : Arithmetic)
    {left right : Expression}
    {target : DataType}
    {leftValue rightValue : Value}
    (chosen : Expression.arithmeticType? catalog.conversions left.data right.data = some target)
    (leftConforms : leftValue.Conforms catalog left.type)
    (rightConforms : rightValue.Conforms catalog right.type) :
    operator.apply (leftValue.convert target) (rightValue.convert target) =
      operator.onValues catalog leftValue rightValue := by
  obtain ⟨numeric, leftAccepted, rightAccepted⟩ :=
    Expression.arithmeticType?_accepts conservative chosen
  have single : target.isOrderable = true := by cases target <;> first | rfl | cases numeric
  rw [onValues, ← apply_eq_onOperands]
  cases leftAbsent : leftValue.isNull with
  | true =>
      obtain rfl := Value.isNull_iff.mp leftAbsent
      rw [Value.null_convert, Value.inCommonType_of_null_left]
      rfl
  | false =>
      cases rightAbsent : rightValue.isNull with
      | true =>
          obtain rfl := Value.isNull_iff.mp rightAbsent
          rw [Value.null_convert, Value.inCommonType_of_null_right, apply_null, apply_null]
      | false =>
          obtain ⟨leftOwn, leftTyped⟩ :=
            leftConforms.shows_operand conservative leftAccepted single leftAbsent
          obtain ⟨rightOwn, rightTyped⟩ :=
            rightConforms.shows_operand conservative rightAccepted single rightAbsent
          simp only [Expression.arithmeticType?, leftTyped, rightTyped, false_and, if_false]
            at chosen
          split at chosen
          case isTrue bothNumeric =>
            rw [Value.inCommonType_of_numeric leftOwn rightOwn bothNumeric chosen]
          case isFalse => cases chosen

end ClauseBinding
