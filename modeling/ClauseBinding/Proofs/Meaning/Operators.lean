import ClauseBinding.Proofs.Meaning.CommonType

/-!
Contract: bound operators compute what the operators mean on values.

Owns:
- what stands for a truth value, and is promoted to one without a change;
- texts beside enumerations, seen from the value of the enumeration;
- for each operator, the value of whatever it is bound to.

Does not own: the meaning of the operands.
-/

namespace ClauseBinding

open ClauseBinding.Outcome

variable {catalog : Catalog} {scope : List Parameter} {bindings : Bindings}

/-! ## Connectives -/

namespace Expression

variable {left right operand expression : Expression}

theorem evaluate_connect (operator : Connective) :
    (connect operator left right).guardNulls.evaluate bindings =
      operator.onOutcomes (left.guardNulls.evaluate bindings)
        (right.guardNulls.evaluate bindings) := by
  simp only [connect, guardNulls, evaluate, operator.onOutcomes_eq]
  apply bind_congr_of_ok
  intro leftValue _
  apply bind_congr_of_ok
  intro leftKnown _
  split
  case isTrue => rfl
  case isFalse undecided => simp only [operator.combine_eq_kleene _ undecided]

/-- Promotion to a truth value changes no value of what can stand for one. -/
theorem Sound.evaluate_promote_truth
    (sound : Sound catalog scope operand)
    (truthLike : operand.isTruthLike = true)
    (conform : Bindings.Conform catalog scope bindings) :
    (operand.promote .bool).guardNulls.evaluate bindings =
      operand.guardNulls.evaluate bindings := by
  rw [sound.evaluate_promote .bool conform]
  cases outcome : operand.guardNulls.evaluate bindings with
  | error failure => rfl
  | ok value =>
      have conforms := (sound.conforms bindings conform).of_ok outcome
      simp only [isTruthLike, Bool.or_eq_true, beq_iff_eq] at truthLike
      rcases truthLike with truth | untyped
      · rw [ok_bind, ← truth, data, conforms.convert_self]
      · rw [conforms.eq_null untyped, ok_bind, Value.null_convert]

theorem bindConnective_evaluate
    {operator : Connective}
    (leftSound : Sound catalog scope left)
    (rightSound : Sound catalog scope right)
    (bound : bindConnective operator left right = .ok expression)
    (conform : Bindings.Conform catalog scope bindings) :
    expression.guardNulls.evaluate bindings =
      operator.onOutcomes (left.guardNulls.evaluate bindings)
        (right.guardNulls.evaluate bindings) := by
  have rule : BinaryRule catalog left right (.connective operator) expression :=
    binaryRule_of_bind bound
  cases rule with
  | connected leftTruth rightTruth =>
      rw [evaluate_connect, leftSound.evaluate_promote_truth leftTruth conform,
        rightSound.evaluate_promote_truth rightTruth conform]

/-! ## Arithmetic -/

theorem bindArithmetic_evaluate
    {operator : Arithmetic}
    (conservative : catalog.conversions.Conservative)
    (leftSound : Sound catalog scope left)
    (rightSound : Sound catalog scope right)
    (bound : bindArithmetic catalog operator left right = .ok expression)
    (conform : Bindings.Conform catalog scope bindings) :
    expression.guardNulls.evaluate bindings =
      left.guardNulls.evaluate bindings >>= fun leftValue =>
        right.guardNulls.evaluate bindings >>= fun rightValue =>
          operator.onValues catalog leftValue rightValue := by
  have rule : BinaryRule catalog left right (.arithmetic operator) expression :=
    binaryRule_of_bind bound
  cases rule with
  | @calculated _ target chosen =>
      simp only [guardNulls, evaluate, leftSound.evaluate_promote target conform,
        rightSound.evaluate_promote target conform, bind_assoc, ok_bind]
      apply bind_congr_of_ok
      intro leftValue leftIs
      apply bind_congr_of_ok
      intro rightValue rightIs
      exact operator.apply_convert conservative chosen
        ((leftSound.conforms bindings conform).of_ok leftIs)
        ((rightSound.conforms bindings conform).of_ok rightIs)

end Expression

/-! ## Texts beside enumerations -/

namespace Value

variable {value operand : Value} {type : ValueType}

private theorem convert_eq_castTo
    (target : DataType)
    (value : Value) : value.convert target = value.castTo target := by
  cases value with
  | null => exact null_convert target
  | _ => rfl

private theorem standsFor_of_none : standsFor catalog value none operand = operand := by
  cases value <;> rfl

private theorem standsFor_of_shown
    {typeName text : String}
    {named : Int64}
    (own : value.dataType? = some (.enumeration typeName))
    (known : (catalog.enumeration? typeName).bind (·.valueOf? text) = some named) :
    standsFor catalog value (some text) operand = .enumeration typeName named := by
  obtain ⟨number, rfl⟩ := looksLike_of_dataType? own
  simp only [standsFor, known]

/-- Beside a value of another type a text stands for itself. -/
theorem standsFor_of_other
    {beside : Expression}
    (conforms : value.Conforms catalog beside.type)
    (unnamed : beside.enumerationName? = none)
    (literal? : Option String) : standsFor catalog value literal? operand = operand := by
  cases value with
  | enumeration typeName number =>
      have isEnumeration : beside.data = .enumeration typeName := conforms.data_eq rfl
      simp [Expression.enumerationName?, isEnumeration] at unnamed
  | _ => rfl

/-- Beside a text a text stands for itself. -/
theorem standsFor_of_text
    (text : String)
    (literal? : Option String) : standsFor catalog (.string text) literal? operand = operand := by
  cases literal? <;> rfl

end Value

namespace Comparison

variable {typeName text : String} {named : Int64} {value : Value} {type : ValueType}

/-- On the right of an enumeration, a text compares as the value it names. -/
theorem onValues_named_right
    (operator : Comparison)
    (literal? : Option String)
    (conforms : value.Conforms catalog type)
    (enumerated : type.data = .enumeration typeName)
    (known : (catalog.enumeration? typeName).bind (·.valueOf? text) = some named) :
    operator.onValues catalog literal? (some text) value (.string text) =
      operator.onValues catalog none none value (.enumeration typeName named) := by
  cases absent : value.isNull with
  | true =>
      obtain rfl := Value.isNull_iff.mp absent
      cases literal? <;> rfl
  | false =>
      have own := conforms.own_enumeration enumerated absent
      simp only [onValues, Value.standsFor_of_text, Value.standsFor_of_none,
        Value.standsFor_of_shown own known]

/-- On the left of an enumeration, a text compares as the value it names. -/
theorem onValues_named_left
    (operator : Comparison)
    (literal? : Option String)
    (conforms : value.Conforms catalog type)
    (enumerated : type.data = .enumeration typeName)
    (known : (catalog.enumeration? typeName).bind (·.valueOf? text) = some named) :
    operator.onValues catalog (some text) literal? (.string text) value =
      operator.onValues catalog none none (.enumeration typeName named) value := by
  cases absent : value.isNull with
  | true =>
      obtain rfl := Value.isNull_iff.mp absent
      cases literal? <;> rfl
  | false =>
      have own := conforms.own_enumeration enumerated absent
      simp only [onValues, Value.standsFor_of_text, Value.standsFor_of_none,
        Value.standsFor_of_shown own known]

end Comparison

namespace Expression

variable {left right expression : Expression}

/-- Where binding replaces no text, none stands for anything but itself. -/
theorem standsFor_of_besideEnumeration?_none
    {operation : String}
    {value operand : Value}
    (found : besideEnumeration? catalog operation left right = .ok none)
    (conforms : value.Conforms catalog left.type) :
    Value.standsFor catalog value right.textConstant? operand = operand := by
  unfold besideEnumeration? at found
  split at found
  case h_1 => rw [enumerationConstant?_none found, Value.standsFor_of_none]
  case h_2 unnamed => exact Value.standsFor_of_other conforms unnamed _

/-! ## Comparisons -/

/-- A comparison of promoted operands compares their values in the common type. -/
theorem evaluate_compare
    {operator : Comparison}
    {target : DataType}
    (conservative : catalog.conversions.Conservative)
    (leftSound : Sound catalog scope left)
    (rightSound : Sound catalog scope right)
    (chosen : comparisonType? catalog.conversions operator left.data right.data = some target)
    (conform : Bindings.Conform catalog scope bindings) :
    (compare operator (left.promote target) (right.promote target)).guardNulls.evaluate bindings =
      left.guardNulls.evaluate bindings >>= fun leftValue =>
        right.guardNulls.evaluate bindings >>= fun rightValue =>
          .ok (operator.onValues catalog none none leftValue rightValue) := by
  simp only [compare, guardNulls, evaluate, leftSound.evaluate_promote target conform,
    rightSound.evaluate_promote target conform, bind_assoc, ok_bind]
  apply bind_congr_of_ok
  intro leftValue leftIs
  apply bind_congr_of_ok
  intro rightValue rightIs
  have leftConforms := (leftSound.conforms bindings conform).of_ok leftIs
  have rightConforms := (rightSound.conforms bindings conform).of_ok rightIs
  rw [pure_eq_ok, operator.apply_convert conservative chosen leftConforms rightConforms,
    Comparison.onValues, Value.standsFor_of_none, Value.standsFor_of_none,
    operator.apply_eq_onOperands]

/-- A comparison of resolved operands compares what the operands mean. -/
theorem Resolves.evaluate_compare
    {operator : Comparison}
    {operation : String}
    {resolvedLeft resolvedRight : Expression}
    {target : DataType}
    (conservative : catalog.conversions.Conservative)
    (leftSound : Sound catalog scope left)
    (rightSound : Sound catalog scope right)
    (resolves : Resolves catalog operation left right resolvedLeft resolvedRight)
    (chosen : comparisonType? catalog.conversions operator resolvedLeft.data resolvedRight.data =
      some target)
    (conform : Bindings.Conform catalog scope bindings) :
    (compare operator (resolvedLeft.promote target)
        (resolvedRight.promote target)).guardNulls.evaluate bindings =
      left.guardNulls.evaluate bindings >>= fun leftValue =>
        right.guardNulls.evaluate bindings >>= fun rightValue =>
          .ok (operator.onValues catalog left.textConstant? right.textConstant?
            leftValue rightValue) := by
  obtain ⟨resolvedLeftSound, resolvedRightSound⟩ :=
    resolves.both leftSound rightSound ofNamed_sound
  rw [Expression.evaluate_compare conservative resolvedLeftSound resolvedRightSound chosen
    conform]
  cases resolves with
  | namedRight enumerated isText known =>
      obtain ⟨type, rfl⟩ := eq_of_textConstant? isText
      simp only [ofNamed, guardNulls, evaluate, ok_bind]
      apply bind_congr_of_ok
      intro leftValue leftIs
      have leftConforms := (leftSound.conforms bindings conform).of_ok leftIs
      exact congrArg Except.ok (operator.onValues_named_right _ leftConforms enumerated known).symm
  | namedLeft enumerated isText known =>
      obtain ⟨type, rfl⟩ := eq_of_textConstant? isText
      simp only [ofNamed, guardNulls, evaluate, ok_bind]
      apply bind_congr_of_ok
      intro rightValue rightIs
      have rightConforms := (rightSound.conforms bindings conform).of_ok rightIs
      exact congrArg Except.ok (operator.onValues_named_left _ rightConforms enumerated known).symm
  | asTheyAre rightFound leftFound =>
      -- No text was replaced, and by the types none of the values replaces one.
      apply bind_congr_of_ok
      intro leftValue leftIs
      apply bind_congr_of_ok
      intro rightValue rightIs
      have leftConforms := (leftSound.conforms bindings conform).of_ok leftIs
      have rightConforms := (rightSound.conforms bindings conform).of_ok rightIs
      simp only [Comparison.onValues, Value.standsFor_of_none,
        standsFor_of_besideEnumeration?_none rightFound leftConforms,
        standsFor_of_besideEnumeration?_none leftFound rightConforms]

/-- What a comparison is bound to compares values, or tests them for absence. -/
theorem bindComparison_evaluate
    {operator : Comparison}
    (conservative : catalog.conversions.Conservative)
    (leftSound : Sound catalog scope left)
    (rightSound : Sound catalog scope right)
    (bound : bindComparison catalog operator left right = .ok expression)
    (conform : Bindings.Conform catalog scope bindings) :
    expression.guardNulls.evaluate bindings =
      left.guardNulls.evaluate bindings >>= fun leftValue =>
        right.guardNulls.evaluate bindings >>= fun rightValue =>
          .ok (if !operator.needsOrder && (left.isNullConstant || right.isNullConstant) then
              operator.onAbsence leftValue rightValue
            else
              operator.onValues catalog left.textConstant? right.textConstant?
                leftValue rightValue) := by
  cases binaryRule_of_comparison bound with
  | bothAbsent equality leftAbsent rightAbsent =>
      obtain ⟨leftType, rfl⟩ := eq_of_isNullConstant leftAbsent
      obtain ⟨rightType, rfl⟩ := eq_of_isNullConstant rightAbsent
      simp only [equality, guardNulls, evaluate, ofBool, ok_bind, isNullConstant, Bool.not_false,
        Bool.true_or, Bool.true_and, if_true, ← Comparison.isNull_eq_onAbsence equality,
        Value.isNull, Bool.true_bne]
  | leftAbsent equality leftAbsent =>
      obtain ⟨leftType, rfl⟩ := eq_of_isNullConstant leftAbsent
      simp only [equality, guardNulls, evaluate, absence, ok_bind, pure_eq_ok, isNullConstant,
        Bool.not_false, Bool.true_or, if_true, ← Comparison.isNull_eq_onAbsence equality,
        Value.isNull, Bool.true_and]
  | rightAbsent equality _ rightAbsent =>
      obtain ⟨rightType, rfl⟩ := eq_of_isNullConstant rightAbsent
      simp only [equality, guardNulls, evaluate, absence, ok_bind, pure_eq_ok, isNullConstant,
        Bool.not_false, Bool.or_true, if_true, ← Comparison.isNull_eq_onAbsence equality,
        Value.isNull, Bool.and_true]
  | compared ordinary resolves chosen =>
      simp only [ordinary, Bool.false_eq_true, if_false]
      exact resolves.evaluate_compare conservative leftSound rightSound chosen conform

/-! ## Flags and operators of one operand -/

/-- A test for flags, of what can be had of two enumerations. -/
private theorem hasFlags_of_conforms
    {value flags : Value}
    {type flagsType : ValueType}
    {typeName flagsName : String}
    (enumerated : type.data = .enumeration typeName)
    (flagsEnumerated : flagsType.data = .enumeration flagsName)
    (conforms : value.Conforms catalog type)
    (flagsConform : flags.Conforms catalog flagsType) :
    value.hasFlags flags = value.includesFlags flags := by
  cases absent : value.isNull with
  | true =>
      rw [Value.isNull_iff.mp absent]
      rfl
  | false =>
      obtain ⟨number, rfl⟩ :=
        Value.looksLike_of_dataType? (conforms.own_enumeration enumerated absent)
      cases flagsAbsent : flags.isNull with
      | true =>
          rw [Value.isNull_iff.mp flagsAbsent]
          rfl
      | false =>
          obtain ⟨flagsNumber, rfl⟩ :=
            Value.looksLike_of_dataType? (flagsConform.own_enumeration flagsEnumerated flagsAbsent)
          exact Value.hasFlags_eq_includesFlags typeName flagsName number flagsNumber

theorem bindHas_evaluate
    (leftSound : Sound catalog scope left)
    (rightSound : Sound catalog scope right)
    (bound : bindHas catalog left right = .ok expression)
    (conform : Bindings.Conform catalog scope bindings) :
    expression.guardNulls.evaluate bindings =
      left.guardNulls.evaluate bindings >>= fun leftValue =>
        right.guardNulls.evaluate bindings >>= fun rightValue =>
          .ok (leftValue.includesFlags
            (Value.standsFor catalog leftValue right.textConstant? rightValue)) := by
  cases binaryRule_of_has bound with
  | @namedFlag typeName text number enumerated _ isText known =>
      obtain ⟨type, rfl⟩ := eq_of_textConstant? isText
      simp only [ofNamed, guardNulls, evaluate, ok_bind]
      apply bind_congr_of_ok
      intro leftValue leftIs
      have leftConforms := (leftSound.conforms bindings conform).of_ok leftIs
      have namedConforms : (Value.enumeration typeName number).Conforms catalog
          (.required (.enumeration typeName)) := .single rfl
      rw [pure_eq_ok, hasFlags_of_conforms enumerated rfl leftConforms namedConforms]
      cases absent : leftValue.isNull with
      | true =>
          obtain rfl := Value.isNull_iff.mp absent
          rfl
      | false =>
          have own := leftConforms.own_enumeration enumerated absent
          rw [textConstant?, Value.standsFor_of_shown own known]
  | flag enumerated _ noText same =>
      simp only [noText, Value.standsFor_of_none, guardNulls, evaluate]
      apply bind_congr_of_ok
      intro leftValue leftIs
      apply bind_congr_of_ok
      intro rightValue rightIs
      have leftConforms := (leftSound.conforms bindings conform).of_ok leftIs
      have rightConforms := (rightSound.conforms bindings conform).of_ok rightIs
      rw [pure_eq_ok, hasFlags_of_conforms enumerated (same.trans enumerated) leftConforms
        rightConforms]

theorem bindUnary_evaluate
    {operator : UnaryOperator}
    {operand : Expression}
    (sound : Sound catalog scope operand)
    (bound : bindUnary operator operand = .ok expression)
    (conform : Bindings.Conform catalog scope bindings) :
    expression.guardNulls.evaluate bindings =
      operand.guardNulls.evaluate bindings >>= fun value =>
        operator.onOperand value := by
  cases unaryRule_of_bind bound with
  | not truthLike =>
      simp only [negation, guardNulls, evaluate, sound.evaluate_promote_truth truthLike conform,
        UnaryOperator.complement_eq_onOperand]
  | negate => simp only [guardNulls, evaluate, UnaryOperator.negate_eq_onOperand]

theorem bindCast_evaluate
    {target : DataType}
    {operand : Expression}
    (bound : bindCast catalog target operand = .ok expression) :
    expression.guardNulls.evaluate bindings =
      operand.guardNulls.evaluate bindings >>= fun value => .ok (value.castTo target) := by
  cases castRule_of_bind bound with
  | absent absent =>
      obtain ⟨type, rfl⟩ := eq_of_isNullConstant absent
      rfl
  | convert =>
      simp only [guardNulls, evaluate, Value.convert_eq_castTo]
      rfl

end Expression

end ClauseBinding
