import ClauseBinding.Proofs.Soundness.Node

/-!
Contract: soundness of operators over sound operands.

Owns:
- the types that comparisons and arithmetic work in, which accept their operands;
- soundness of whatever an operator is bound to.

Does not own: the operands.
-/

namespace ClauseBinding

variable {catalog : Catalog} {scope : List Parameter}

namespace ConversionTable

variable {table : ConversionTable} {left right target : DataType}

theorem canPromote_refl (data : DataType) : table.canPromote data data = true := by
  simp [canPromote]

/-- Both operands promote to their common type. -/
theorem commonType?_spec (common : table.commonType? left right = some target) :
    table.canPromote left target = true ∧ table.canPromote right target = true := by
  unfold commonType? at common
  split at common
  case isTrue same =>
    obtain rfl := Option.some.inj common
    exact ⟨canPromote_refl left, same ▸ canPromote_refl left⟩
  case isFalse =>
    split at common
    case isTrue promotes =>
      obtain rfl := Option.some.inj common
      exact ⟨promotes, canPromote_refl right⟩
    case isFalse =>
      split at common
      case isTrue promotes =>
        obtain rfl := Option.some.inj common
        exact ⟨canPromote_refl left, promotes⟩
      case isFalse => simpa using List.find?_some common

/-- Numbers promote to numbers. -/
theorem Conservative.isNumeric_of_canPromote
    (conservative : table.Conservative)
    (promotes : table.canPromote left target = true)
    (numeric : left.isNumeric = true) : target.isNumeric = true := by
  simp only [canPromote, Bool.or_eq_true, beq_iff_eq, List.contains_iff_mem] at promotes
  rcases promotes with rfl | implicit
  · exact numeric
  · have widened : ∀ conversion ∈ widenings, conversion.target.isNumeric = true := by decide
    exact widened _ (conservative.implicit _ implicit)

end ConversionTable

namespace Signature

variable {conversions : ConversionTable} {parameter : DataType} {argument : ValueType}

theorem acceptsArgument_of_null (untyped : argument.data = .null) :
    acceptsArgument conversions parameter argument = true := by
  simp [acceptsArgument, ValueType.isNull, untyped]

theorem acceptsArgument_of_canPromote
    (promotes : conversions.canPromote argument.data parameter = true) :
    acceptsArgument conversions parameter argument = true := by
  simp [acceptsArgument, promotes]

end Signature

namespace Expression

variable {left right operand expression : Expression}

/-! ## Types to work in -/

/-- Types of comparisons are single. -/
theorem isOrderable_of_isComparable
    {operator : Comparison}
    {data : DataType}
    (comparable : isComparable operator data = true) : data.isOrderable = true := by
  unfold isComparable at comparable
  split at comparable
  · cases data <;> first | rfl | cases comparable
  · exact comparable

/-- The type of a comparison accepts both of its operands. -/
theorem comparisonType?_accepts
    {conversions : ConversionTable}
    {operator : Comparison}
    {target : DataType}
    (found : comparisonType? conversions operator left.data right.data = some target) :
    Signature.acceptsArgument conversions target left.type = true
      ∧ Signature.acceptsArgument conversions target right.type = true := by
  unfold comparisonType? at found
  obtain ⟨chosen, _⟩ := Option.filter_eq_some_iff.mp found
  split at chosen
  case isTrue => cases chosen
  case isFalse =>
    split at chosen
    case isTrue leftNull =>
      obtain rfl := Option.some.inj chosen
      exact ⟨Signature.acceptsArgument_of_null leftNull,
        Signature.acceptsArgument_of_canPromote (ConversionTable.canPromote_refl _)⟩
    case isFalse =>
      split at chosen
      case isTrue rightNull =>
        obtain rfl := Option.some.inj chosen
        exact ⟨Signature.acceptsArgument_of_canPromote (ConversionTable.canPromote_refl _),
          Signature.acceptsArgument_of_null rightNull⟩
      case isFalse =>
        split at chosen
        case isTrue =>
          obtain ⟨leftPromotes, rightPromotes⟩ := ConversionTable.commonType?_spec chosen
          exact ⟨Signature.acceptsArgument_of_canPromote leftPromotes,
            Signature.acceptsArgument_of_canPromote rightPromotes⟩
        case isFalse =>
          split at chosen
          case isTrue same =>
            obtain rfl := Option.some.inj chosen
            exact ⟨Signature.acceptsArgument_of_canPromote (ConversionTable.canPromote_refl _),
              Signature.acceptsArgument_of_canPromote
                (same ▸ ConversionTable.canPromote_refl _)⟩
          case isFalse => cases chosen

/-- The type of arithmetic is numeric and accepts both operands. -/
theorem arithmeticType?_accepts
    {target : DataType}
    (conservative : catalog.conversions.Conservative)
    (found : arithmeticType? catalog.conversions left.data right.data = some target) :
    target.isNumeric = true
      ∧ Signature.acceptsArgument catalog.conversions target left.type = true
      ∧ Signature.acceptsArgument catalog.conversions target right.type = true := by
  unfold arithmeticType? at found
  split at found
  case isTrue leftNull =>
    obtain rfl := Option.some.inj found
    exact ⟨leftNull.2, Signature.acceptsArgument_of_null leftNull.1,
      Signature.acceptsArgument_of_canPromote (ConversionTable.canPromote_refl _)⟩
  case isFalse =>
    split at found
    case isTrue rightNull =>
      obtain rfl := Option.some.inj found
      exact ⟨rightNull.2,
        Signature.acceptsArgument_of_canPromote (ConversionTable.canPromote_refl _),
        Signature.acceptsArgument_of_null rightNull.1⟩
    case isFalse =>
      split at found
      case isTrue numeric =>
        obtain ⟨leftPromotes, rightPromotes⟩ := ConversionTable.commonType?_spec found
        have leftNumeric := (Bool.and_eq_true_iff.mp numeric).1
        exact ⟨conservative.isNumeric_of_canPromote leftPromotes leftNumeric,
          Signature.acceptsArgument_of_canPromote leftPromotes,
          Signature.acceptsArgument_of_canPromote rightPromotes⟩
      case isFalse => cases found

/-- What can stand for a truth value is accepted as one. -/
theorem isTruthLike_accepts
    {conversions : ConversionTable}
    (truthLike : operand.isTruthLike = true) :
    Signature.acceptsArgument conversions .bool operand.type = true := by
  simp only [isTruthLike, Bool.or_eq_true, beq_iff_eq] at truthLike
  rcases truthLike with truth | untyped
  · apply Signature.acceptsArgument_of_canPromote
    have isTruth : operand.type.data = .bool := truth
    rw [isTruth]
    exact ConversionTable.canPromote_refl .bool
  · exact Signature.acceptsArgument_of_null untyped

/-! ## Operators -/

theorem ofNamed_sound
    (typeName : String)
    (value : Int64) : Sound catalog scope (ofNamed typeName value) :=
  Sound.of_constant (.single rfl)

/-- Whatever an operator of two sound operands is bound to is sound. -/
theorem bindBinary_sound
    {operator : BinaryOperator}
    (conservative : catalog.conversions.Conservative)
    (leftSound : Sound catalog scope left)
    (rightSound : Sound catalog scope right)
    (bound : bindBinary catalog operator left right = .ok expression) :
    Sound catalog scope expression := by
  cases binaryRule_of_bind bound with
  | bothAbsent => exact Sound.of_constant (.single rfl)
  | leftAbsent => exact rightSound.absence _
  | rightAbsent => exact leftSound.absence _
  | @compared operator _ _ _ _ resolves chosen =>
      obtain ⟨firstSound, secondSound⟩ := resolves.both leftSound rightSound ofNamed_sound
      obtain ⟨firstAccepted, secondAccepted⟩ := comparisonType?_accepts chosen
      exact (firstSound.promote conservative firstAccepted).compare operator
        (secondSound.promote conservative secondAccepted)
  | @connected operator leftTruth rightTruth =>
      exact (leftSound.promote conservative (isTruthLike_accepts leftTruth)).connect operator
        (rightSound.promote conservative (isTruthLike_accepts rightTruth))
        (data_promote left .bool) (data_promote right .bool)
  | @calculated operator target chosen =>
      obtain ⟨numeric, leftAccepted, rightAccepted⟩ :=
        arithmeticType?_accepts conservative chosen
      rw [← leftSound.isNullable_promote target, ← rightSound.isNullable_promote target]
      exact (leftSound.promote conservative leftAccepted).arithmetic operator
        (rightSound.promote conservative rightAccepted)
        (data_promote left target) (data_promote right target) numeric
  | namedFlag enumerated => exact leftSound.has (ofNamed_sound _ _) enumerated rfl
  | flag enumerated _ _ same => exact leftSound.has rightSound enumerated (same.trans enumerated)

/-- Whatever an operator of one sound operand is bound to is sound. -/
theorem bindUnary_sound
    {operator : UnaryOperator}
    (conservative : catalog.conversions.Conservative)
    (sound : Sound catalog scope operand)
    (bound : bindUnary operator operand = .ok expression) :
    Sound catalog scope expression := by
  cases unaryRule_of_bind bound with
  | not truthLike =>
      exact (sound.promote conservative (isTruthLike_accepts truthLike)).negation
        (data_promote operand .bool)
  | negate numeric => exact sound.negate numeric

end Expression

end ClauseBinding
