import ClauseBinding.Binding.Clause
import ClauseBinding.Proofs.Evaluation.Outcome

/-!
Contract: what the rules of binding make of bound operands.

Owns:
- the types of promoted operands;
- texts beside enumerations, and the constants that take their place;
- for each rule the node that it builds, with what it found out about the operands.

Does not own: which clauses the rules are applied to, or what their nodes are worth.

Whatever is shown of bound expressions node by node goes by the cases given here and looks
into no rule itself, so that a rule that changes is a case that changes.
-/

namespace ClauseBinding.Expression

open ClauseBinding.Outcome

variable {catalog : Catalog}
variable {source operand left right expression : Expression}

/-! ## Promotion -/

theorem data_promote
    (operand : Expression)
    (target : DataType) : (operand.promote target).data = target := by
  unfold promote
  split
  case isTrue same => exact same
  case isFalse => split <;> rfl

/-- Promoted arguments have exactly the types of the parameters. -/
theorem map_data_promote
    {parameters : List DataType}
    {arguments : List Expression}
    (paired : arguments.length = parameters.length) :
    (arguments.zipWith promote parameters).map data = parameters := by
  rw [← List.map_uncurry_zip_eq_zipWith, List.map_map]
  calc (arguments.zip parameters).map (data ∘ Function.uncurry promote)
      = (arguments.zip parameters).map Prod.snd :=
        List.map_congr_left fun pair _ => data_promote pair.1 pair.2
    _ = parameters := List.map_snd_zip (Nat.le_of_eq paired.symm)

theorem exists_of_mem_promoted
    {parameters : List DataType}
    {arguments : List Expression}
    {promoted : Expression}
    (member : promoted ∈ arguments.zipWith promote parameters) :
    ∃ argument ∈ arguments, ∃ parameter, promoted = argument.promote parameter := by
  rw [← List.map_uncurry_zip_eq_zipWith] at member
  obtain ⟨⟨argument, parameter⟩, isPaired, rfl⟩ := List.mem_map.mp member
  exact ⟨argument, (List.of_mem_zip isPaired).1, parameter, rfl⟩

/-! ## Constants and texts -/

theorem eq_of_isNullConstant
    (absent : operand.isNullConstant = true) : ∃ type, operand = .constant .null type := by
  cases operand with
  | constant value type =>
      cases value with
      | null => exact ⟨type, rfl⟩
      | _ => cases absent
  | _ => cases absent

theorem eq_of_textConstant?
    {text : String}
    (isText : operand.textConstant? = some text) :
    ∃ type, operand = .constant (.string text) type := by
  unfold textConstant? at isText
  split at isText
  · obtain rfl := Option.some.inj isText
    exact ⟨_, rfl⟩
  · cases isText

private theorem data_of_enumerationName?
    {typeName : String}
    (named : operand.enumerationName? = some typeName) :
    operand.data = .enumeration typeName := by
  unfold enumerationName? at named
  split at named
  case h_1 name isEnumeration =>
    obtain rfl := Option.some.inj named
    exact isEnumeration
  case h_2 => cases named

def ofNamed
    (typeName : String)
    (value : Int64) : Expression :=
  .constant (.enumeration typeName value) (.required (.enumeration typeName))

/-- A constant of an enumeration comes from a text constant to which the
enumeration gives a value. -/
theorem enumerationConstant?_some
    {failure : Failure}
    {typeName : String}
    {literal named : Expression}
    (found : enumerationConstant? catalog failure typeName literal = .ok (some named)) :
    ∃ text value, literal.textConstant? = some text
      ∧ (catalog.enumeration? typeName).bind (·.valueOf? text) = some value
      ∧ named = ofNamed typeName value := by
  unfold enumerationConstant? at found
  split at found
  case h_1 => cases found
  case h_2 text isText =>
    split at found
    case h_1 value isValue =>
      obtain rfl := Option.some.inj (Except.ok.inj found)
      exact ⟨text, value, isText, isValue, rfl⟩
    case h_2 => cases found

theorem enumerationConstant?_none
    {failure : Failure}
    {typeName : String}
    {literal : Expression}
    (found : enumerationConstant? catalog failure typeName literal = .ok none) :
    literal.textConstant? = none := by
  unfold enumerationConstant? at found
  split at found
  case h_1 isNone => exact isNone
  case h_2 => split at found <;> cases found

theorem besideEnumeration?_some
    {operation : String}
    {named : Expression}
    (found : besideEnumeration? catalog operation left right = .ok (some named)) :
    ∃ typeName text value, left.data = .enumeration typeName
      ∧ right.textConstant? = some text
      ∧ (catalog.enumeration? typeName).bind (·.valueOf? text) = some value
      ∧ named = ofNamed typeName value := by
  unfold besideEnumeration? at found
  split at found
  case h_1 typeName isName =>
    obtain ⟨text, value, isText, known, rfl⟩ := enumerationConstant?_some found
    exact ⟨typeName, text, value, data_of_enumerationName? isName, isText, known, rfl⟩
  case h_2 => cases found

/-- An enumeration with flags is registered as one. -/
theorem exists_flags
    {typeName : String}
    (flags : hasFlags catalog typeName = true) :
    ∃ enumeration, catalog.enumeration? typeName = some enumeration
      ∧ enumeration.isFlags = true :=
  (Option.any_eq_true _ _).mp flags

/-- Two operands, once a text beside an enumeration is replaced by the constant it names. -/
inductive Resolves
    (catalog : Catalog)
    (operation : String)
    (left right : Expression) : Expression → Expression → Prop where
  | namedRight {typeName text : String} {value : Int64}
      (enumerated : left.data = .enumeration typeName)
      (isText : right.textConstant? = some text)
      (known : (catalog.enumeration? typeName).bind (·.valueOf? text) = some value) :
      Resolves catalog operation left right left (ofNamed typeName value)
  | namedLeft {typeName text : String} {value : Int64}
      (enumerated : right.data = .enumeration typeName)
      (isText : left.textConstant? = some text)
      (known : (catalog.enumeration? typeName).bind (·.valueOf? text) = some value) :
      Resolves catalog operation left right (ofNamed typeName value) right
  | asTheyAre
      (rightFound : besideEnumeration? catalog operation left right = .ok none)
      (leftFound : besideEnumeration? catalog operation right left = .ok none) :
      Resolves catalog operation left right left right

private theorem resolves_of_ok
    {operation : String}
    {resolvedLeft resolvedRight : Expression}
    (resolved : resolveEnumerations catalog operation left right =
      .ok (resolvedLeft, resolvedRight)) :
    Resolves catalog operation left right resolvedLeft resolvedRight := by
  obtain ⟨rightNamed, rightFound, resolved⟩ := bind_eq_ok.mp resolved
  cases rightNamed with
  | some named =>
      obtain ⟨rfl, rfl⟩ := Prod.mk.inj (Except.ok.inj resolved)
      obtain ⟨_, _, _, enumerated, isText, known, rfl⟩ := besideEnumeration?_some rightFound
      exact .namedRight enumerated isText known
  | none =>
      obtain ⟨leftNamed, leftFound, resolved⟩ := bind_eq_ok.mp resolved
      cases leftNamed with
      | some named =>
          obtain ⟨rfl, rfl⟩ := Prod.mk.inj (Except.ok.inj resolved)
          obtain ⟨_, _, _, enumerated, isText, known, rfl⟩ := besideEnumeration?_some leftFound
          exact .namedLeft enumerated isText known
      | none =>
          obtain ⟨rfl, rfl⟩ := Prod.mk.inj (Except.ok.inj resolved)
          exact .asTheyAre rightFound leftFound

/-- What holds of both operands and of named constants holds of resolved operands. -/
theorem Resolves.both
    {operation : String}
    {resolvedLeft resolvedRight : Expression}
    {holds : Expression → Prop}
    (resolves : Resolves catalog operation left right resolvedLeft resolvedRight)
    (leftHolds : holds left)
    (rightHolds : holds right)
    (namedHold : ∀ typeName value, holds (ofNamed typeName value)) :
    holds resolvedLeft ∧ holds resolvedRight := by
  cases resolves with
  | namedRight => exact ⟨leftHolds, namedHold _ _⟩
  | namedLeft => exact ⟨namedHold _ _, rightHolds⟩
  | asTheyAre => exact ⟨leftHolds, rightHolds⟩

/-! ## Operators -/

theorem bindOrdinaryComparison_eq_ok
    {operator : Comparison}
    (bound : bindOrdinaryComparison catalog operator left right = .ok expression) :
    ∃ resolvedLeft resolvedRight target,
      resolveEnumerations catalog operator.keyword left right = .ok (resolvedLeft, resolvedRight)
        ∧ comparisonType? catalog.conversions operator resolvedLeft.data resolvedRight.data =
          some target
        ∧ expression =
          compare operator (resolvedLeft.promote target) (resolvedRight.promote target) := by
  obtain ⟨⟨resolvedLeft, resolvedRight⟩, resolved, bound⟩ := bind_eq_ok.mp bound
  dsimp only at bound
  split at bound
  case h_1 target chosen =>
    obtain rfl := Except.ok.inj bound
    exact ⟨resolvedLeft, resolvedRight, target, resolved, chosen, rfl⟩
  case h_2 => cases bound

/-- What an operator makes of two operands. Equality with an absent constant is a test for
absence; order with one is a comparison like any other. -/
inductive BinaryRule
    (catalog : Catalog)
    (left right : Expression) : BinaryOperator → Expression → Prop where
  | bothAbsent {operator : Comparison}
      (equality : operator.needsOrder = false)
      (leftAbsent : left.isNullConstant = true)
      (rightAbsent : right.isNullConstant = true) :
      BinaryRule catalog left right (.comparison operator) (ofBool !(operator == .ne))
  | leftAbsent {operator : Comparison}
      (equality : operator.needsOrder = false)
      (leftAbsent : left.isNullConstant = true)
      (rightPresent : right.isNullConstant = false) :
      BinaryRule catalog left right (.comparison operator) (absence right (operator == .ne))
  | rightAbsent {operator : Comparison}
      (equality : operator.needsOrder = false)
      (leftPresent : left.isNullConstant = false)
      (rightAbsent : right.isNullConstant = true) :
      BinaryRule catalog left right (.comparison operator) (absence left (operator == .ne))
  | compared {operator : Comparison} {resolvedLeft resolvedRight : Expression}
      {target : DataType}
      (ordinary :
        (!operator.needsOrder && (left.isNullConstant || right.isNullConstant)) = false)
      (resolves : Resolves catalog operator.keyword left right resolvedLeft resolvedRight)
      (chosen : comparisonType? catalog.conversions operator resolvedLeft.data
        resolvedRight.data = some target) :
      BinaryRule catalog left right (.comparison operator)
        (compare operator (resolvedLeft.promote target) (resolvedRight.promote target))
  | connected {operator : Connective}
      (leftTruth : left.isTruthLike = true)
      (rightTruth : right.isTruthLike = true) :
      BinaryRule catalog left right (.connective operator)
        (connect operator (left.promote .bool) (right.promote .bool))
  | calculated {operator : Arithmetic} {target : DataType}
      (chosen : arithmeticType? catalog.conversions left.data right.data = some target) :
      BinaryRule catalog left right (.arithmetic operator)
        (.arithmetic operator (left.promote target) (right.promote target)
          ⟨target, left.isNullable || right.isNullable⟩)
  | namedFlag {typeName text : String} {value : Int64}
      (enumerated : left.data = .enumeration typeName)
      (flags : hasFlags catalog typeName = true)
      (isText : right.textConstant? = some text)
      (known : (catalog.enumeration? typeName).bind (·.valueOf? text) = some value) :
      BinaryRule catalog left right .has
        (.has left (ofNamed typeName value)
          ⟨.bool, left.isNullable || (ofNamed typeName value).isNullable⟩)
  | flag {typeName : String}
      (enumerated : left.data = .enumeration typeName)
      (flags : hasFlags catalog typeName = true)
      (noText : right.textConstant? = none)
      (same : right.data = left.data) :
      BinaryRule catalog left right .has
        (.has left right ⟨.bool, left.isNullable || right.isNullable⟩)

theorem binaryRule_of_comparison
    {operator : Comparison}
    (bound : bindComparison catalog operator left right = .ok expression) :
    BinaryRule catalog left right (.comparison operator) expression := by
  have compared
      (ordinary :
        (!operator.needsOrder && (left.isNullConstant || right.isNullConstant)) = false)
      (bound : bindOrdinaryComparison catalog operator left right = .ok expression) :
      BinaryRule catalog left right (.comparison operator) expression := by
    obtain ⟨_, _, _, resolved, chosen, rfl⟩ := bindOrdinaryComparison_eq_ok bound
    exact .compared ordinary (resolves_of_ok resolved) chosen
  unfold bindComparison at bound
  split at bound
  case isTrue ordered => exact compared (by simp [ordered]) bound
  case isFalse unordered =>
    have equality : operator.needsOrder = false := Bool.eq_false_iff.mpr unordered
    dsimp only at bound
    split at bound
    case h_1 leftAbsent rightAbsent =>
      obtain rfl := Except.ok.inj bound
      exact .bothAbsent equality leftAbsent rightAbsent
    case h_2 leftAbsent rightPresent =>
      obtain rfl := Except.ok.inj bound
      exact .leftAbsent equality leftAbsent rightPresent
    case h_3 leftPresent rightAbsent =>
      obtain rfl := Except.ok.inj bound
      exact .rightAbsent equality leftPresent rightAbsent
    case h_4 leftPresent rightPresent =>
      exact compared (by simp [leftPresent, rightPresent]) bound

theorem binaryRule_of_has
    (bound : bindHas catalog left right = .ok expression) :
    BinaryRule catalog left right .has expression := by
  unfold bindHas at bound
  dsimp only at bound
  split at bound
  case h_1 => cases bound
  case h_2 typeName named =>
    have enumerated := data_of_enumerationName? named
    split at bound
    case isFalse => cases bound
    case isTrue flags =>
      obtain ⟨found, isFound, bound⟩ := bind_eq_ok.mp bound
      cases found with
      | some constant =>
          obtain rfl := Except.ok.inj bound
          obtain ⟨_, _, isText, known, rfl⟩ := enumerationConstant?_some isFound
          exact .namedFlag enumerated flags isText known
      | none =>
          dsimp only at bound
          split at bound
          case isTrue same =>
            obtain rfl := Except.ok.inj bound
            exact .flag enumerated flags (enumerationConstant?_none isFound) same
          case isFalse => cases bound

theorem binaryRule_of_bind
    {operator : BinaryOperator}
    (bound : bindBinary catalog operator left right = .ok expression) :
    BinaryRule catalog left right operator expression := by
  cases operator with
  | comparison => exact binaryRule_of_comparison bound
  | connective =>
      simp only [bindBinary, bindConnective] at bound
      split at bound
      case isTrue truthLike =>
        obtain rfl := Except.ok.inj bound
        obtain ⟨leftTruth, rightTruth⟩ := Bool.and_eq_true_iff.mp truthLike
        exact .connected leftTruth rightTruth
      case isFalse => cases bound
  | arithmetic =>
      simp only [bindBinary, bindArithmetic] at bound
      split at bound
      case h_1 target chosen =>
        obtain rfl := Except.ok.inj bound
        exact .calculated chosen
      case h_2 => cases bound
  | has => exact binaryRule_of_has bound

/-- What an operator makes of one operand. -/
inductive UnaryRule
    (operand : Expression) : UnaryOperator → Expression → Prop where
  | not (truth : operand.isTruthLike = true) :
      UnaryRule operand .not (negation (operand.promote .bool))
  | negate (numeric : operand.data.isNumeric = true) :
      UnaryRule operand .negate (.negate operand operand.type)

theorem unaryRule_of_bind
    {operator : UnaryOperator}
    (bound : bindUnary operator operand = .ok expression) :
    UnaryRule operand operator expression := by
  cases operator with
  | not =>
      simp only [bindUnary] at bound
      split at bound
      case isTrue truth =>
        obtain rfl := Except.ok.inj bound
        exact .not truth
      case isFalse => cases bound
  | negate =>
      simp only [bindUnary] at bound
      split at bound
      case isTrue numeric =>
        obtain rfl := Except.ok.inj bound
        exact .negate numeric
      case isFalse => cases bound

/-! ## Members, calls, casts and collections -/

theorem bindMember_eq_ok
    {member : String}
    (bound : bindMember catalog source member = .ok expression) :
    ∃ typeName definition, source.data = .structured typeName
      ∧ catalog.member? typeName member = some definition
      ∧ expression =
        .read source member ⟨definition.data, definition.nullable || source.isNullable⟩ := by
  unfold bindMember at bound
  split at bound
  case h_1 typeName structured =>
    split at bound
    case h_1 definition declared =>
      exact ⟨typeName, definition, structured, declared, (Except.ok.inj bound).symm⟩
    case h_2 => cases bound
  case h_2 => cases bound

theorem bindCall_eq_ok
    {name : String}
    {arguments : List Expression}
    (bound : bindCall catalog name arguments = .ok expression) :
    ∃ function signature,
      Signature.resolve catalog.conversions name (arguments.map type) = .ok (function, signature)
        ∧ expression = .call function (arguments.zipWith promote signature.parameters)
          ⟨signature.result, (arguments.map type).any (·.nullable)⟩ := by
  obtain ⟨⟨function, signature⟩, resolved, bound⟩ := bind_eq_ok.mp bound
  exact ⟨function, signature, resolved, (Except.ok.inj bound).symm⟩

/-- A cast is the absent constant of the absent constant, and else a conversion. -/
inductive CastRule
    (catalog : Catalog)
    (target : DataType)
    (operand : Expression) : Expression → Prop where
  | absent (absent : operand.isNullConstant = true) :
      CastRule catalog target operand (nullOf target)
  | convert
      (present : operand.isNullConstant = false)
      (allowed : canCast catalog operand.data target = true) :
      CastRule catalog target operand (.convert operand (.optional target))

theorem castRule_of_bind
    {target : DataType}
    (bound : bindCast catalog target operand = .ok expression) :
    CastRule catalog target operand expression := by
  unfold bindCast at bound
  split at bound
  case isTrue absent =>
    obtain rfl := Except.ok.inj bound
    exact .absent absent
  case isFalse present =>
    split at bound
    case isTrue allowed =>
      obtain rfl := Except.ok.inj bound
      exact .convert (Bool.eq_false_iff.mpr present) allowed
    case isFalse => cases bound

theorem bindQuantified_eq_ok
    {quantifier : Quantifier}
    {item : Parameter}
    {body : Expression}
    (bound : bindQuantified quantifier source item body = .ok expression) :
    body.isTruthLike = true
      ∧ expression = .quantified quantifier source item (body.promote .bool)
          ⟨.bool, source.isNullable⟩ := by
  unfold bindQuantified at bound
  split at bound
  case isTrue truthLike => exact ⟨truthLike, (Except.ok.inj bound).symm⟩
  case isFalse => cases bound

theorem itemType_eq_ok
    {operation : String}
    {item : ValueType}
    (typed : itemType operation source = .ok item) : source.data.element? = some item := by
  unfold itemType at typed
  split at typed
  case h_1 element found => rw [found, Except.ok.inj typed]
  case h_2 => cases typed

end ClauseBinding.Expression
