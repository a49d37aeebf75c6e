import ClauseBinding.Proofs.Meaning.Operators
import ClauseBinding.Proofs.Renaming.ByLevel

/-!
Contract: the rules of binding, on operands whose variables are named by level.

Owns:
- that every rule makes of renamed operands the renamed result, or the same failure.

Does not own: the scope in which operands are bound.

A rule looks at the types of its operands and at constants among them, and builds its
result around them.
-/

namespace ClauseBinding

open ClauseBinding.Outcome

/-- What is made of the value of a chain is made of the value of its last step. -/
theorem Outcome.map_bind
    {α β γ : Type}
    (outcome : Except Failure α)
    (next : α → Except Failure β)
    (make : β → γ) :
    (outcome >>= next).map make = outcome >>= fun value => (next value).map make := by
  cases outcome <;> rfl

namespace Expression

variable {catalog : Catalog} (names : List String)

private theorem promote_byLevel
    (expression : Expression)
    (target : DataType) :
    (expression.byLevel names).promote target = (expression.promote target).byLevel names := by
  simp only [promote, data_byLevel, isNullConstant_byLevel, isNullable_byLevel]
  split
  · rfl
  · split <;> rfl

/-! ## Enumerations -/

private theorem enumerationConstant?_byLevel
    (failure : Failure)
    (typeName : String)
    (literal : Expression) :
    enumerationConstant? catalog failure typeName (literal.byLevel names) =
      enumerationConstant? catalog failure typeName literal := by
  simp only [enumerationConstant?, textConstant?_byLevel]

private theorem besideEnumeration?_byLevel
    (operation : String)
    (operand literal : Expression) :
    besideEnumeration? catalog operation (operand.byLevel names) (literal.byLevel names) =
      besideEnumeration? catalog operation operand literal := by
  simp only [besideEnumeration?, enumerationName?_byLevel, enumerationConstant?_byLevel,
    mismatch_byLevel]

private theorem resolveEnumerations_byLevel
    (operation : String)
    (left right : Expression) :
    resolveEnumerations catalog operation (left.byLevel names) (right.byLevel names) =
      (resolveEnumerations catalog operation left right).map
        (Prod.map (·.byLevel names) (·.byLevel names)) := by
  unfold resolveEnumerations
  rw [besideEnumeration?_byLevel, besideEnumeration?_byLevel, map_bind]
  apply bind_congr_of_ok
  intro rightNamed rightFound
  cases rightNamed with
  | some named =>
      obtain ⟨_, _, _, _, _, _, rfl⟩ := besideEnumeration?_some rightFound
      rfl
  | none =>
      rw [map_bind]
      apply bind_congr_of_ok
      intro leftNamed leftFound
      cases leftNamed with
      | some named =>
          obtain ⟨_, _, _, _, _, _, rfl⟩ := besideEnumeration?_some leftFound
          rfl
      | none => rfl

/-! ## Operators -/

private theorem compare_byLevel
    (operator : Comparison)
    (left right : Expression) :
    compare operator (left.byLevel names) (right.byLevel names) =
      (compare operator left right).byLevel names := by
  simp only [compare, byLevel, isNullable_byLevel]

private theorem bindOrdinaryComparison_byLevel
    (operator : Comparison)
    (left right : Expression) :
    bindOrdinaryComparison catalog operator (left.byLevel names) (right.byLevel names) =
      (bindOrdinaryComparison catalog operator left right).map (·.byLevel names) := by
  unfold bindOrdinaryComparison
  rw [resolveEnumerations_byLevel, map_bind]
  cases resolveEnumerations catalog operator.keyword left right with
  | error failure => rfl
  | ok resolved =>
      obtain ⟨first, second⟩ := resolved
      simp only [Except.map, ok_bind, Prod.map, data_byLevel, mismatch_byLevel]
      cases comparisonType? catalog.conversions operator first.data second.data with
      | none => rfl
      | some target =>
          simp only [promote_byLevel, compare_byLevel]
          rfl

private theorem bindComparison_byLevel
    (operator : Comparison)
    (left right : Expression) :
    bindComparison catalog operator (left.byLevel names) (right.byLevel names) =
      (bindComparison catalog operator left right).map (·.byLevel names) := by
  simp only [bindComparison, bindOrdinaryComparison_byLevel, isNullConstant_byLevel]
  split
  · rfl
  · split <;> rfl

private theorem bindConnective_byLevel
    (operator : Connective)
    (left right : Expression) :
    bindConnective operator (left.byLevel names) (right.byLevel names) =
      (bindConnective operator left right).map (·.byLevel names) := by
  simp only [bindConnective, isTruthLike_byLevel, promote_byLevel, mismatch_byLevel]
  split
  · simp only [connect, isNullable_byLevel]
    rfl
  · rfl

private theorem bindArithmetic_byLevel
    (operator : Arithmetic)
    (left right : Expression) :
    bindArithmetic catalog operator (left.byLevel names) (right.byLevel names) =
      (bindArithmetic catalog operator left right).map (·.byLevel names) := by
  simp only [bindArithmetic, data_byLevel, promote_byLevel, isNullable_byLevel, mismatch_byLevel]
  split <;> rfl

private theorem bindHas_byLevel
    (value flag : Expression) :
    bindHas catalog (value.byLevel names) (flag.byLevel names) =
      (bindHas catalog value flag).map (·.byLevel names) := by
  simp only [bindHas, enumerationName?_byLevel, mismatch_byLevel, data_byLevel,
    isNullable_byLevel, enumerationConstant?_byLevel]
  split
  case h_1 => rfl
  case h_2 typeName _ =>
    split
    case isFalse => rfl
    case isTrue =>
      rw [map_bind]
      apply bind_congr_of_ok
      intro found isFound
      cases found with
      | some named =>
          obtain ⟨_, _, _, _, rfl⟩ := enumerationConstant?_some isFound
          rfl
      | none =>
          dsimp only
          split <;> rfl

theorem bindBinary_byLevel
    (operator : BinaryOperator)
    (left right : Expression) :
    bindBinary catalog operator (left.byLevel names) (right.byLevel names) =
      (bindBinary catalog operator left right).map (·.byLevel names) := by
  cases operator with
  | comparison operator => exact bindComparison_byLevel names operator left right
  | connective operator => exact bindConnective_byLevel names operator left right
  | arithmetic operator => exact bindArithmetic_byLevel names operator left right
  | has => exact bindHas_byLevel names left right

theorem bindUnary_byLevel
    (operator : UnaryOperator)
    (operand : Expression) :
    bindUnary operator (operand.byLevel names) =
      (bindUnary operator operand).map (·.byLevel names) := by
  cases operator with
  | not =>
      simp only [bindUnary, isTruthLike_byLevel, promote_byLevel, type_byLevel]
      split
      · simp only [negation, type_byLevel]
        rfl
      · rfl
  | negate =>
      simp only [bindUnary, data_byLevel, type_byLevel]
      split <;> rfl

/-! ## Other nodes -/

theorem bindMember_byLevel
    (source : Expression)
    (member : String) :
    bindMember catalog (source.byLevel names) member =
      (bindMember catalog source member).map (·.byLevel names) := by
  simp only [bindMember, data_byLevel, type_byLevel, isNullable_byLevel]
  split
  · split <;> rfl
  · rfl

theorem bindCall_byLevel
    (name : String)
    (arguments : List Expression) :
    bindCall catalog name (byLevelAll arguments names) =
      (bindCall catalog name arguments).map (·.byLevel names) := by
  have sameTypes : (byLevelAll arguments names).map type = arguments.map type := by
    rw [byLevelAll_eq_map, List.map_map]
    exact List.map_congr_left fun argument _ => type_byLevel names argument
  unfold bindCall
  rw [sameTypes, map_bind]
  apply bind_congr_of_ok
  rintro ⟨function, signature⟩ -
  have promoted : (byLevelAll arguments names).zipWith promote signature.parameters =
      byLevelAll (arguments.zipWith promote signature.parameters) names := by
    rw [byLevelAll_eq_map, byLevelAll_eq_map, List.zipWith_map_left, List.map_zipWith]
    simp only [promote_byLevel]
  simp only [promoted]
  rfl

theorem bindCast_byLevel
    (target : DataType)
    (operand : Expression) :
    bindCast catalog target (operand.byLevel names) =
      (bindCast catalog target operand).map (·.byLevel names) := by
  simp only [bindCast, isNullConstant_byLevel, data_byLevel]
  split
  · rfl
  · split <;> rfl

private theorem itemType_byLevel
    (operation : String)
    (source : Expression) :
    itemType operation (source.byLevel names) = itemType operation source := by
  simp only [itemType, data_byLevel, type_byLevel]

/-- Collections that are the same by level have items of the same type. -/
theorem itemType_of_byLevel
    {names names' : List String}
    {source source' : Expression}
    (operation : String)
    (same : source.byLevel names = source'.byLevel names') :
    itemType operation source = itemType operation source' := by
  rw [← itemType_byLevel names, same, itemType_byLevel]

theorem isNullable_of_byLevel
    {names names' : List String}
    {source source' : Expression}
    (same : source.byLevel names = source'.byLevel names') :
    source.isNullable = source'.isNullable := by
  rw [← isNullable_byLevel names, same, isNullable_byLevel]

theorem bindQuantified_byLevel
    (quantifier : Quantifier)
    (source : Expression)
    (item : Parameter)
    (body : Expression) :
    bindQuantified quantifier (source.byLevel names) ⟨levelName names.length, item.type⟩
        (body.byLevel (item.name :: names)) =
      (bindQuantified quantifier source item body).map (·.byLevel names) := by
  simp only [bindQuantified, isTruthLike_byLevel, promote_byLevel, type_byLevel,
    isNullable_byLevel]
  split <;> rfl

end Expression

end ClauseBinding
