import ClauseBinding.Proofs.Meaning.Operators

/-!
Contract: bound quantifiers and counts compute what they mean on the items of a collection.

Owns: for a member, a quantifier and each kind of count, the guarded node in terms of what
its operand and its condition come out as.

Does not own: what operand and condition mean.
-/

namespace ClauseBinding

open ClauseBinding.Outcome

variable {catalog : Catalog} {scope : List Parameter} {bindings : Bindings}

/-- What is made of the items of a value that is an absent collection or a collection of
items of a type. -/
private theorem Value.unlessAbsent_items
    {value : Value}
    {source item : ValueType}
    {operation : String}
    {next made : List Value → Except Failure Value}
    (conforms : value.Conforms catalog source)
    (collected : source.data.element? = some item)
    (same : ∀ items, (∀ argument ∈ items, argument.Conforms catalog item) →
      next items = made items) :
    value.unlessAbsent (fun source => source.items operation >>= next) =
      value.overItems operation made := by
  cases absent : value.isNull with
  | true =>
      rw [Value.isNull_iff.mp absent]
      rfl
  | false =>
      obtain ⟨items, rfl, _, itemsConform⟩ := conforms.items_of_present collected absent
      exact same items itemsConform

namespace Expression.Sound

variable {source body condition : Expression} {name : String} {item : ValueType}
  {means : Value → Except Failure Value}

theorem evaluate_read
    {type : ValueType}
    (sound : Sound catalog scope source)
    (name : String)
    (conform : Bindings.Conform catalog scope bindings) :
    (Expression.read source name type).guardNulls.evaluate bindings =
      source.guardNulls.evaluate bindings >>= Value.readMember name := by
  rw [sound.evaluate_guarded (.read source.guardNulls name type) rfl rfl rfl conform]
  apply bind_congr_of_ok
  intro value _
  cases absent : value.isNull with
  | true =>
      rw [Value.isNull_iff.mp absent]
      rfl
  | false => rw [Value.unlessAbsent_of_present _ absent, Value.member_eq_readMember name absent]

theorem evaluate_quantified
    {type : ValueType}
    (quantifier : Quantifier)
    (sound : Sound catalog scope source)
    (collected : source.data.element? = some item)
    (bodySound : Sound catalog (⟨name, item⟩ :: scope) body)
    (truthLike : body.isTruthLike = true)
    (conform : Bindings.Conform catalog scope bindings)
    (bodyMeans : ∀ value, value.Conforms catalog item →
      body.guardNulls.evaluate (bindings.push name value) = means value) :
    (Expression.quantified quantifier source ⟨name, item⟩ (body.promote .bool)
        type).guardNulls.evaluate bindings =
      source.guardNulls.evaluate bindings >>= Value.overItems quantifier.keyword fun items =>
        quantifier.onOutcomes (items.map fun value => means value >>= Value.condition) := by
  rw [sound.evaluate_guarded (.quantified quantifier source.guardNulls ⟨name, item⟩
    (body.promote .bool).guardNulls.unknownToFalse type) rfl rfl rfl conform]
  apply bind_congr_of_ok
  intro value isValue
  apply Value.unlessAbsent_items ((sound.conforms bindings conform).of_ok isValue) collected
  intro items itemsConform
  apply (quantifier.test_eq_onOutcomes _ items).trans
  apply congrArg quantifier.onOutcomes
  apply List.map_congr_left
  intro argument member
  have argumentConforms := itemsConform argument member
  rw [truth_unknownToFalse,
    bodySound.evaluate_promote_truth truthLike (conform.push argumentConforms),
    bodyMeans argument argumentConforms]
  exact congrArg _ (funext Value.truth_eq_condition)

theorem evaluate_count
    {type : ValueType}
    (sound : Sound catalog scope source)
    (collected : source.data.element? = some item)
    (conform : Bindings.Conform catalog scope bindings) :
    (Expression.count source type).guardNulls.evaluate bindings =
      source.guardNulls.evaluate bindings >>= Value.overItems "$count" fun items =>
        Value.itemCount items.length := by
  rw [sound.evaluate_guarded (.count source.guardNulls type) rfl rfl rfl conform]
  apply bind_congr_of_ok
  intro value isValue
  apply Value.unlessAbsent_items ((sound.conforms bindings conform).of_ok isValue) collected
  intro items _
  exact Value.ofCount_eq_itemCount items.length

/-- A counted condition has been guarded when it was bound. Guarding it again with the count
changes nothing. -/
theorem evaluate_countWhere
    {type : ValueType}
    (sound : Sound catalog scope source)
    (collected : source.data.element? = some item)
    (conform : Bindings.Conform catalog scope bindings)
    (conditionMeans : ∀ value, value.Conforms catalog item →
      condition.guardNulls.evaluate (bindings.push name value) = means value) :
    (Expression.countWhere source ⟨name, item⟩ condition.guardCondition
        type).guardNulls.evaluate bindings =
      source.guardNulls.evaluate bindings >>= Value.overItems "$count" fun items =>
        Value.countOf (items.map fun value => means value >>= Value.condition) := by
  have kept : condition.guardCondition.guardNulls.unknownToFalse =
      condition.guardNulls.unknownToFalse := guardCondition_guardCondition condition
  rw [sound.evaluate_guarded (.countWhere source.guardNulls ⟨name, item⟩
    condition.guardCondition.guardNulls.unknownToFalse type) rfl rfl rfl conform, kept]
  apply bind_congr_of_ok
  intro value isValue
  apply Value.unlessAbsent_items ((sound.conforms bindings conform).of_ok isValue) collected
  intro items itemsConform
  apply (countHolding_eq_countOf _ items).trans
  apply congrArg Value.countOf
  apply List.map_congr_left
  intro argument member
  rw [truth_unknownToFalse, conditionMeans argument (itemsConform argument member)]
  exact congrArg _ (funext Value.truth_eq_condition)

end Expression.Sound

end ClauseBinding
