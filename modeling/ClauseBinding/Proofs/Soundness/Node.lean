import ClauseBinding.Proofs.Binding.Rules
import ClauseBinding.Proofs.Evaluation.Operations
import ClauseBinding.Proofs.NullGuard.Idempotence
import ClauseBinding.Proofs.NullGuard.Preservation
import ClauseBinding.Proofs.Soundness.Guard

/-!
Contract: soundness of the typed nodes that binding builds.

Owns:
- bindings that conform to a scope;
- soundness: guarded, an expression has values of the type it records, and its
  failures are those that numbers bring about;
- for each kind of node, soundness from that of the operands.

Does not own: which nodes a clause is bound to.
-/

namespace ClauseBinding

open ClauseBinding.Outcome

variable {catalog : Catalog} {scope : List Parameter}

/-- Every range variable in scope is bound to a value of its type. -/
def Bindings.Conform
    (catalog : Catalog)
    (scope : List Parameter)
    (bindings : Bindings) : Prop :=
  ∀ name parameter, scope.find? (·.name == name) = some parameter →
    ∃ value, bindings.lookup name = some value ∧ value.Conforms catalog parameter.type

namespace Bindings.Conform

theorem of_empty (bindings : Bindings) : Conform catalog [] bindings :=
  fun _ _ absurd => nomatch absurd

/-- The innermost variable is found first, in the scope and among the bindings. -/
theorem push
    {bindings : Bindings}
    {item : Parameter}
    {value : Value}
    (conform : Conform catalog scope bindings)
    (conforms : value.Conforms catalog item.type) :
    Conform catalog (item :: scope) (bindings.push item.name value) := by
  intro name parameter found
  by_cases same : item.name = name
  · rw [List.find?_cons_of_pos (by simp [same])] at found
    obtain rfl := Option.some.inj found
    exact ⟨value, by simp [Bindings.lookup, Bindings.push, Table.find?, same], conforms⟩
  · rw [List.find?_cons_of_neg (by simp [same])] at found
    obtain ⟨bound, isBound, boundConforms⟩ := conform name parameter found
    exact ⟨bound, by simpa [Bindings.lookup, Bindings.push, Table.find?, same] using isBound,
      boundConforms⟩

end Bindings.Conform

/-- Under bindings that conform to the scope, a guarded expression has a value of
the type recorded before, or fails as numbers make it fail. Guarding keeps the
type, and an absent constant has one that allows absence. -/
structure Expression.Sound
    (catalog : Catalog)
    (scope : List Parameter)
    (expression : Expression) : Prop where
  recorded : expression.guardNulls.type = expression.type
  absent : expression.isNullConstant = true → expression.isNullable = true
  conforms : ∀ bindings, Bindings.Conform catalog scope bindings →
    Meets (Value.Conforms catalog · expression.type) (expression.guardNulls.evaluate bindings)

namespace Expression.Sound

variable {source operand left right : Expression}

/-! ## Leaves -/

theorem of_constant
    {value : Value}
    {type : ValueType}
    (conforms : value.Conforms catalog type) : Sound catalog scope (.constant value type) := by
  refine ⟨rfl, ?_, fun _ _ => conforms⟩
  intro absent
  obtain ⟨_, isNull⟩ := eq_of_isNullConstant absent
  obtain ⟨rfl, rfl⟩ := Expression.constant.inj isNull
  exact Value.Conforms.null_iff.mp conforms

theorem of_parameter
    {name : String}
    {parameter : Parameter}
    (found : scope.find? (·.name == name) = some parameter) :
    Sound catalog scope (.parameter name parameter.type) := by
  refine ⟨rfl, nofun, ?_⟩
  intro bindings conform
  obtain ⟨value, isBound, conforms⟩ := conform name parameter found
  simp only [guardNulls, evaluate, isBound]
  exact conforms

/-! ## Promotion -/

/-- The value of a promoted expression is the converted value, whether the
promotion leaves the expression, replaces an absent constant or converts. -/
theorem evaluate_promote
    (sound : Sound catalog scope operand)
    (target : DataType)
    {bindings : Bindings}
    (conform : Bindings.Conform catalog scope bindings) :
    (operand.promote target).guardNulls.evaluate bindings =
      operand.guardNulls.evaluate bindings >>= fun value => .ok (value.convert target) := by
  unfold promote
  split
  case isTrue same =>
    cases outcome : operand.guardNulls.evaluate bindings with
    | error failure => rfl
    | ok value =>
        have conforms := (sound.conforms bindings conform).of_ok outcome
        rw [ok_bind, ← same, data, conforms.convert_self]
  case isFalse =>
    split
    case isTrue absent =>
      obtain ⟨type, rfl⟩ := eq_of_isNullConstant absent
      simp only [nullOf, guardNulls, evaluate, ok_bind, Value.null_convert]
    case isFalse => rfl

/-- Promotion changes the data type and keeps the nullability. -/
theorem type_promote
    (sound : Sound catalog scope operand)
    (target : DataType) : (operand.promote target).type = ⟨target, operand.isNullable⟩ := by
  unfold promote
  split
  case isTrue same => rw [← same, data, isNullable]
  case isFalse =>
    split
    case isTrue absent => rw [sound.absent absent, nullOf, type, ValueType.optional]
    case isFalse => rfl

theorem isNullable_promote
    (sound : Sound catalog scope operand)
    (target : DataType) : (operand.promote target).isNullable = operand.isNullable := by
  rw [isNullable, sound.type_promote]

theorem promote
    {target : DataType}
    (conservative : catalog.conversions.Conservative)
    (sound : Sound catalog scope operand)
    (accepted : Signature.acceptsArgument catalog.conversions target operand.type = true) :
    Sound catalog scope (operand.promote target) := by
  constructor
  case recorded =>
    unfold Expression.promote
    split
    · exact sound.recorded
    · split <;> rfl
  case absent =>
    intro absent
    rw [isNullable, sound.type_promote target]
    unfold Expression.promote at absent
    split at absent
    · exact sound.absent absent
    · split at absent
      case isTrue isConstant => exact sound.absent isConstant
      case isFalse => cases absent
  case conforms =>
    intro bindings conform
    rw [sound.evaluate_promote target conform, sound.type_promote target]
    apply (sound.conforms bindings conform).bind
    intro value _ conforms
    exact conforms.promote conservative accepted

/-! ## Operators -/

theorem compare
    (operator : Comparison)
    (leftSound : Sound catalog scope left)
    (rightSound : Sound catalog scope right) :
    Sound catalog scope (compare operator left right) := by
  refine ⟨rfl, nofun, ?_⟩
  intro bindings conform
  apply (leftSound.conforms bindings conform).bind
  intro leftValue _ leftConforms
  apply (rightSound.conforms bindings conform).bind
  intro rightValue _ rightConforms
  exact operator.apply_conforms leftConforms rightConforms

theorem connect
    (operator : Connective)
    (leftSound : Sound catalog scope left)
    (rightSound : Sound catalog scope right)
    (leftTruth : left.data = .bool)
    (rightTruth : right.data = .bool) :
    Sound catalog scope (connect operator left right) := by
  refine ⟨rfl, nofun, ?_⟩
  intro bindings conform
  apply (leftSound.conforms bindings conform).bind
  intro leftValue _ leftConforms
  apply (Value.truth?_meets leftTruth leftConforms).bind
  intro leftKnown _ leftAllowed
  split
  · exact .single rfl
  · apply (rightSound.conforms bindings conform).bind
    intro rightValue _ rightConforms
    apply (Value.truth?_meets rightTruth rightConforms).bind
    intro rightKnown _ rightAllowed
    exact Value.ofTruth?_conforms _ (operator.combine_known leftAllowed rightAllowed)

theorem arithmetic
    {target : DataType}
    (operator : Arithmetic)
    (leftSound : Sound catalog scope left)
    (rightSound : Sound catalog scope right)
    (leftData : left.data = target)
    (rightData : right.data = target)
    (numeric : target.isNumeric = true) :
    Sound catalog scope
      (.arithmetic operator left right ⟨target, left.isNullable || right.isNullable⟩) := by
  refine ⟨rfl, nofun, ?_⟩
  intro bindings conform
  apply (leftSound.conforms bindings conform).bind
  intro leftValue _ leftConforms
  apply (rightSound.conforms bindings conform).bind
  intro rightValue _ rightConforms
  exact operator.apply_meets numeric leftData rightData leftConforms rightConforms

theorem has
    {typeName flagsName : String}
    (leftSound : Sound catalog scope left)
    (rightSound : Sound catalog scope right)
    (leftEnumerated : left.data = .enumeration typeName)
    (rightEnumerated : right.data = .enumeration flagsName) :
    Sound catalog scope (.has left right ⟨.bool, left.isNullable || right.isNullable⟩) := by
  refine ⟨rfl, nofun, ?_⟩
  intro bindings conform
  apply (leftSound.conforms bindings conform).bind
  intro leftValue _ leftConforms
  apply (rightSound.conforms bindings conform).bind
  intro rightValue _ rightConforms
  exact Value.hasFlags_conforms leftEnumerated rightEnumerated leftConforms rightConforms

theorem negation
    (sound : Sound catalog scope operand)
    (truth : operand.data = .bool) : Sound catalog scope (negation operand) := by
  refine ⟨rfl, nofun, ?_⟩
  intro bindings conform
  apply (sound.conforms bindings conform).bind
  intro value _ conforms
  exact Value.complement_meets truth conforms

theorem negate
    (sound : Sound catalog scope operand)
    (numeric : operand.data.isNumeric = true) :
    Sound catalog scope (.negate operand operand.type) := by
  refine ⟨rfl, nofun, ?_⟩
  intro bindings conform
  apply (sound.conforms bindings conform).bind
  intro value _ conforms
  exact Value.negate_meets numeric conforms

theorem absence
    (sound : Sound catalog scope operand)
    (negated : Bool) : Sound catalog scope (absence operand negated) := by
  refine ⟨rfl, nofun, ?_⟩
  intro bindings conform
  apply (sound.conforms bindings conform).bind
  intro value _ _
  exact .single rfl

theorem convert
    {target : DataType}
    (conservative : catalog.conversions.Conservative)
    (sound : Sound catalog scope operand)
    (allowed : canCast catalog operand.data target = true) :
    Sound catalog scope (.convert operand (.optional target)) := by
  refine ⟨rfl, nofun, ?_⟩
  intro bindings conform
  apply (sound.conforms bindings conform).bind
  intro value _ conforms
  exact conforms.cast conservative allowed

/-! ## Members, quantifiers and counts -/

/-- A guarded node over one operand continues with its value, unless that is absent. -/
theorem evaluate_guarded
    {node : Expression}
    (guardedNode : Expression)
    {bindings : Bindings}
    {next : Value → Except Failure Value}
    (guards : node.guardNulls = guardedNode.guardAbsence)
    (single : guardedNode.dereferenced = [source.guardNulls])
    (evaluated : guardedNode.evaluate bindings = source.guardNulls.evaluate bindings >>= next)
    (sound : Sound catalog scope source)
    (conform : Bindings.Conform catalog scope bindings) :
    node.guardNulls.evaluate bindings =
      source.guardNulls.evaluate bindings >>= Value.unlessAbsent next := by
  have sourceConforms : Meets (Value.Conforms catalog · source.guardNulls.type)
      (source.guardNulls.evaluate bindings) := by
    rw [sound.recorded]
    exact sound.conforms bindings conform
  rw [guards, evaluate_guardAbsence_of_conforms single evaluated sourceConforms]

/-- A guarded node over one operand is sound if it meets its type on present
values of the operand. -/
theorem of_guarded
    {node : Expression}
    (guardedNode : Expression)
    {next : Bindings → Value → Except Failure Value}
    (guards : node.guardNulls = guardedNode.guardAbsence)
    (sameType : guardedNode.type = node.type)
    (single : guardedNode.dereferenced = [source.guardNulls])
    (evaluated : ∀ bindings, guardedNode.evaluate bindings =
      source.guardNulls.evaluate bindings >>= next bindings)
    (notConstant : node.isNullConstant = false)
    (sound : Sound catalog scope source)
    (allowed : source.isNullable = true → node.isNullable = true)
    (rest : ∀ bindings value, Bindings.Conform catalog scope bindings →
      value.Conforms catalog source.type → value.isNull = false →
        Meets (Value.Conforms catalog · node.type) (next bindings value)) :
    Sound catalog scope node := by
  constructor
  case recorded =>
    rw [guards, type_guardAbsence, sameType]
    intro operand member nullable
    rw [single, List.mem_singleton] at member
    subst member
    rw [isNullable, sound.recorded] at nullable
    rw [isNullable, sameType]
    exact allowed nullable
  case absent =>
    intro absent
    rw [notConstant] at absent
    cases absent
  case conforms =>
    intro bindings conform
    rw [evaluate_guarded guardedNode guards single (evaluated bindings) sound conform]
    apply (sound.conforms bindings conform).bind
    intro value _ conforms
    exact Value.unlessAbsent_meets conforms allowed (rest bindings value conform conforms)

theorem read
    {typeName member : String}
    {definition : MemberDefinition}
    (sound : Sound catalog scope source)
    (structured : source.data = .structured typeName)
    (declared : catalog.member? typeName member = some definition) :
    Sound catalog scope
      (.read source member ⟨definition.data, definition.nullable || source.isNullable⟩) := by
  refine of_guarded (.read source.guardNulls member _) rfl rfl rfl (fun _ => rfl) rfl sound ?_ ?_
  · intro nullable
    show (definition.nullable || source.isNullable) = true
    rw [nullable, Bool.or_true]
  · intro bindings value _ conforms present
    obtain ⟨members, rfl, declaredConform⟩ := conforms.record_of_present structured present
    apply (declaredConform member definition declared).weaken
    intro nullable
    show (definition.nullable || source.isNullable) = true
    rw [show definition.nullable = true from nullable, Bool.true_or]

theorem count
    {element : ValueType}
    (sound : Sound catalog scope source)
    (collected : source.data.element? = some element) :
    Sound catalog scope (.count source ⟨.int64, source.isNullable⟩) := by
  refine of_guarded (.count source.guardNulls _) rfl rfl rfl (fun _ => rfl) rfl sound
    (fun nullable => nullable) ?_
  intro bindings value _ conforms present
  obtain ⟨items, rfl, countable, _⟩ := conforms.items_of_present collected present
  simp only [Value.items, ok_bind, Value.ofCount_of_le countable]
  exact .single rfl

theorem quantified
    {element : ValueType}
    {name : String}
    (quantifier : Quantifier)
    {body : Expression}
    (sound : Sound catalog scope source)
    (collected : source.data.element? = some element)
    (bodySound : Sound catalog (⟨name, element⟩ :: scope) body)
    (truth : body.data = .bool) :
    Sound catalog scope
      (.quantified quantifier source ⟨name, element⟩ body ⟨.bool, source.isNullable⟩) := by
  refine of_guarded (.quantified quantifier source.guardNulls ⟨name, element⟩
    body.guardNulls.unknownToFalse _) rfl rfl rfl (fun _ => rfl) rfl sound
    (fun nullable => nullable) ?_
  intro bindings value conform conforms present
  obtain ⟨items, rfl, _, each⟩ := conforms.items_of_present collected present
  have tested : Meets (fun _ => True) (quantifier.test (fun argument =>
      body.guardNulls.unknownToFalse.evaluate (bindings.push name argument) >>= Value.truth)
      items) := by
    apply Meets.test
    intro argument member
    rw [truth_unknownToFalse]
    apply (bodySound.conforms _ (conform.push (each argument member))).bind
    intro result _ resultConforms
    exact Value.truth_meets truth resultConforms
  apply tested.bind
  intro held _ _
  exact .single rfl

/-! ## Conditions -/

/-- A condition that has become a predicate holds where its value is true: what
is unknown counts as false. -/
theorem evaluate_guardCondition
    {condition : Expression}
    (sound : Sound catalog scope condition)
    (isTruth : condition.guardCondition.type = .required .bool)
    {bindings : Bindings}
    (conform : Bindings.Conform catalog scope bindings) :
    condition.guardCondition.evaluate bindings =
      condition.guardNulls.evaluate bindings >>= fun value => .ok (.bool value.isTrue) := by
  rw [Expression.guardCondition, evaluate_unknownToFalse]
  apply bind_congr_of_ok
  intro value isValue
  have conforms := (sound.conforms bindings conform).of_ok isValue
  by_cases unknown : condition.guardNulls.type = .optional .bool
  · rw [sound.recorded] at unknown
    rw [unknown] at conforms
    rcases conforms.bool_cases rfl with ⟨rfl, _⟩ | ⟨known, rfl⟩
    · simp [sound.recorded, unknown, Value.isNull, Value.isTrue]
    · cases known <;> simp [Value.isNull, Value.isTrue]
  · rw [Expression.guardCondition, unknownToFalse, if_neg unknown, sound.recorded] at isTruth
    rw [isTruth] at conforms
    rcases conforms.bool_cases rfl with ⟨_, absurd⟩ | ⟨known, rfl⟩
    · cases absurd
    · cases known <;> simp [Value.isNull, Value.isTrue]

/-- A condition that has become a predicate is never unknown. -/
theorem guardCondition
    {condition : Expression}
    (sound : Sound catalog scope condition)
    (isTruth : condition.guardCondition.type = .required .bool)
    {bindings : Bindings}
    (conform : Bindings.Conform catalog scope bindings) :
    Meets (fun value => ∃ known, value = .bool known)
      (condition.guardCondition.evaluate bindings) := by
  rw [sound.evaluate_guardCondition isTruth conform]
  apply (sound.conforms bindings conform).bind
  intro value _ _
  exact ⟨value.isTrue, rfl⟩

theorem countWhere
    {element : ValueType}
    {name : String}
    {condition : Expression}
    (sound : Sound catalog scope source)
    (collected : source.data.element? = some element)
    (conditionSound : Sound catalog [⟨name, element⟩] condition)
    (isTruth : condition.guardCondition.type = .required .bool) :
    Sound catalog scope
      (.countWhere source ⟨name, element⟩ condition.guardCondition
        ⟨.int64, source.isNullable⟩) := by
  -- The condition was guarded when it became a predicate; guarding it again keeps it.
  have kept : condition.guardCondition.guardNulls.unknownToFalse = condition.guardCondition :=
    guardCondition_guardCondition condition
  refine of_guarded (.countWhere source.guardNulls ⟨name, element⟩
    condition.guardCondition.guardNulls.unknownToFalse _) rfl rfl rfl (fun _ => rfl) rfl sound
    (fun nullable => nullable) ?_
  rw [kept]
  intro bindings value _ conforms present
  obtain ⟨items, rfl, countable, each⟩ := conforms.items_of_present collected present
  have counted : Meets (· ≤ items.length) (countHolding (fun argument =>
      condition.guardCondition.evaluate (bindings.push name argument) >>= Value.truth)
      items) := by
    apply Meets.countHolding
    intro argument member
    have alone : Bindings.Conform catalog [⟨name, element⟩] (bindings.push name argument) :=
      (Bindings.Conform.of_empty bindings).push (each argument member)
    apply (conditionSound.guardCondition isTruth alone).bind
    rintro result _ ⟨known, rfl⟩
    trivial
  apply counted.bind
  intro count _ bounded
  rw [Value.ofCount_of_le (Nat.le_trans bounded countable)]
  exact .single rfl

end Expression.Sound

end ClauseBinding
