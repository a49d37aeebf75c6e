import ClauseBinding.Proofs.Data.Conformance
import ClauseBinding.Proofs.Evaluation.Outcome

/-!
Contract: operators and functions on values that conform to the types they work in.

Owns:
- for each operation, that its result conforms to its type, or that it fails as numbers
  make it fail;
- that comparisons, arithmetic and functions have no answer for records and collections.

Does not own: how operands come by their types.
-/

namespace ClauseBinding

open ClauseBinding.Outcome

variable {catalog : Catalog}

namespace Arithmetic

private theorem onWhole_meets
    (operator : Arithmetic)
    (left right : Int64) : Meets (fun _ => True) (operator.onWhole left right) := by
  simp only [onWhole]
  split
  · trivial
  · split <;> trivial

private theorem narrow_meets
    (operator : Arithmetic)
    (result : Int64) : Meets (fun _ => True) (operator.narrow result) := by
  unfold narrow
  split <;> trivial

/-- Arithmetic on two numbers of one type has a result of that type. -/
theorem apply_numbers_meets
    (operator : Arithmetic)
    {left right : Value}
    {data : DataType}
    (numeric : data.isNumeric = true)
    (leftOwn : left.dataType? = some data)
    (rightOwn : right.dataType? = some data) :
    Meets (fun result => result.dataType? = some data) (operator.apply left right) := by
  cases data with
  | int32 =>
      obtain ⟨left, rfl⟩ := Value.looksLike_of_dataType? leftOwn
      obtain ⟨right, rfl⟩ := Value.looksLike_of_dataType? rightOwn
      apply (onWhole_meets operator _ _).bind
      intro result _ _
      apply (narrow_meets operator result).bind
      intro narrowed _ _
      rfl
  | int64 =>
      obtain ⟨left, rfl⟩ := Value.looksLike_of_dataType? leftOwn
      obtain ⟨right, rfl⟩ := Value.looksLike_of_dataType? rightOwn
      apply (onWhole_meets operator _ _).bind
      intro result _ _
      rfl
  | float32 | float64 =>
      obtain ⟨left, rfl⟩ := Value.looksLike_of_dataType? leftOwn
      obtain ⟨right, rfl⟩ := Value.looksLike_of_dataType? rightOwn
      rfl
  | _ => cases numeric

theorem apply_null
    (operator : Arithmetic)
    (left : Value) : operator.apply left .null = .ok .null := by
  cases left <;> rfl

/-- Arithmetic on operands of one type has a result of that type, which is absent
only where an operand may be. -/
theorem apply_meets
    (operator : Arithmetic)
    {left right : Value}
    {leftType rightType : ValueType}
    {data : DataType}
    (numeric : data.isNumeric = true)
    (leftData : leftType.data = data)
    (rightData : rightType.data = data)
    (leftConforms : left.Conforms catalog leftType)
    (rightConforms : right.Conforms catalog rightType) :
    Meets (Value.Conforms catalog · ⟨data, leftType.nullable || rightType.nullable⟩)
      (operator.apply left right) := by
  have orderable : data.isOrderable = true := by cases data <;> first | rfl | cases numeric
  cases leftAbsent : left.isNull with
  | true =>
      obtain rfl := Value.isNull_iff.mp leftAbsent
      rw [Value.Conforms.null_iff.mp leftConforms]
      exact .absent
  | false =>
      cases rightAbsent : right.isNull with
      | true =>
          obtain rfl := Value.isNull_iff.mp rightAbsent
          rw [apply_null, Value.Conforms.null_iff.mp rightConforms, Bool.or_true]
          exact .absent
      | false =>
          have leftOwn := leftConforms.own_type leftAbsent (by rw [leftData, orderable])
          have rightOwn := rightConforms.own_type rightAbsent (by rw [rightData, orderable])
          rw [leftData] at leftOwn
          rw [rightData] at rightOwn
          exact (apply_numbers_meets operator numeric leftOwn rightOwn).mono
            fun _ own => .single own

end Arithmetic

namespace Value

/-- Negation keeps the type of a number. -/
theorem negate_meets
    {value : Value}
    {type : ValueType}
    (numeric : type.data.isNumeric = true)
    (conforms : value.Conforms catalog type) :
    Meets (Conforms catalog · type) value.negate := by
  cases conforms with
  | absent => exact .absent
  | @single _ data nullable own =>
      cases data with
      | int32 =>
          obtain ⟨number, rfl⟩ := looksLike_of_dataType? own
          by_cases least : number = Int32.minValue
          · simp only [negate, if_pos least]
            trivial
          · simp only [negate, if_neg least]
            exact Conforms.single rfl
      | int64 =>
          obtain ⟨number, rfl⟩ := looksLike_of_dataType? own
          by_cases least : number = Int64.minValue
          · simp only [negate, if_pos least]
            trivial
          · simp only [negate, if_neg least]
            exact Conforms.single rfl
      | float32 | float64 =>
          obtain ⟨number, rfl⟩ := looksLike_of_dataType? own
          exact .single rfl
      | _ => cases numeric
  | record | collection => cases numeric

theorem complement_meets
    {value : Value}
    {type : ValueType}
    (truth : type.data = .bool)
    (conforms : value.Conforms catalog type) :
    Meets (Conforms catalog · type) value.complement := by
  rcases conforms.bool_cases truth with ⟨rfl, allowed⟩ | ⟨known, rfl⟩
  · exact conforms
  · obtain ⟨data, nullable⟩ := type
    obtain rfl := truth
    exact .single rfl

/-- A truth value is unknown only where it may be. -/
theorem truth?_meets
    {value : Value}
    {type : ValueType}
    (truth : type.data = .bool)
    (conforms : value.Conforms catalog type) :
    Meets (fun known => known = none → type.nullable = true) value.truth? := by
  rcases conforms.bool_cases truth with ⟨rfl, allowed⟩ | ⟨known, rfl⟩
  · exact fun _ => allowed
  · exact fun unknown => nomatch unknown

theorem truth_meets
    {value : Value}
    {type : ValueType}
    (truth : type.data = .bool)
    (conforms : value.Conforms catalog type) :
    Meets (fun _ => True) value.truth := by
  rcases conforms.bool_cases truth with ⟨rfl, _⟩ | ⟨known, rfl⟩ <;> trivial

theorem ofTruth?_conforms
    (known : Option Bool)
    {nullable : Bool}
    (allowed : known = none → nullable = true) :
    (ofTruth? known).Conforms catalog ⟨.bool, nullable⟩ := by
  cases known with
  | some value => exact .single rfl
  | none =>
      rw [allowed rfl]
      exact .absent

/-- A test for flags is unknown only where an operand may be absent. -/
theorem hasFlags_conforms
    {value flags : Value}
    {valueType flagsType : ValueType}
    {typeName flagsName : String}
    (valueData : valueType.data = .enumeration typeName)
    (flagsData : flagsType.data = .enumeration flagsName)
    (valueConforms : value.Conforms catalog valueType)
    (flagsConform : flags.Conforms catalog flagsType) :
    (value.hasFlags flags).Conforms catalog
      ⟨.bool, valueType.nullable || flagsType.nullable⟩ := by
  cases valueAbsent : value.isNull with
  | true =>
      obtain rfl := isNull_iff.mp valueAbsent
      rw [Conforms.null_iff.mp valueConforms]
      exact .absent
  | false =>
      obtain ⟨number, rfl⟩ := looksLike_of_dataType?
        (valueConforms.own_enumeration valueData valueAbsent)
      cases flagsAbsent : flags.isNull with
      | true =>
          obtain rfl := isNull_iff.mp flagsAbsent
          rw [Conforms.null_iff.mp flagsConform, Bool.or_true]
          exact .absent
      | false =>
          obtain ⟨flags, rfl⟩ := looksLike_of_dataType?
            (flagsConform.own_enumeration flagsData flagsAbsent)
          exact .single rfl

private theorem ofLength_meets (length : Nat) :
    Meets (fun value => value.dataType? = some .int32) (ofLength length) := by
  unfold ofLength
  split
  · rfl
  · show Int32.maxValue.toInt.toNat < length
    omega

theorem ofCount_of_le
    {count : Nat}
    (bounded : count ≤ Int64.maxValue.toInt.toNat) :
    ofCount count = .ok (.int64 (Int64.ofNat count)) := by
  rw [ofCount, if_pos bounded]

end Value

/-- A comparison is unknown only where an operand may be absent. -/
theorem Comparison.apply_conforms
    (operator : Comparison)
    {left right : Value}
    {leftType rightType : ValueType}
    (leftConforms : left.Conforms catalog leftType)
    (rightConforms : right.Conforms catalog rightType) :
    (operator.apply left right).Conforms catalog
      ⟨.bool, leftType.nullable || rightType.nullable⟩ := by
  unfold apply
  split
  · rename_i absent
    have allowed : (leftType.nullable || rightType.nullable) = true := by
      rcases Bool.or_eq_true_iff.mp absent with leftAbsent | rightAbsent
      · obtain rfl := Value.isNull_iff.mp leftAbsent
        rw [Value.Conforms.null_iff.mp leftConforms, Bool.true_or]
      · obtain rfl := Value.isNull_iff.mp rightAbsent
        rw [Value.Conforms.null_iff.mp rightConforms, Bool.or_true]
    rw [allowed]
    exact .absent
  · split <;> exact .single rfl

/-- A connective of which the left operand decides nothing is unknown only where
an operand may be. -/
theorem Connective.combine_known
    (operator : Connective)
    {left right : Option Bool}
    {leftNullable rightNullable : Bool}
    (leftKnown : left = none → leftNullable = true)
    (rightKnown : right = none → rightNullable = true) :
    operator.combine left right = none → (leftNullable || rightNullable) = true := by
  intro unknown
  cases left with
  | none => rw [leftKnown rfl, Bool.true_or]
  | some _ =>
      cases right with
      | none => rw [rightKnown rfl, Bool.or_true]
      | some _ =>
          simp only [combine] at unknown
          split at unknown <;> simp at unknown

namespace Function

theorem one_argument
    {arguments : List Value}
    {data : DataType}
    (typed : arguments.map Value.dataType? = [some data]) :
    ∃ value, arguments = [value] ∧ value.LooksLike data := by
  obtain ⟨value, rfl, own⟩ := List.map_eq_singleton_iff.mp typed
  exact ⟨value, rfl, Value.looksLike_of_dataType? own⟩

theorem next_argument
    {arguments : List Value}
    {data : DataType}
    {others : List (Option DataType)}
    (typed : arguments.map Value.dataType? = some data :: others) :
    ∃ value rest, arguments = value :: rest ∧ value.LooksLike data
      ∧ rest.map Value.dataType? = others := by
  obtain ⟨value, rest, rfl, own, typedRest⟩ := List.map_eq_cons_iff.mp typed
  exact ⟨value, rest, rfl, Value.looksLike_of_dataType? own, typedRest⟩

/-- A function on arguments of the types of one of its overloads has a result of
the type of that overload. -/
theorem apply_meets
    (function : Function)
    {signature : Signature}
    {arguments : List Value}
    (overload : signature ∈ function.signatures)
    (typed : arguments.map Value.dataType? = signature.parameters.map some) :
    Meets (fun value => value.dataType? = some signature.result) (function.apply arguments) := by
  cases function with
  | contains | startsWith | endsWith | concat =>
      obtain rfl := List.mem_singleton.mp overload
      obtain ⟨_, _, rfl, ⟨text, rfl⟩, last⟩ := next_argument typed
      obtain ⟨_, rfl, ⟨pattern, rfl⟩⟩ := one_argument last
      rfl
  | indexOf =>
      obtain rfl := List.mem_singleton.mp overload
      obtain ⟨_, _, rfl, ⟨text, rfl⟩, last⟩ := next_argument typed
      obtain ⟨_, rfl, ⟨pattern, rfl⟩⟩ := one_argument last
      unfold apply
      dsimp only
      split
      · exact Value.ofLength_meets _
      · rfl
  | length =>
      obtain rfl := List.mem_singleton.mp overload
      obtain ⟨_, rfl, ⟨text, rfl⟩⟩ := one_argument typed
      exact Value.ofLength_meets _
  | substring =>
      rcases List.mem_cons.mp overload with rfl | overload
      · obtain ⟨_, _, rfl, ⟨text, rfl⟩, last⟩ := next_argument typed
        obtain ⟨_, rfl, ⟨start, rfl⟩⟩ := one_argument last
        rfl
      · obtain rfl := List.mem_singleton.mp overload
        obtain ⟨_, _, rfl, ⟨text, rfl⟩, others⟩ := next_argument typed
        obtain ⟨_, _, rfl, ⟨start, rfl⟩, last⟩ := next_argument others
        obtain ⟨_, rfl, ⟨count, rfl⟩⟩ := one_argument last
        rfl
  | toLower | toUpper | trim | hour | minute | second | date =>
      obtain rfl := List.mem_singleton.mp overload
      obtain ⟨_, rfl, ⟨value, rfl⟩⟩ := one_argument typed
      rfl
  | year | month | day | round | floor | ceiling =>
      rcases List.mem_cons.mp overload with rfl | overload
      · obtain ⟨_, rfl, ⟨value, rfl⟩⟩ := one_argument typed
        rfl
      · obtain rfl := List.mem_singleton.mp overload
        obtain ⟨_, rfl, ⟨value, rfl⟩⟩ := one_argument typed
        rfl

end Function

/-! ## Records and collections -/

namespace Value

/-- Records and collections, on which nothing is calculated. -/
def IsStructured : Value → Prop
  | .record _ | .collection _ => True
  | _ => False

/-- No record and no collection compares with anything. -/
theorem compare?_of_structured
    {left right : Value}
    (structured : left.IsStructured ∨ right.IsStructured) : left.compare? right = none := by
  rcases structured with leftStructured | rightStructured
  · cases left with
    | record | collection => rfl
    | _ => exact leftStructured.elim
  · cases right with
    | record | collection => cases left <;> rfl
    | _ => exact rightStructured.elim

end Value

/-- Nothing is calculated with a record or a collection, unless the other operand is absent. -/
theorem Arithmetic.apply_of_structured
    {left right : Value}
    (operator : Arithmetic)
    (structured : left.IsStructured ∨ right.IsStructured) :
    operator.apply left right =
      if left.isNull || right.isNull then .ok .null
      else .error (.evaluation (.notCalculable operator left right)) := by
  rcases structured with leftStructured | rightStructured
  · cases left with
    | record | collection => cases right <;> rfl
    | _ => exact leftStructured.elim
  · cases right with
    | record | collection => cases left <;> rfl
    | _ => exact rightStructured.elim

/-- No function accepts a record or a collection. -/
theorem Function.apply_of_structured
    {arguments : List Value}
    (function : Function)
    (structured : ∃ argument ∈ arguments, argument.IsStructured) :
    function.apply arguments = .error (.evaluation (.notAccepted function arguments)) := by
  fun_cases apply function arguments
  all_goals first | rfl | simp [Value.IsStructured] at structured

end ClauseBinding
