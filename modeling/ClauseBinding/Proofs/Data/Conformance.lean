import ClauseBinding.Binding.Clause
import ClauseBinding.Evaluation.Conversion

/-!
Contract: values that conform to a type, and what conversions make of them.

Owns:
- conformance of a value to a type under a catalog;
- the shape of a conforming value, read off its type;
- tables of conversions that lose no value silently;
- that promotions and casts by such tables take conforming values to conforming values.

Does not own: operators, functions and expressions.
-/

namespace ClauseBinding

/-- Whether a value is one of a type. An absent value is one of every type that
allows it. A record has to hold a conforming value for each member that the
catalog declares, a missing one being absent; other members are not looked at. A
collection has conforming items, and like every collection that fits a memory no
more of them than 64 bits can count. -/
inductive Value.Conforms (catalog : Catalog) : Value → ValueType → Prop where
  | absent {data : DataType} : Conforms catalog .null ⟨data, true⟩
  | single {value : Value} {data : DataType} {nullable : Bool}
      (own : value.dataType? = some data) :
      Conforms catalog value ⟨data, nullable⟩
  | record {members : Record} {typeName : String} {nullable : Bool}
      (declared : ∀ member definition, catalog.member? typeName member = some definition →
        Conforms catalog (Record.read members member) ⟨definition.data, definition.nullable⟩) :
      Conforms catalog (.record members) ⟨.structured typeName, nullable⟩
  | collection {items : List Value} {element : DataType} {itemNullable nullable : Bool}
      (countable : items.length ≤ Int64.maxValue.toInt.toNat)
      (each : ∀ item ∈ items, Conforms catalog item ⟨element, itemNullable⟩) :
      Conforms catalog (.collection items) ⟨.collection element itemNullable, nullable⟩

namespace Value

/-- Only the absent value is absent. -/
theorem isNull_iff {value : Value} : value.isNull = true ↔ value = .null := by
  cases value <;> simp [isNull]

/-- What a value looks like that shows a data type by itself. -/
def LooksLike
    (value : Value) : DataType → Prop
  | .bool => ∃ known, value = .bool known
  | .int32 => ∃ number, value = .int32 number
  | .int64 => ∃ number, value = .int64 number
  | .float32 => ∃ number, value = .float32 number
  | .float64 => ∃ number, value = .float64 number
  | .string => ∃ text, value = .string text
  | .date => ∃ date, value = .date date
  | .moment => ∃ moment, value = .moment moment
  | .enumeration typeName => ∃ number, value = .enumeration typeName number
  | .structured _ | .collection _ _ | .null => False

theorem looksLike_of_dataType?
    {value : Value}
    {data : DataType}
    (own : value.dataType? = some data) : value.LooksLike data := by
  cases value <;> simp [dataType?] at own <;> subst own <;> exact ⟨_, rfl⟩

private theorem isOrderable_of_dataType?
    {value : Value}
    {data : DataType}
    (own : value.dataType? = some data) : data.isOrderable = true := by
  have looks := looksLike_of_dataType? own
  cases data <;> first | rfl | exact looks.elim

@[simp] theorem null_convert (target : DataType) : Value.null.convert target = .null := by
  cases target <;> rfl

end Value

namespace Value.Conforms

variable {catalog : Catalog} {value : Value} {type : ValueType}

/-! ## Shapes -/

theorem null_iff : Conforms catalog .null type ↔ type.nullable = true := by
  constructor
  · intro conforms
    cases conforms with
    | absent => rfl
    | single own => simp [dataType?] at own
  · intro nullable
    obtain ⟨data, rfl⟩ : ∃ data, type = ⟨data, true⟩ := ⟨type.data, by simp [← nullable]⟩
    exact .absent

theorem present
    (conforms : Conforms catalog value type)
    (required : type.nullable = false) : value.isNull = false := by
  cases absent : value.isNull with
  | false => rfl
  | true =>
      rw [isNull_iff.mp absent, null_iff] at conforms
      simp [required] at conforms

/-- A present value conforms to its type whether or not absence is allowed. -/
theorem of_present
    (conforms : Conforms catalog value type)
    (present : value.isNull = false)
    (nullable : Bool) : Conforms catalog value ⟨type.data, nullable⟩ := by
  cases conforms with
  | absent => simp [isNull] at present
  | single own => exact .single own
  | record declared => exact .record declared
  | collection countable each => exact .collection countable each

/-- Conformance to a type whose values may be absent wherever those of the first may. -/
theorem weaken
    {nullable : Bool}
    (conforms : Conforms catalog value type)
    (allowed : type.nullable = true → nullable = true) :
    Conforms catalog value ⟨type.data, nullable⟩ := by
  cases absent : value.isNull with
  | false => exact conforms.of_present absent nullable
  | true =>
      rw [isNull_iff.mp absent, null_iff] at conforms ⊢
      exact allowed conforms

/-- A present value of a primitive type or an enumeration shows its type. -/
theorem own_type
    (conforms : Conforms catalog value type)
    (present : value.isNull = false)
    (orderable : type.data.isOrderable = true) : value.dataType? = some type.data := by
  cases conforms with
  | absent => simp [isNull] at present
  | single own => exact own
  | record => simp [DataType.isOrderable, DataType.isPrimitive, DataType.isEnumeration] at orderable
  | collection =>
      simp [DataType.isOrderable, DataType.isPrimitive, DataType.isEnumeration] at orderable

theorem own_enumeration
    {typeName : String}
    (conforms : Conforms catalog value type)
    (enumerated : type.data = .enumeration typeName)
    (present : value.isNull = false) : value.dataType? = some (.enumeration typeName) := by
  rw [← enumerated]
  exact conforms.own_type present (by rw [enumerated]; rfl)

/-- A value that shows a type conforms to no other. -/
theorem data_eq
    {data : DataType}
    (conforms : Conforms catalog value type)
    (own : value.dataType? = some data) : type.data = data := by
  cases conforms with
  | absent | record | collection => cases own
  | single shown => exact Option.some.inj (shown.symm.trans own)

/-- No present value has the type of an absent literal. -/
theorem eq_null
    (conforms : Conforms catalog value type)
    (untyped : type.data = .null) : value = .null := by
  cases conforms with
  | absent => rfl
  | @single _ data _ own =>
      obtain rfl : data = .null := untyped
      have looks : False := looksLike_of_dataType? own
      exact looks.elim
  | record => simp at untyped
  | collection => simp at untyped

theorem record_of_present
    {typeName : String}
    (conforms : Conforms catalog value type)
    (structured : type.data = .structured typeName)
    (present : value.isNull = false) :
    ∃ members, value = .record members ∧
      ∀ member definition, catalog.member? typeName member = some definition →
        Conforms catalog (Record.read members member) ⟨definition.data, definition.nullable⟩ := by
  cases conforms with
  | absent => simp [isNull] at present
  | @single _ data _ own =>
      obtain rfl : data = .structured typeName := structured
      have looks : False := looksLike_of_dataType? own
      exact looks.elim
  | record declared =>
      obtain rfl := DataType.structured.inj structured
      exact ⟨_, rfl, declared⟩
  | collection => simp at structured

theorem items_of_present
    {element : ValueType}
    (conforms : Conforms catalog value type)
    (collected : type.data.element? = some element)
    (present : value.isNull = false) :
    ∃ items, value = .collection items ∧ items.length ≤ Int64.maxValue.toInt.toNat ∧
      ∀ item ∈ items, Conforms catalog item element := by
  cases conforms with
  | absent => simp [isNull] at present
  | @single _ data _ own =>
      have orderable := isOrderable_of_dataType? own
      cases data <;> simp_all [DataType.element?, DataType.isOrderable, DataType.isPrimitive,
        DataType.isEnumeration]
  | record => simp [DataType.element?] at collected
  | collection countable each =>
      obtain rfl := Option.some.inj collected
      exact ⟨_, rfl, countable, each⟩

theorem bool_cases
    (conforms : Conforms catalog value type)
    (truth : type.data = .bool) :
    (value = .null ∧ type.nullable = true) ∨ ∃ known, value = .bool known := by
  cases conforms with
  | absent => exact .inl ⟨rfl, rfl⟩
  | @single _ data _ own =>
      obtain rfl : data = .bool := truth
      exact .inr (looksLike_of_dataType? own)
  | record => simp at truth
  | collection => simp at truth

/-! ## Conversions -/

/-- A conversion to the type that the value has changes nothing. -/
theorem convert_self (conforms : Conforms catalog value type) :
    value.convert type.data = value := by
  cases conforms with
  | absent => exact null_convert _
  | single own => simp [convert, own]
  | record | collection => simp [convert, dataType?, convertAcross]

end Value.Conforms

/-- Types whose values are made of other values. -/
def DataType.isComposite : DataType → Bool
  | .structured _ | .collection _ _ => true
  | _ => false

/-- Conversions that lose no value silently: only widenings are implicit, and
what has parts is no target of a cast. -/
structure ConversionTable.Conservative (table : ConversionTable) : Prop where
  implicit : ∀ conversion ∈ table.implicit, conversion ∈ ConversionTable.widenings
  explicit : ∀ conversion ∈ table.explicit, conversion.target.isComposite = false

theorem ConversionTable.standard_conservative : ConversionTable.standard.Conservative :=
  ⟨by decide, by decide⟩

namespace Value

/-! ## Where conversions lead -/

/-- Absent, or of a data type by itself. -/
def Lands
    (value : Value)
    (target : DataType) : Prop :=
  value = .null ∨ value.dataType? = some target

private theorem ofWhole32_lands (value : Int) : (ofWhole32 value).Lands .int32 := by
  unfold ofWhole32
  split
  · exact .inr rfl
  · exact .inl rfl

private theorem ofWhole64_lands (value : Int) : (ofWhole64 value).Lands .int64 := by
  unfold ofWhole64
  split
  · exact .inr rfl
  · exact .inl rfl

/-- What may be there lands where it would land. -/
theorem getD_lands
    {α : Type}
    {target : DataType}
    (found : Option α)
    (make : α → Value)
    (lands : ∀ item, (make item).Lands target) :
    ((found.map make).getD .null).Lands target := by
  cases found with
  | none => exact .inl rfl
  | some item => exact lands item

/-- A converted value is absent or has the target for its type. -/
theorem convert_lands
    (value : Value)
    {target : DataType}
    (single : target.isComposite = false) : (value.convert target).Lands target := by
  unfold convert
  split
  · rename_i own
    exact .inr own
  · fun_cases convertAcross value target
    case case16 | case17 => simp [DataType.isComposite] at single
    case case4 | case15 => exact ofWhole32_lands _
    case case8 | case10 => exact getD_lands _ _ ofWhole32_lands
    case case9 | case11 => exact getD_lands _ _ ofWhole64_lands
    case case18 => exact getD_lands _ _ fun _ => .inr rfl
    all_goals first | exact .inr rfl | exact .inl rfl

end Value

namespace Value.Conforms

variable {catalog : Catalog} {value : Value} {type : ValueType}

/-- A widening keeps present values present, in the wider type. -/
theorem convert_widening
    {conversion : Conversion}
    (widening : conversion ∈ ConversionTable.widenings)
    (conforms : Conforms catalog value type)
    (source : type.data = conversion.source) :
    Conforms catalog (value.convert conversion.target) ⟨conversion.target, type.nullable⟩ := by
  cases absent : value.isNull with
  | true =>
      obtain rfl := isNull_iff.mp absent
      have allowed := null_iff.mp conforms
      rw [null_convert, null_iff]
      exact allowed
  | false =>
      simp only [ConversionTable.widenings, List.mem_cons, List.not_mem_nil, or_false] at widening
      have orderable : type.data.isOrderable = true := by
        rw [source]
        rcases widening with rfl | rfl | rfl | rfl | rfl | rfl <;> rfl
      have own := conforms.own_type absent orderable
      rw [source] at own
      rcases widening with rfl | rfl | rfl | rfl | rfl | rfl <;>
        cases value <;> simp [dataType?] at own <;> exact .single rfl

/-- What stands for a parameter or an operand keeps its nullability when it is promoted. -/
theorem promote
    {target : DataType}
    (conservative : catalog.conversions.Conservative)
    (accepted : Signature.acceptsArgument catalog.conversions target type = true)
    (conforms : Conforms catalog value type) :
    Conforms catalog (value.convert target) ⟨target, type.nullable⟩ := by
  simp only [Signature.acceptsArgument, ValueType.isNull, ConversionTable.canPromote,
    Bool.or_eq_true, beq_iff_eq, List.contains_iff_mem] at accepted
  rcases accepted with untyped | same | implicit
  · obtain rfl := conforms.eq_null untyped
    have allowed := null_iff.mp conforms
    rw [null_convert, null_iff]
    exact allowed
  · rw [← same, conforms.convert_self]
    exact conforms
  · exact convert_widening (conservative.implicit _ implicit) conforms rfl

/-- What is promoted stays present, or absent. -/
theorem isNull_promote
    {target : DataType}
    (conservative : catalog.conversions.Conservative)
    (accepted : Signature.acceptsArgument catalog.conversions target type = true)
    (conforms : Conforms catalog value type) :
    (value.convert target).isNull = value.isNull := by
  cases absent : value.isNull with
  | true =>
      rw [isNull_iff.mp absent, null_convert]
      rfl
  | false =>
      have acceptedPresent :
          Signature.acceptsArgument catalog.conversions target ⟨type.data, false⟩ = true := accepted
      have promoted := (conforms.of_present absent false).promote conservative acceptedPresent
      exact promoted.present rfl

/-- A present value that can stand for a single one shows its type. -/
theorem own_type_of_accepted
    {target : DataType}
    (conservative : catalog.conversions.Conservative)
    (accepted : Signature.acceptsArgument catalog.conversions target type = true)
    (single : target.isOrderable = true)
    (conforms : Conforms catalog value type)
    (present : value.isNull = false) : value.dataType? = some type.data := by
  apply conforms.own_type present
  simp only [Signature.acceptsArgument, ValueType.isNull, ConversionTable.canPromote,
    Bool.or_eq_true, beq_iff_eq, List.contains_iff_mem] at accepted
  rcases accepted with untyped | same | implicit
  · rw [conforms.eq_null untyped] at present
    cases present
  · rw [same]
    exact single
  · have widened : ∀ conversion ∈ ConversionTable.widenings,
        conversion.source.isOrderable = true := by decide
    exact widened _ (conservative.implicit _ implicit)

private theorem of_lands
    {target : DataType}
    (lands : value.Lands target) : Conforms catalog value (.optional target) := by
  rcases lands with rfl | own
  · exact .absent
  · exact .single own

/-- A cast value is one of the target, or absent. -/
theorem cast
    {target : DataType}
    (conservative : catalog.conversions.Conservative)
    (allowed : Expression.canCast catalog type.data target = true)
    (conforms : Conforms catalog value type) :
    Conforms catalog (value.convert target) (.optional target) := by
  cases composite : target.isComposite with
  | false => exact of_lands (convert_lands value composite)
  | true =>
      -- No conversion has such a target, so the cast is to the type itself.
      have same : type.data = target := by
        unfold Expression.canCast at allowed
        split at allowed
        · cases target <;> simp_all [DataType.isComposite, DataType.isIntegral]
        · simp only [ConversionTable.canCast, ConversionTable.canPromote, Bool.or_eq_true,
            beq_iff_eq, List.contains_iff_mem] at allowed
          rcases allowed with (same | implicit) | explicit
          · exact same
          · have notWidened : ∀ conversion ∈ ConversionTable.widenings,
                conversion.target.isComposite = false := by decide
            have single := notWidened _ (conservative.implicit _ implicit)
            exact absurd composite (by simpa using single)
          · exact absurd composite (by simpa using conservative.explicit _ explicit)
      rw [← same, conforms.convert_self]
      exact conforms.weaken fun _ => rfl

end Value.Conforms

end ClauseBinding
