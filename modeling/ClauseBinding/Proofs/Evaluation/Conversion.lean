import ClauseBinding.Proofs.Data.Conformance

/-!
Contract: what becomes of a value that is converted.

Owns:
- values that show a data type, records and collections only as such;
- that a conversion ends in its target or in absence, and changes nothing further on;
- conversions of whole numbers, which are exact or else absent;
- that no widening of numbers ends in absence.

Does not own: which conversions a clause may ask for, or conformance under a catalog.

Values go to texts by a rule of their own, and records and collections stay whatever type of
their kind is asked for. So where a conversion ends is found case by case, and all else is
read off that: a value that shows the target is not touched again.
-/

namespace ClauseBinding.Value

variable {value : Value} {target : DataType}

/-! ## Where a conversion ends -/

/-- Whether a value is one of a data type, as far as it shows that. A record may be one of
every structured type, and a collection one of every collection type. -/
inductive Shows : Value → DataType → Prop where
  | single {value : Value} {data : DataType}
      (own : value.dataType? = some data) : Shows value data
  | record (members : Record) (typeName : String) :
      Shows (.record members) (.structured typeName)
  | collection (items : List Value) (element : DataType) (nullable : Bool) :
      Shows (.collection items) (.collection element nullable)

private theorem convert_of_shows (shows : value.Shows target) : value.convert target = value := by
  cases shows with
  | single own => rw [convert, if_pos own]
  | record | collection => rfl

/-- Only a record goes to a structured type, and only a collection to a collection type. -/
theorem null_or_shows_convert_of_composite
    (composite : target.isComposite = true) :
    value.convert target = .null ∨ (value.convert target).Shows target := by
  cases target with
  | structured typeName =>
      cases value with
      | record members => exact .inr (.record members typeName)
      | _ => exact .inl rfl
  | collection element nullable =>
      cases value with
      | collection items => exact .inr (.collection items element nullable)
      | _ => exact .inl rfl
  | _ => cases composite

private theorem null_or_shows_convert
    (value : Value)
    (target : DataType) : value.convert target = .null ∨ (value.convert target).Shows target := by
  cases composite : target.isComposite with
  | true => exact null_or_shows_convert_of_composite composite
  | false =>
      rcases convert_lands value composite with absent | own
      · exact .inl absent
      · exact .inr (.single own)

private theorem convert_convert
    (value : Value)
    (target : DataType) : (value.convert target).convert target = value.convert target := by
  rcases null_or_shows_convert value target with absent | shows
  · rw [absent, null_convert]
  · exact convert_of_shows shows

/-! ## Numbers -/

/-- The number that a value of a whole type holds, or an enumeration value stands for. -/
def number? : Value → Option Int
  | .int32 value => some value.toInt
  | .int64 value => some value.toInt
  | .enumeration _ value => some value.toInt
  | _ => none

private theorem ofWhole32_toInt (narrow : Int32) : ofWhole32 narrow.toInt = .int32 narrow := by
  rw [ofWhole32, if_pos ⟨narrow.minValue_le_toInt, narrow.toInt_le⟩, Int32.ofInt_toInt]

/-- A number is absent in 32 bits exactly if no 32 bits hold it. -/
theorem ofWhole32_eq_null_iff {number : Int} :
    ofWhole32 number = .null ↔ ∀ narrow : Int32, narrow.toInt ≠ number := by
  constructor
  · rintro absent narrow rfl
    rw [ofWhole32_toInt] at absent
    cases absent
  · intro misses
    refine if_neg fun fits => misses (Int32.ofInt number) ?_
    exact Int32.toInt_ofInt_of_le fits.1 (Int.lt_of_le_of_lt fits.2 (by decide))

private theorem convert_int32_of_number?
    {number : Int}
    (held : value.number? = some number) : value.convert .int32 = ofWhole32 number := by
  cases value with
  | int32 narrow =>
      obtain rfl := Option.some.inj held
      rw [ofWhole32_toInt]
      rfl
  | int64 | enumeration =>
      obtain rfl := Option.some.inj held
      rfl
  | _ => cases held

private theorem convert_int64_of_number?
    {number : Int}
    (held : value.number? = some number) :
    ∃ wide : Int64, wide.toInt = number ∧ value.convert .int64 = .int64 wide := by
  cases value with
  | int32 narrow =>
      obtain rfl := Option.some.inj held
      exact ⟨narrow.toInt64, narrow.toInt_toInt64, rfl⟩
  | int64 wide | enumeration _ wide =>
      obtain rfl := Option.some.inj held
      exact ⟨wide, rfl, rfl⟩
  | _ => cases held

/-- Widenings lead from present numbers to present numbers. -/
theorem convert_widening_ne_null
    {conversion : Conversion}
    (widening : conversion ∈ ConversionTable.widenings)
    (own : value.dataType? = some conversion.source) : value.convert conversion.target ≠ .null := by
  have conforms : value.Conforms .empty (.required conversion.source) := .single own
  have present := (conforms.convert_widening widening rfl).present rfl
  intro absent
  rw [absent] at present
  cases present

/-! ## Conversions -/

/-- What becomes of a value that is converted. It ends in the target or in absence; an absent
value stays absent, one of the target stays as it is, and a second conversion to the target
changes nothing. A number of either whole type, or of an enumeration, goes unchanged to 64
bits, and to 32 bits unless they do not hold it, when it becomes absent. So 32 bits come back
from 64, and no widening of numbers ends in absence. -/
theorem convert_ends_in_target
    (value : Value)
    (target : DataType) :
    (value.convert target = .null ∨ (value.convert target).Shows target)
      ∧ (value = .null → value.convert target = .null)
      ∧ (value.Shows target → value.convert target = value)
      ∧ (value.convert target).convert target = value.convert target
      ∧ (∀ number, value.number? = some number →
        (∃ wide : Int64, wide.toInt = number ∧ value.convert .int64 = .int64 wide)
          ∧ (∀ narrow : Int32, narrow.toInt = number → value.convert .int32 = .int32 narrow)
          ∧ (value.convert .int32 = .null ↔ ∀ narrow : Int32, narrow.toInt ≠ number))
      ∧ (∀ narrow : Int32,
        ((Value.int32 narrow).convert .int64).convert .int32 = .int32 narrow)
      ∧ ∀ conversion ∈ ConversionTable.widenings,
        value.dataType? = some conversion.source → value.convert conversion.target ≠ .null := by
  refine ⟨null_or_shows_convert value target, ?absent, convert_of_shows,
    convert_convert value target, ?whole, ?back, fun _ => convert_widening_ne_null⟩
  case absent =>
    rintro rfl
    exact null_convert target
  case whole =>
    intro number held
    rw [convert_int32_of_number? held]
    refine ⟨convert_int64_of_number? held, ?_, ofWhole32_eq_null_iff⟩
    rintro narrow rfl
    exact ofWhole32_toInt narrow
  case back =>
    intro narrow
    have held : (Value.int64 narrow.toInt64).number? = some narrow.toInt :=
      congrArg some narrow.toInt_toInt64
    calc ((Value.int32 narrow).convert .int64).convert .int32
        = (Value.int64 narrow.toInt64).convert .int32 := rfl
      _ = ofWhole32 narrow.toInt := convert_int32_of_number? held
      _ = .int32 narrow := ofWhole32_toInt narrow

/-- Three billion in an enumeration is more than 32 bits hold; seven is not. -/
theorem convert_ends_in_target_threeBillion :
    (Value.enumeration "Size" 3000000000).convert .int32 = .null
      ∧ (Value.enumeration "Size" 7).convert .int32 = .int32 7
      ∧ (Value.int32 7).Shows .int32
      ∧ (Value.int32 7).convert .int32 = .int32 7
      ∧ (Value.int32 7).convert .float32 ≠ .null
      ∧ Value.null.convert .string = .null := by
  obtain ⟨_, _, _, _, large, _⟩ :=
    convert_ends_in_target (.enumeration "Size" 3000000000) .int32
  obtain ⟨_, _, _, _, small, _⟩ := convert_ends_in_target (.enumeration "Size" 7) .int32
  obtain ⟨_, _, own, _, _, _, widened⟩ := convert_ends_in_target (.int32 7) .int32
  obtain ⟨_, absent, _⟩ := convert_ends_in_target .null .string
  have tooLarge : ∀ narrow : Int32, narrow.toInt ≠ 3000000000 := by
    intro narrow
    have below := narrow.toInt_lt
    omega
  have widening : (⟨.int32, .float32⟩ : Conversion) ∈ ConversionTable.widenings := by decide
  exact ⟨(large 3000000000 rfl).2.2.mpr tooLarge, (small 7 rfl).2.1 7 rfl, .single rfl,
    own (.single rfl), widened _ widening rfl, absent rfl⟩

end ClauseBinding.Value
