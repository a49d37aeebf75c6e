import ClauseBinding.Interchange.Types
import ClauseBinding.Proofs.Interchange.Reading

/-!
Contract: data types and conversions are read however they are written.

Owns: their layouts, and that these are read and have the compact writing of the data.

Does not own: which conversions make sense.
-/

namespace ClauseBinding.Interchange

/-! ## Layouts -/

def typeLayout
    (data : Layout)
    (nullable : Bool) : Layout :=
  .record [("data_type", data), ("nullable", .truth nullable)]

def dataTypeLayout : DataType → Layout
  | .bool => .text "Bool"
  | .int32 => .text "Int32"
  | .int64 => .text "Int64"
  | .float32 => .text "Float32"
  | .float64 => .text "Float64"
  | .string => .text "String"
  | .date => .text "Date"
  | .moment => .text "DateTimeOffset"
  | .enumeration name => .table [("Enum", .text name)]
  | .structured name => .table [("Structured", .text name)]
  | .collection element nullable =>
      .table [("Collection", typeLayout (dataTypeLayout element) nullable)]
  | .null => .text "Null"

def valueTypeLayout (type : ValueType) : Layout :=
  typeLayout (dataTypeLayout type.data) type.nullable

def conversionLayout (conversion : Conversion) : Layout :=
  .record [("from", dataTypeLayout conversion.source), ("to", dataTypeLayout conversion.target)]

def conversionTableLayout (table : ConversionTable) : Layout :=
  .record [
    ("implicit", .list (table.implicit.map conversionLayout)),
    ("explicit", .list (table.explicit.map conversionLayout))]

/-! ## Compact writings -/

theorem dataTypeLayout_json (type : DataType) : (dataTypeLayout type).json = dataTypeJson type := by
  induction type with
  | collection element nullable elementWritten =>
      rw [dataTypeJson, ← elementWritten]
      rfl
  | _ => rfl

theorem valueTypeLayout_json (type : ValueType) :
    (valueTypeLayout type).json = valueTypeJson type := by
  rw [valueTypeJson, ← dataTypeLayout_json]
  rfl

private theorem conversionLayout_json (conversion : Conversion) :
    (conversionLayout conversion).json = conversionJson conversion := by
  rw [conversionJson, ← dataTypeLayout_json, ← dataTypeLayout_json]
  rfl

theorem conversionTableLayout_json (table : ConversionTable) :
    (conversionTableLayout table).json = conversionTableJson table := by
  have each : ∀ entries : List Conversion,
      (Layout.list (entries.map conversionLayout)).json = .array (entries.map conversionJson) :=
    fun entries => Layout.list_map_json fun entry _ => conversionLayout_json entry
  rw [conversionTableJson, ← each, ← each]
  rfl

/-! ## Reading -/

variable {limit : Nat}

private theorem reads_valueTypeOf
    {decoder : Decoder DataType}
    {data : DataType}
    (readsData : Reads limit decoder (dataTypeLayout data) data)
    (nullable : Bool) :
    Reads limit (valueTypeOf decoder) (typeLayout (dataTypeLayout data) nullable)
      ⟨data, nullable⟩ := by
  refine Reads.record rfl (by decide) ?_
  intro fields gives
  rw [gives.required (by simp) readsData, gives.required (by simp) (reads_truth nullable)]
  rfl

private theorem readsUnfolded_dataType (type : DataType) :
    ReadsUnfolded dataTypeStep (dataTypeLayout type) type := by
  apply ReadsUnfolded.of_step
  intro times
  induction type generalizing times with
  | collection element nullable elementRead =>
      have readsElement := ReadsUnfolded.of_step elementRead times
      exact reads_chosen ((reads_valueTypeOf readsElement nullable).map
        fun type => DataType.collection type.data type.nullable)
  | enumeration name => exact reads_chosen ((reads_string name).map DataType.enumeration)
  | structured name => exact reads_chosen ((reads_string name).map DataType.structured)
  | _ => exact reads_name rfl

theorem reads_dataType (type : DataType) : Reads limit dataType (dataTypeLayout type) type :=
  (readsUnfolded_dataType type).recursive limit

theorem reads_valueType (type : ValueType) : Reads limit valueType (valueTypeLayout type) type :=
  reads_valueTypeOf (reads_dataType type.data) type.nullable

private theorem reads_conversion (entry : Conversion) :
    Reads limit conversion (conversionLayout entry) entry := by
  refine Reads.record rfl (by decide) ?_
  intro fields gives
  rw [gives.required (by simp) (reads_dataType entry.source),
    gives.required (by simp) (reads_dataType entry.target)]
  rfl

theorem reads_conversionTable (conversions : ConversionTable) :
    Reads limit conversionTable (conversionTableLayout conversions) conversions := by
  have readsEach : ∀ entries : List Conversion,
      Reads limit (list conversion) (.list (entries.map conversionLayout)) entries :=
    fun entries => Reads.list fun entry _ => reads_conversion entry
  refine Reads.record rfl (by decide) ?_
  intro fields gives
  rw [gives.required (by simp) (readsEach conversions.implicit),
    gives.required (by simp) (readsEach conversions.explicit)]
  rfl

end ClauseBinding.Interchange
