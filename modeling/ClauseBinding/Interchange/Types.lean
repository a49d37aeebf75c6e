import ClauseBinding.Interchange.Decoding
import ClauseBinding.Schema.Conversion

/-!
Contract: data types and conversions in JSON.

Owns: the names and fields that stand for them, written and decoded.

Does not own: the rules of records and choices.
-/

namespace ClauseBinding.Interchange

/-! ## Types -/

def valueTypeOf (data : Decoder DataType) : Decoder ValueType := fun levels value => do
  let fields ← fields ["data_type", "nullable"] levels value
  let data ← fields.required "data_type" data
  let nullable ← fields.required "nullable" truth
  pure ⟨data, nullable⟩

/-- Data types, given how the data types inside them are decoded. -/
def dataTypeStep (inner : Decoder DataType) : Decoder DataType := fun levels value => do
  let choice ← choice levels value
  match choice.name with
  | "Bool" => choice.unit .bool
  | "Int32" => choice.unit .int32
  | "Int64" => choice.unit .int64
  | "Float32" => choice.unit .float32
  | "Float64" => choice.unit .float64
  | "String" => choice.unit .string
  | "Date" => choice.unit .date
  | "DateTimeOffset" => choice.unit .moment
  | "Enum" => (choice.holding string).map .enumeration
  | "Structured" => (choice.holding string).map .structured
  | "Collection" =>
      (choice.holding (valueTypeOf inner)).map fun element =>
        .collection element.data element.nullable
  | "Null" => choice.unit .null
  | _ => none

def dataType : Decoder DataType := recursive dataTypeStep

/-- Types with nullability. -/
def valueType : Decoder ValueType := valueTypeOf dataType

def typeMembers
    (data : Json)
    (nullable : Bool) : Json :=
  .ofMembers [("data_type", data), ("nullable", .truth nullable)]

def dataTypeJson : DataType → Json
  | .bool => .ofText "Bool"
  | .int32 => .ofText "Int32"
  | .int64 => .ofText "Int64"
  | .float32 => .ofText "Float32"
  | .float64 => .ofText "Float64"
  | .string => .ofText "String"
  | .date => .ofText "Date"
  | .moment => .ofText "DateTimeOffset"
  | .enumeration name => chosen "Enum" (.ofText name)
  | .structured name => chosen "Structured" (.ofText name)
  | .collection element nullable =>
      chosen "Collection" (typeMembers (dataTypeJson element) nullable)
  | .null => .ofText "Null"

def valueTypeJson (type : ValueType) : Json :=
  typeMembers (dataTypeJson type.data) type.nullable

/-! ## Conversions -/

def conversion : Decoder Conversion := fun levels value => do
  let fields ← fields ["from", "to"] levels value
  let source ← fields.required "from" dataType
  let target ← fields.required "to" dataType
  pure ⟨source, target⟩

def conversionTable : Decoder ConversionTable := fun levels value => do
  let fields ← fields ["implicit", "explicit"] levels value
  let implicit ← fields.required "implicit" (list conversion)
  let explicit ← fields.required "explicit" (list conversion)
  pure ⟨implicit, explicit⟩

def conversionJson (conversion : Conversion) : Json :=
  .ofMembers [("from", dataTypeJson conversion.source), ("to", dataTypeJson conversion.target)]

def conversionTableJson (table : ConversionTable) : Json :=
  .ofMembers [
    ("implicit", .array (table.implicit.map conversionJson)),
    ("explicit", .array (table.explicit.map conversionJson))]

end ClauseBinding.Interchange
