import ClauseBinding.Calendar.Written
import ClauseBinding.Data.Value
import ClauseBinding.Number.Written

/-!
Contract: the conversion of a value to a data type.

Owns: which values convert, what they become, and that all others become absent.

Does not own: which conversions a clause may ask for.
-/

namespace ClauseBinding.Value

open ClauseBinding.Number

/-- A whole number in 32 bits, absent when it does not fit. -/
def ofWhole32 (value : Int) : Value :=
  if Int32.minValue.toInt ≤ value ∧ value ≤ Int32.maxValue.toInt then .int32 (Int32.ofInt value)
  else .null

def ofWhole64 (value : Int) : Value :=
  if Int64.minValue.toInt ≤ value ∧ value ≤ Int64.maxValue.toInt then .int64 (Int64.ofInt value)
  else .null

/-- The plain text of a value; there is none for absent values, enumerations,
records and collections. -/
def plainText? : Value → Option String
  | .bool value => some (toString value)
  | .int32 value => some (toString value.toInt)
  | .int64 value => some (toString value.toInt)
  | .float32 value => some (Single.text .plain value)
  | .float64 value => some (Double.text .plain value)
  | .string value => some value
  | .date value => some value.text
  | .moment value => some value.text
  | .null | .enumeration _ _ | .record _ | .collection _ => none

/-- The result of a conversion to a type that is not the value's own. -/
def convertAcross : Value → DataType → Value
  | .int32 value, .int64 => .int64 value.toInt64
  | .int32 value, .float32 => .float32 value.toInt64.toFloat32
  | .int32 value, .float64 => .float64 value.toInt64.toFloat
  | .int64 value, .int32 => ofWhole32 value.toInt
  | .int64 value, .float32 => .float32 value.toFloat32
  | .int64 value, .float64 => .float64 value.toFloat
  | .float32 value, .float64 => .float64 value.toFloat
  | .float32 value, .int32 => ((Single.truncate? value).map ofWhole32).getD .null
  | .float32 value, .int64 => ((Single.truncate? value).map ofWhole64).getD .null
  | .float64 value, .int32 => ((Double.truncate? value).map ofWhole32).getD .null
  | .float64 value, .int64 => ((Double.truncate? value).map ofWhole64).getD .null
  | .float64 value, .float32 => .float32 value.toFloat32
  | .moment value, .date => .date value.date
  | .enumeration _ value, .int64 => .int64 value
  | .enumeration _ value, .int32 => ofWhole32 value.toInt
  | .record members, .structured _ => .record members
  | .collection items, .collection _ _ => .collection items
  | value, .string => (value.plainText?.map Value.string).getD .null
  | _, _ => .null

/-- Convert a value to a data type. A value of that type stays as it is; one that
does not fit, or does not convert, becomes absent. Records and collections keep
to the structured and collection types, whose names they do not carry. -/
def convert
    (value : Value)
    (target : DataType) : Value :=
  if value.dataType? = some target then value else convertAcross value target

end ClauseBinding.Value
