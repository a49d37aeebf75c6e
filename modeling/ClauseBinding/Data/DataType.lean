/-!
Contract: the types that clauses, schemas and typed expressions speak of.

Owns:
- data types, and data types together with whether a value may be absent;
- their classes (numeric, integral, primitive, orderable) and their names.

Does not own: conversions between types, or values.
-/

namespace ClauseBinding

/-- A data type. Enumerations and structured types are known by name; a
collection has elements of one type, which may be absent or not. `null` is the
type of an absent literal that says nothing of its type. -/
inductive DataType where
  | bool
  | int32
  | int64
  | float32
  | float64
  | string
  | date
  | moment
  | enumeration (name : String)
  | structured (name : String)
  | collection (element : DataType) (nullable : Bool)
  | null
deriving DecidableEq

/-- A data type together with whether the value may be absent. -/
structure ValueType where
  data : DataType
  nullable : Bool
deriving DecidableEq

namespace DataType

def isNumeric : DataType → Bool
  | .int32 | .int64 | .float32 | .float64 => true
  | _ => false

def isIntegral : DataType → Bool
  | .int32 | .int64 => true
  | _ => false

/-- Types whose values are single and known without a schema. -/
def isPrimitive : DataType → Bool
  | .bool | .int32 | .int64 | .float32 | .float64 | .string | .date | .moment => true
  | _ => false

def isEnumeration : DataType → Bool
  | .enumeration _ => true
  | _ => false

/-- Types whose values serve as sort keys. -/
def isOrderable (type : DataType) : Bool :=
  type.isPrimitive || type.isEnumeration

def element? : DataType → Option ValueType
  | .collection element nullable => some ⟨element, nullable⟩
  | _ => none

/-- Collections of elements that are never absent. -/
def collectionOf (element : DataType) : DataType :=
  .collection element false

end DataType

namespace ValueType

def required (data : DataType) : ValueType := ⟨data, false⟩

def optional (data : DataType) : ValueType := ⟨data, true⟩

/-- The type of an absent literal that says nothing of its type. -/
def null : ValueType := optional .null

def asOptional (type : ValueType) : ValueType := { type with nullable := true }

/-- Whether the data type says nothing. -/
def isNull (type : ValueType) : Bool := type.data == .null

end ValueType

/-- The name of a data type. Elements that may be absent carry a question mark. -/
def DataType.name : DataType → String
  | .bool => "Bool"
  | .int32 => "Int32"
  | .int64 => "Int64"
  | .float32 => "Float32"
  | .float64 => "Float64"
  | .string => "String"
  | .date => "Date"
  | .moment => "DateTimeOffset"
  | .enumeration name => name
  | .structured name => name
  | .collection element nullable =>
      "Collection(" ++ element.name ++ (if nullable && element != .null then "?" else "") ++ ")"
  | .null => "Null"

/-- The name of a type; a question mark says that the value may be absent. -/
def ValueType.name (type : ValueType) : String :=
  type.data.name ++ (if type.nullable && !type.isNull then "?" else "")

end ClauseBinding
