import ClauseBinding.Calendar.Moment
import ClauseBinding.Data.DataType
import ClauseBinding.Data.Table

/-!
Contract: the values that clauses compute with.

Owns:
- values, and records of named values;
- reading a record, where a missing member is an absent value;
- the type that a value shows by itself.

Does not own: order, equality or conversion of values.
-/

namespace ClauseBinding

open ClauseBinding.Calendar

/-- A value. `null` is an absent value; an enumeration value carries the number
that stands for it; the members of a record have distinct names. -/
inductive Value where
  | null
  | bool (value : Bool)
  | int32 (value : Int32)
  | int64 (value : Int64)
  | float32 (value : Float32)
  | float64 (value : Float)
  | string (value : String)
  | date (value : Date)
  | moment (value : Moment)
  | enumeration (typeName : String) (value : Int64)
  | record (members : List (String × Value))
  | collection (items : List Value)

instance : Inhabited Value := ⟨.null⟩

abbrev Record := Table Value

/-- Read a member; one that is missing is absent. -/
def Record.read
    (record : Record)
    (member : String) : Value :=
  (Table.find? record member).getD .null

namespace Value

def isNull : Value → Bool
  | .null => true
  | _ => false

def isTrue : Value → Bool
  | .bool true => true
  | _ => false

/-- The whole number a value holds or stands for. -/
def toInt64? : Value → Option Int64
  | .int32 value => some value.toInt64
  | .int64 value => some value
  | .enumeration _ value => some value
  | _ => none

/-- The type that a value shows by itself. Absent values, records and
collections have a type only through a schema. -/
def dataType? : Value → Option DataType
  | .bool _ => some .bool
  | .int32 _ => some .int32
  | .int64 _ => some .int64
  | .float32 _ => some .float32
  | .float64 _ => some .float64
  | .string _ => some .string
  | .date _ => some .date
  | .moment _ => some .moment
  | .enumeration typeName _ => some (.enumeration typeName)
  | .null | .record _ | .collection _ => none

end Value

end ClauseBinding
