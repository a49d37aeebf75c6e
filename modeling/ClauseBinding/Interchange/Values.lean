import ClauseBinding.Calendar.Read
import ClauseBinding.Calendar.Written
import ClauseBinding.Data.Value
import ClauseBinding.Interchange.Decoding

/-!
Contract: values in JSON.

Owns:
- the name of each kind of value and what it holds, written and decoded;
- the forms of numbers, dates and moments inside values.

Does not own: the texts of dates and moments.
-/

namespace ClauseBinding.Interchange

open ClauseBinding.Calendar
open ClauseBinding.Json (Numeral)

def double : Decoder Float := fun _ value =>
  match value with
  | .number numeral => numeral.toDouble?
  | _ => none

def single : Decoder Float32 := fun _ value =>
  match value with
  | .number numeral => numeral.toSingle?
  | _ => none

def date : Decoder Date := fun levels value =>
  (string levels value).bind Date.ofText?

def moment : Decoder Moment := fun levels value =>
  (string levels value).bind Moment.ofText?

def enumerationValue : Decoder Value := fun levels value => do
  let fields ← fields ["type_name", "value"] levels value
  let typeName ← fields.required "type_name" string
  let number ← fields.required "value" int64
  pure (.enumeration typeName number)

def recordOf (inner : Decoder Value) : Decoder Record := fun levels value => do
  let fields ← fields ["members"] levels value
  fields.required "members" (table inner)

/-- Values, given how the values inside them are decoded. -/
def valueStep (inner : Decoder Value) : Decoder Value := fun levels value => do
  let choice ← choice levels value
  match choice.name with
  | "Null" => choice.unit .null
  | "Bool" => (choice.holding truth).map .bool
  | "Int32" => (choice.holding int32).map .int32
  | "Int64" => (choice.holding int64).map .int64
  | "Float32" => (choice.holding single).map .float32
  | "Float64" => (choice.holding double).map .float64
  | "String" => (choice.holding string).map .string
  | "Date" => (choice.holding date).map .date
  | "DateTimeOffset" => (choice.holding moment).map .moment
  | "Enum" => choice.holding enumerationValue
  | "Element" => (choice.holding (recordOf inner)).map .record
  | "Collection" => (choice.holding (list inner)).map .collection
  | _ => none

def value : Decoder Value := recursive valueStep

/-- A double; null for infinities and not-a-number. -/
def doubleJson (x : Float) : Json :=
  match Numeral.ofDouble? x with
  | some numeral => .number numeral
  | none => .null

mutual

/-- A value. Singles are written with the digits of the equal double. -/
def valueJson : Value → Json
  | .null => .ofText "Null"
  | .bool value => chosen "Bool" (.truth value)
  | .int32 value => chosen "Int32" (.ofInt value.toInt)
  | .int64 value => chosen "Int64" (.ofInt value.toInt)
  | .float32 value => chosen "Float32" (doubleJson value.toFloat)
  | .float64 value => chosen "Float64" (doubleJson value)
  | .string value => chosen "String" (.ofText value)
  | .date value => chosen "Date" (.ofText value.text)
  | .moment value => chosen "DateTimeOffset" (.ofText value.dataText)
  | .enumeration typeName value =>
      chosen "Enum"
        (.ofMembers [("type_name", .ofText typeName), ("value", .ofInt value.toInt)])
  | .record members =>
      chosen "Element" (.ofMembers [("members", .object (valueMembers members))])
  | .collection items => chosen "Collection" (.array (valueItems items))
termination_by structural value => value

def valueItems : List Value → List Json
  | [] => []
  | item :: rest => valueJson item :: valueItems rest
termination_by structural items => items

def valueMembers : List (String × Value) → List (Option String × Json)
  | [] => []
  | (name, value) :: rest => (some name, valueJson value) :: valueMembers rest
termination_by structural members => members

end

end ClauseBinding.Interchange
