import ClauseBinding.Calendar.Written
import ClauseBinding.Data.Value
import ClauseBinding.Number.Written
import ClauseBinding.Text.Quoted

/-!
Contract: how messages show values.

Owns: the text of a value, of a list of values and of a record inside a message.

Does not own: the messages.
-/

namespace ClauseBinding.Value

open ClauseBinding.Number
open ClauseBinding.Text

mutual

/-- The text of a value inside a message: its kind, and in brackets what it holds. -/
def messageText : Value → String
  | .null => "Null"
  | .bool value => "Bool(" ++ toString value ++ ")"
  | .int32 value => "Int32(" ++ toString value.toInt ++ ")"
  | .int64 value => "Int64(" ++ toString value.toInt ++ ")"
  | .float32 value => "Float32(" ++ Single.text .message value ++ ")"
  | .float64 value => "Float64(" ++ Double.text .message value ++ ")"
  | .string value => "String(" ++ quoted value ++ ")"
  | .date value => "Date(" ++ value.text ++ ")"
  | .moment value => "DateTimeOffset(" ++ value.messageText ++ ")"
  | .enumeration typeName value =>
      "Enum \x7b type_name: " ++ quoted typeName ++ ", value: " ++ toString value.toInt ++ " \x7d"
  | .record members =>
      "Element(Element \x7b members: \x7b" ++ ", ".intercalate (memberTexts members) ++ "\x7d \x7d)"
  | .collection items => "Collection([" ++ ", ".intercalate (itemTexts items) ++ "])"
termination_by structural value => value

def itemTexts : List Value → List String
  | [] => []
  | item :: rest => messageText item :: itemTexts rest
termination_by structural items => items

def memberTexts : List (String × Value) → List String
  | [] => []
  | (name, value) :: rest => (quoted name ++ ": " ++ messageText value) :: memberTexts rest
termination_by structural members => members

end

def listText (values : List Value) : String :=
  "[" ++ ", ".intercalate (itemTexts values) ++ "]"

end ClauseBinding.Value
