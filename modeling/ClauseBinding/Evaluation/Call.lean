import ClauseBinding.Failure
import ClauseBinding.Number.Binary
import ClauseBinding.Text.Blank
import ClauseBinding.Text.Case
import ClauseBinding.Text.Search

/-!
Contract: what the functions compute.

Owns: each function on present arguments of the types of one of its overloads.

Does not own: absent arguments, and the choice of an overload.
-/

namespace ClauseBinding

open ClauseBinding.Number
open ClauseBinding.Text

def Value.ofLength (length : Nat) : Except Failure Value :=
  if length ≤ Int32.maxValue.toInt.toNat then .ok (.int32 (Int32.ofNat length))
  else .error (.evaluation (.lengthTooLarge length))

/-- A part of a date or of a clock, which always fits. -/
def Value.ofPart (part : Int) : Value :=
  .int32 (Int32.ofInt part)

namespace Function

def apply
    (function : Function)
    (arguments : List Value) : Except Failure Value :=
  match function, arguments with
  | .contains, [.string text, .string pattern] =>
      .ok (.bool (occursIn pattern.toList text.toList))
  | .startsWith, [.string text, .string pattern] =>
      .ok (.bool (pattern.toList.isPrefixOf text.toList))
  | .endsWith, [.string text, .string pattern] =>
      .ok (.bool (pattern.toList.isSuffixOf text.toList))
  | .length, [.string text] => Value.ofLength text.toList.length
  | .indexOf, [.string text, .string pattern] =>
      match position? pattern.toList text.toList with
      | some position => Value.ofLength position
      | none => .ok (.int32 (-1))
  | .substring, [.string text, .int32 start] =>
      .ok (.string (String.ofList (partFrom start.toInt text.toList)))
  | .substring, [.string text, .int32 start, .int32 count] =>
      .ok (.string (String.ofList (part start.toInt count.toInt text.toList)))
  | .toLower, [.string text] => .ok (.string (String.ofList (lower text.toList)))
  | .toUpper, [.string text] => .ok (.string (String.ofList (upper text.toList)))
  | .trim, [.string text] => .ok (.string (String.ofList (Text.trim text.toList)))
  | .concat, [.string left, .string right] => .ok (.string (left ++ right))
  | .year, [.date value] => .ok (Value.ofPart value.year)
  | .year, [.moment value] => .ok (Value.ofPart value.date.year)
  | .month, [.date value] => .ok (Value.ofPart value.month)
  | .month, [.moment value] => .ok (Value.ofPart value.date.month)
  | .day, [.date value] => .ok (Value.ofPart value.day)
  | .day, [.moment value] => .ok (Value.ofPart value.date.day)
  | .hour, [.moment value] => .ok (Value.ofPart value.hour)
  | .minute, [.moment value] => .ok (Value.ofPart value.minute)
  | .second, [.moment value] => .ok (Value.ofPart value.secondOfMinute)
  | .date, [.moment value] => .ok (.date value.date)
  | .round, [.float64 value] => .ok (.float64 (Double.mapFinite Dyadic.roundEven value))
  | .round, [.float32 value] => .ok (.float32 (Single.mapFinite Dyadic.roundEven value))
  | .floor, [.float64 value] => .ok (.float64 (Double.mapFinite Dyadic.floor value))
  | .floor, [.float32 value] => .ok (.float32 (Single.mapFinite Dyadic.floor value))
  | .ceiling, [.float64 value] => .ok (.float64 (Double.mapFinite Dyadic.ceiling value))
  | .ceiling, [.float32 value] => .ok (.float32 (Single.mapFinite Dyadic.ceiling value))
  | function, arguments => .error (.evaluation (.notAccepted function arguments))

end Function

end ClauseBinding
