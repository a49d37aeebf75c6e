import ClauseBinding.Data.Value
import ClauseBinding.Number.Binary

/-!
Contract: order and equality of values.

Owns:
- the order of two present values of one type, where the type has one;
- equality of any two values, records as maps and collections item by item.

Does not own: what a comparison with an absent value means to a clause.
-/

namespace ClauseBinding

open ClauseBinding.Calendar
open ClauseBinding.Number

namespace Value

/-- The order of two values of one type. There is none between values of
different types, with an absent value, with not-a-number, or between records or
collections. -/
def compare? : Value → Value → Option Ordering
  | .int32 left, .int32 right => some (compare left.toInt right.toInt)
  | .int64 left, .int64 right => some (compare left.toInt right.toInt)
  | .float32 left, .float32 right => Single.compare? left right
  | .float64 left, .float64 right => Double.compare? left right
  | .bool left, .bool right => some (compare left.toNat right.toNat)
  | .string left, .string right => some (compare left right)
  | .date left, .date right => some (left.compare right)
  | .moment left, .moment right => some (left.compare right)
  | .enumeration leftType left, .enumeration rightType right =>
      if leftType = rightType then some (compare left.toInt right.toInt) else none
  | _, _ => none

mutual

/-- Whether two values are equal. Numbers are equal by value, so not-a-number
differs from itself; moments are equal by instant. -/
def equal : Value → Value → Bool
  | .null, .null => true
  | .bool left, .bool right => left == right
  | .int32 left, .int32 right => left == right
  | .int64 left, .int64 right => left == right
  | .float32 left, .float32 right => Single.equal left right
  | .float64 left, .float64 right => Double.equal left right
  | .string left, .string right => left == right
  | .date left, .date right => left == right
  | .moment left, .moment right => left.equal right
  | .enumeration leftType left, .enumeration rightType right =>
      leftType == rightType && left == right
  | .record left, .record right => left.length == right.length && membersWithin left right
  | .collection left, .collection right => itemsEqual left right
  | _, _ => false
termination_by structural value => value

def itemsEqual : List Value → List Value → Bool
  | [], [] => true
  | left :: lefts, right :: rights => left.equal right && itemsEqual lefts rights
  | _, _ => false
termination_by structural items => items

/-- Whether every member has an equal member of its name in a record. -/
def membersWithin : List (String × Value) → Record → Bool
  | [], _ => true
  | (name, value) :: rest, other =>
      (match Table.find? other name with
        | some found => value.equal found
        | none => false)
        && membersWithin rest other
termination_by structural members => members

end

end Value

def Record.equal
    (left right : Record) : Bool :=
  (Value.record left).equal (.record right)

end ClauseBinding
