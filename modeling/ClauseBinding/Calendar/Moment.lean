import ClauseBinding.Calendar.Date

/-!
Contract: moments, written as local clock time at a fixed offset from universal time.

Owns:
- the fields of a moment and their ranges;
- the instant that a moment denotes, by which moments are ordered and equated.

Does not own: any text form.
-/

namespace ClauseBinding.Calendar

/-- Local time at an offset in seconds east of universal time. A fraction of a
billion nanoseconds or more lies in a leap second after the second it is counted in. -/
structure Moment where
  date : Date
  second : Fin 86400
  fraction : Fin 2000000000
  offset : Int
  offsetBound : offset.natAbs < 86400
deriving DecidableEq

namespace Moment

def hour (moment : Moment) : Nat := moment.second.val / 3600

def minute (moment : Moment) : Nat := moment.second.val / 60 % 60

def secondOfMinute (moment : Moment) : Nat := moment.second.val % 60

/-- The second of universal time, in a count from the first of March of year zero. -/
def universalSecond (moment : Moment) : Int :=
  moment.date.dayNumber * 86400 + moment.second.val - moment.offset

/-- Moments are ordered by the instant they denote, whatever their offsets. -/
def compare
    (left right : Moment) : Ordering :=
  (Ord.compare left.universalSecond right.universalSecond).then
    (Ord.compare left.fraction.val right.fraction.val)

def equal
    (left right : Moment) : Bool :=
  left.universalSecond == right.universalSecond && left.fraction == right.fraction

/-- The moment of clock fields, if each is in its range and the leap second, if
any, follows the last second of a minute. -/
def ofFields?
    (date : Date)
    (hour minute second fraction : Nat)
    (offset : Int) : Option Moment :=
  if bounds : hour < 24 ∧ minute < 60 ∧ second < 60 ∧ fraction < 2000000000
      ∧ offset.natAbs < 86400 then
    if 1000000000 ≤ fraction ∧ second ≠ 59 then none
    else
      some
        { date
          second := ⟨hour * 3600 + minute * 60 + second, by omega⟩
          fraction := ⟨fraction, bounds.2.2.2.1⟩
          offset
          offsetBound := bounds.2.2.2.2 }
  else none

/-- Whether the instant lies on a day of the calendar in universal time too. -/
def hasUniversalDate (moment : Moment) : Bool :=
  decide (Date.first.dayNumber * 86400 ≤ moment.universalSecond)
    && decide (moment.universalSecond < (Date.last.dayNumber + 1) * 86400)

end Moment

end ClauseBinding.Calendar
