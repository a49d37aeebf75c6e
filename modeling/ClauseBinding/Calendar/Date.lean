/-!
Contract: days of the proleptic Gregorian calendar.

Owns:
- the valid dates, over the years -262143 to 262142;
- their number in a count of days, and their order.

Does not own: times of day, or any text form.
-/

namespace ClauseBinding.Calendar

def isLeapYear (year : Int) : Bool :=
  year % 4 == 0 && (year % 100 != 0 || year % 400 == 0)

/-- The number of days of a month; zero for what is no month. -/
def monthLength
    (year : Int)
    (month : Nat) : Nat :=
  match month with
  | 2 => if isLeapYear year then 29 else 28
  | 4 | 6 | 9 | 11 => 30
  | 1 | 3 | 5 | 7 | 8 | 10 | 12 => 31
  | _ => 0

def leastYear : Int := -262143

def greatestYear : Int := 262142

/-- Whether year, month and day name a date of the calendar. -/
def IsDate
    (year : Int)
    (month day : Nat) : Prop :=
  leastYear ≤ year ∧ year ≤ greatestYear ∧ 1 ≤ day ∧ day ≤ monthLength year month

instance
    (year : Int)
    (month day : Nat) : Decidable (IsDate year month day) := by
  unfold IsDate
  infer_instance

structure Date where
  year : Int
  month : Nat
  day : Nat
  isDate : IsDate year month day
deriving DecidableEq

namespace Date

def ofFields?
    (year : Int)
    (month day : Nat) : Option Date :=
  if isDate : IsDate year month day then some ⟨year, month, day, isDate⟩ else none

def first : Date := ⟨leastYear, 1, 1, by decide⟩

def last : Date := ⟨greatestYear, 12, 31, by decide⟩

def compare
    (left right : Date) : Ordering :=
  (Ord.compare left.year right.year).then
    ((Ord.compare left.month right.month).then (Ord.compare left.day right.day))

/-- Days that pass in the 400-year cycle before a year, the first of March of
year zero being day zero of the count. -/
def daysBeforeYear (year : Int) : Int :=
  365 * year + year / 4 - year / 100 + year / 400

/-- The number of a date in the count of days. Years begin in March here, which
puts the leap day last; month lengths from March on repeat every five months. -/
def dayNumber (date : Date) : Int :=
  let year := if date.month ≤ 2 then date.year - 1 else date.year
  let month : Int := if date.month ≤ 2 then date.month + 9 else (date.month : Int) - 3
  daysBeforeYear year + (153 * month + 2) / 5 + (date.day - 1)

end Date

end ClauseBinding.Calendar
