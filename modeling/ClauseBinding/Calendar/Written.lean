import ClauseBinding.Calendar.Moment

/-!
Contract: the texts of dates and moments.

Owns:
- dates as year, month and day, with a signed year outside 0 to 9999;
- moments with a fraction of three, six or nine digits when there is one;
- the three ways an offset is written.

Does not own: reading these texts back.
-/

namespace ClauseBinding.Calendar

/-- A number with zeros in front up to a width. -/
def padded
    (width number : Nat) : List Char :=
  let digits := Nat.toDigits 10 number
  List.replicate (width - digits.length) '0' ++ digits

/-- A year has four digits; outside 0 to 9999 it has a sign too. -/
def yearText (year : Int) : List Char :=
  if 0 ≤ year ∧ year ≤ 9999 then padded 4 year.toNat
  else (if year < 0 then '-' else '+') :: padded 4 year.natAbs

namespace Date

def chars (date : Date) : List Char :=
  yearText date.year ++ '-' :: padded 2 date.month ++ '-' :: padded 2 date.day

def text (date : Date) : String :=
  String.ofList date.chars

end Date

/-- A fraction of a second, in the fewest groups of three digits that hold it. -/
def fractionText (nanoseconds : Nat) : List Char :=
  if nanoseconds = 0 then []
  else if nanoseconds % 1000000 = 0 then '.' :: padded 3 (nanoseconds / 1000000)
  else if nanoseconds % 1000 = 0 then '.' :: padded 6 (nanoseconds / 1000)
  else '.' :: padded 9 nanoseconds

/-- The sign of an offset; zero is east. -/
def offsetSign (offset : Int) : Char :=
  if offset < 0 then '-' else '+'

/-- An offset to the nearest minute. -/
def offsetInMinutes (offset : Int) : List Char :=
  let minutes := (offset.natAbs + 30) / 60
  offsetSign offset :: padded 2 (minutes / 60) ++ ':' :: padded 2 (minutes % 60)

/-- An offset to the nearest minute, with `Z` for none. -/
def offsetOrZulu (offset : Int) : List Char :=
  if offset = 0 then ['Z'] else offsetInMinutes offset

/-- An offset to the second, which is left out when it is zero. -/
def offsetInSeconds (offset : Int) : List Char :=
  let seconds := offset.natAbs
  offsetSign offset :: padded 2 (seconds / 3600) ++ ':' :: padded 2 (seconds / 60 % 60)
    ++ (if seconds % 60 = 0 then [] else ':' :: padded 2 (seconds % 60))

namespace Moment

/-- Date and local time; a leap second is written as second 60. -/
def localText (moment : Moment) : List Char :=
  let leap := 1000000000 ≤ moment.fraction.val
  let second := if leap then moment.secondOfMinute + 1 else moment.secondOfMinute
  let fraction := if leap then moment.fraction.val - 1000000000 else moment.fraction.val
  moment.date.chars ++ 'T' :: padded 2 moment.hour ++ ':' :: padded 2 moment.minute
    ++ ':' :: padded 2 second ++ fractionText fraction

def text (moment : Moment) : String :=
  String.ofList (moment.localText ++ offsetInMinutes moment.offset)

def dataText (moment : Moment) : String :=
  String.ofList (moment.localText ++ offsetOrZulu moment.offset)

def messageText (moment : Moment) : String :=
  String.ofList (moment.localText ++ offsetInSeconds moment.offset)

end Moment

end ClauseBinding.Calendar
