import ClauseBinding.Calendar.Moment
import ClauseBinding.Text.Blank

/-!
Contract: reading dates and moments from text.

Owns:
- the numbers, separators, fractions and offsets that dates and moments are made of;
- where blanks are allowed between them.

Does not own: which of the texts is written for a value.
-/

namespace ClauseBinding.Calendar

open ClauseBinding.Text

def digit? (c : Char) : Option Nat :=
  if c.isDigit then some (c.toNat - 48) else none

/-- A number of at least one digit; digits past `most` are left over. -/
def readNumber
    (most : Nat)
    (text : List Char) : Option (Nat × List Char) :=
  let digits := (text.take most).takeWhile Char.isDigit
  if digits.isEmpty then none
  else
    some (digits.foldl (fun number c => 10 * number + (c.toNat - 48)) 0, text.drop digits.length)

/-- A number of one or two digits after blanks. -/
def readField (text : List Char) : Option (Nat × List Char) :=
  readNumber 2 (trimLeft text)

/-- A year after blanks: up to four digits, or any number of digits after a sign. -/
def readYear (text : List Char) : Option (Int × List Char) :=
  match trimLeft text with
  | '-' :: rest => (readNumber rest.length rest).map fun (year, rest) => (-(year : Int), rest)
  | '+' :: rest => (readNumber rest.length rest).map fun (year, rest) => ((year : Int), rest)
  | rest => (readNumber 4 rest).map fun (year, rest) => ((year : Int), rest)

def readSeparator
    (separator : Char)
    (text : List Char) : Option (List Char) :=
  match trimLeft text with
  | c :: rest => if c = separator then some rest else none
  | [] => none

def readDate (text : List Char) : Option (Date × List Char) := do
  let (year, text) ← readYear text
  let text ← readSeparator '-' text
  let (month, text) ← readField text
  let text ← readSeparator '-' text
  let (day, text) ← readField text
  let date ← Date.ofFields? year month day
  pure (date, text)

/-- The fraction of a second after a point; digits past the ninth are dropped. -/
def readFraction (text : List Char) : Option (Nat × List Char) :=
  match text with
  | '.' :: rest => do
      let (digits, left) ← readNumber 9 rest
      pure (digits * Nat.pow 10 (9 - (rest.length - left.length)), left.dropWhile Char.isDigit)
  | _ => some (0, text)

/-- Two digits, the first of them at most `most`. -/
def readPair
    (most : Nat)
    (text : List Char) : Option (Nat × List Char) :=
  match text with
  | first :: second :: rest => do
      let tens ← digit? first
      let ones ← digit? second
      if tens ≤ most then pure (10 * tens + ones, rest) else none
  | _ => none

/-- An offset with a sign, in hours and minutes; colons and blanks may stand between them. -/
def readSignedOffset (text : List Char) : Option (Int × List Char) := do
  let (negative, text) ←
    match text with
    | '+' :: rest => some (false, rest)
    | '-' :: rest => some (true, rest)
    | '\u2212' :: rest => some (true, rest)
    | _ => none
  let (hours, text) ← readPair 9 text
  let (minutes, text) ← readPair 5 (text.dropWhile fun c => c == ':' || isBlank c)
  let seconds : Int := hours * 3600 + minutes * 60
  pure (if negative then -seconds else seconds, text)

/-- An offset: `UTC` in any case, `Z` in any case, or signed hours and minutes. -/
def readOffset (text : List Char) : Option (Int × List Char) :=
  match text with
  | u :: t :: c :: rest =>
      if [u, t, c].map Char.toUpper = ['U', 'T', 'C'] then some (0, rest)
      else if u = 'Z' ∨ u = 'z' then some (0, t :: c :: rest)
      else readSignedOffset text
  | z :: rest => if z = 'Z' ∨ z = 'z' then some (0, rest) else none
  | [] => none

def Date.ofText? (text : String) : Option Date := do
  let (date, rest) ← readDate text.toList
  if (trimLeft rest).isEmpty then pure date else none

/-- Read a whole text as a moment: date, `T` or a blank, clock time, offset. A
second 60 is the leap second after second 59. -/
def Moment.ofText? (text : String) : Option Moment := do
  let (date, text) ← readDate text.toList
  let text ←
    match text with
    | 'T' :: rest => some rest
    | 't' :: rest => some rest
    | ' ' :: rest => some rest
    | _ => none
  let (hour, text) ← readField text
  let text ← readSeparator ':' text
  let (minute, text) ← readField text
  let text ← readSeparator ':' text
  let (second, text) ← readField text
  let (fraction, text) ← readFraction text
  let (offset, text) ← readOffset (trimLeft text)
  let moment ←
    if second = 60 then Moment.ofFields? date hour minute 59 (fraction + 1000000000) offset
    else Moment.ofFields? date hour minute second fraction offset
  if moment.hasUniversalDate && (trimLeft text).isEmpty then pure moment else none

end ClauseBinding.Calendar
