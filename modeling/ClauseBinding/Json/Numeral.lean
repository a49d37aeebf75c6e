import ClauseBinding.Number.Written

/-!
Contract: numbers in JSON.

Owns:
- a number as its digits are written;
- the whole number or the double that it is read as, and the digits written for either.

Does not own: the scanning of characters.

A number without fraction and exponent is read as a whole number when it fits 64
bits, signed or unsigned. All others are doubles: the leading digits that fit 64
unsigned bits, scaled by a power of ten, so the last binary digit may differ from
that of the nearest double.
-/

namespace ClauseBinding.Json

open ClauseBinding.Number

/-- The digits of a number. An empty fraction and a missing exponent are not written. -/
structure Numeral where
  negative : Bool
  whole : List Char
  fraction : List Char
  exponent : Option (Bool × List Char)
deriving DecidableEq

namespace Numeral

def digitValue (c : Char) : Nat :=
  c.toNat - 48

def natural (digits : List Char) : Nat :=
  digits.foldl (fun number c => 10 * number + digitValue c) 0

def chars (numeral : Numeral) : List Char :=
  (if numeral.negative then ['-'] else [])
    ++ numeral.whole
    ++ (if numeral.fraction.isEmpty then [] else '.' :: numeral.fraction)
    ++ (match numeral.exponent with
        | none => []
        | some (negative, digits) => 'e' :: ((if negative then ['-'] else []) ++ digits))

/-! ## Whole numbers -/

def ofInt (value : Int) : Numeral :=
  ⟨decide (value < 0), Nat.toDigits 10 value.natAbs, [], none⟩

/-- Whether a numeral is written as a whole number. -/
def isWhole (numeral : Numeral) : Bool :=
  numeral.fraction.isEmpty && numeral.exponent.isNone

/-- The whole number of a numeral; none for one that is read as a double. Zero
with a minus sign is. -/
def toInt? (numeral : Numeral) : Option Int :=
  let value := natural numeral.whole
  if !numeral.isWhole then none
  else if numeral.negative then
    if 0 < value ∧ value ≤ UInt64.size / 2 then some (-(value : Int)) else none
  else if value < UInt64.size then some value
  else none

/-! ## Doubles -/

/-- The numeral of a double; infinities and not-a-number have none. -/
def ofDouble? (x : Float) : Option Numeral :=
  match Double.reading x with
  | .finite number =>
      let parts := number.parts .double .data
      some
        { negative := number.negative
          whole := parts.whole
          fraction := parts.fraction
          exponent := parts.exponent.map fun exponent =>
            (decide (exponent < 0), Nat.toDigits 10 exponent.natAbs) }
  | _ => none

/-- Take up digits while the number they write fits 64 unsigned bits. Gives the
number and how many digits were taken. -/
def takeDigits
    (number taken : Nat) : List Char → Nat × Nat
  | [] => (number, taken)
  | c :: rest =>
      let next := 10 * number + digitValue c
      if next < UInt64.size then takeDigits next (taken + 1) rest else (number, taken)

/-- A power of ten from zero to 308. -/
def power (exponent : Nat) : Float :=
  Float.ofScientific 1 false exponent

/-- Scale by a power of ten. Below the range of powers the scaling is done in
steps; what becomes infinite has no double. -/
def scale?
    (x : Float)
    (exponent : Int) : Option Float :=
  if 0 ≤ exponent then
    if exponent ≤ 308 then
      let scaled := x * power exponent.toNat
      if scaled.isInf then none else some scaled
    else if x == 0.0 then some x
    else none
  else if -308 ≤ exponent then some (x / power (-exponent).toNat)
  else if x == 0.0 then some x
  else scale? (x / power 308) (exponent + 308)
termination_by exponent.natAbs
decreasing_by omega

/-- The exponent that a numeral is scaled by, given that of its digits. None
when the written exponent passes 31 bits. -/
def scaling?
    (base : Int)
    (exponent : Option (Bool × List Char)) : Option Int :=
  match exponent with
  | none => some base
  | some (negative, digits) =>
      let written := natural digits
      if Int32.maxValue.toInt < written then none
      else if negative then some (max Int32.minValue.toInt (base - written))
      else some (min Int32.maxValue.toInt (base + written))

/-- The double of the digits and exponent of a numeral, without its sign. -/
def unsignedDouble? (numeral : Numeral) : Option Float :=
  let (leading, taken) := takeDigits 0 0 numeral.whole
  let (number, places) := takeDigits leading 0 numeral.fraction
  let base : Int := ((numeral.whole.length - taken : Nat) : Int) - places
  match scaling? base numeral.exponent with
  | some exponent => scale? (UInt64.ofNat number).toFloat exponent
  | none =>
      match numeral.exponent with
      | some (false, _) => if number = 0 then some 0.0 else none
      | _ => some 0.0

/-- The double of a numeral; none for one that is out of range. -/
def toDouble? (numeral : Numeral) : Option Float :=
  match numeral.toInt? with
  | some value => if value < 0 then some (Int64.ofInt value).toFloat
      else some (UInt64.ofNat value.toNat).toFloat
  | none => numeral.unsignedDouble?.map fun x => if numeral.negative then -x else x

/-- The single of a numeral: a whole number is rounded once, all others are
doubles first. -/
def toSingle? (numeral : Numeral) : Option Float32 :=
  match numeral.toInt? with
  | some value => if value < 0 then some (Int64.ofInt value).toFloat32
      else some (UInt64.ofNat value.toNat).toFloat32
  | none => numeral.toDouble?.map Float.toFloat32

end Numeral

end ClauseBinding.Json
