import ClauseBinding.Number.Shortest

/-!
Contract: the texts of floating-point numbers.

Owns:
- the layout of a decimal, with a point or with an exponent;
- the three styles in use: plain text, the text inside messages, and data text.

Does not own: which digits are shortest.
-/

namespace ClauseBinding.Number

/-- How a shortest decimal is laid out. `point` positions count from the first
digit, so that `1` has position 1 and `0.01` has position -1. -/
structure Style where
  leastPoint : Option Int
  greatestPoint : Option Int
  keepsPoint : Bool
  tie : Tie
deriving DecidableEq, Repr

namespace Style

/-- Plain text never has an exponent, and whole numbers have no point. -/
def plain : Style := ⟨none, none, false, .up⟩

/-- Messages write an exponent below 0.0001 and from 10 ^ 16 on, and whole
numbers keep a point. -/
def message : Style := ⟨some (-3), some 16, true, .up⟩

/-- Data text writes an exponent below 0.00001 and from 10 ^ 16 on, and whole
numbers keep a point. -/
def data : Style := ⟨some (-4), some 16, true, .even⟩

/-- Whether a point position is written without an exponent. -/
def isPositional
    (style : Style)
    (point : Int) : Bool :=
  (style.leastPoint.all (decide <| · ≤ point)) && (style.greatestPoint.all (decide <| point ≤ ·))

structure Parts where
  whole : List Char
  fraction : List Char
  exponent : Option Int
deriving DecidableEq, Repr

def lay
    (style : Style)
    (decimal : Decimal) : Parts :=
  let digits := Nat.toDigits 10 decimal.digits
  let point := digits.length + decimal.exponent
  let pointZero := if style.keepsPoint then ['0'] else []
  if style.isPositional point then
    if point ≤ 0 then
      ⟨['0'], List.replicate (-point).toNat '0' ++ digits, none⟩
    else if digits.length ≤ point.toNat then
      ⟨digits ++ List.replicate (point.toNat - digits.length) '0', pointZero, none⟩
    else
      ⟨digits.take point.toNat, digits.drop point.toNat, none⟩
  else
    ⟨digits.take 1, digits.drop 1, some (point - 1)⟩

def zeroParts (style : Style) : Parts :=
  ⟨['0'], if style.keepsPoint then ['0'] else [], none⟩

end Style

def Style.Parts.text (parts : Style.Parts) : List Char :=
  parts.whole
    ++ (if parts.fraction.isEmpty then [] else '.' :: parts.fraction)
    ++ (match parts.exponent with
        | none => []
        | some exponent => 'e' :: (toString exponent).toList)

/-- Lay out a finite number of a layout, without its sign. -/
def Dyadic.parts
    (layout : Layout)
    (style : Style)
    (number : Dyadic) : Style.Parts :=
  if number.significand = 0 then style.zeroParts
  else style.lay (Decimal.shortest layout style.tie number.significand number.exponent)

/-- The text of a reading: infinities are `inf` and `-inf`, and not-a-number is `NaN`. -/
def Reading.text
    (layout : Layout)
    (style : Style)
    (reading : Reading) : String :=
  let signed (negative : Bool) (text : List Char) : String :=
    String.ofList (if negative then '-' :: text else text)
  match reading with
  | .notANumber => "NaN"
  | .infinite negative => signed negative ['i', 'n', 'f']
  | .finite number => signed number.negative (number.parts layout style).text

def Double.text
    (style : Style)
    (x : Float) : String :=
  (Double.reading x).text .double style

def Single.text
    (style : Style)
    (x : Float32) : String :=
  (Single.reading x).text .single style

end ClauseBinding.Number
