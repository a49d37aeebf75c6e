/-!
Contract: exact reading and writing of binary floating-point patterns.

Owns:
- the layout of a binary interchange format and the number that a pattern of it stands for;
- the numeric order of patterns, in which not-a-number has no place;
- truncation, rounding to whole numbers and the exact remainder.

Does not own: rounded arithmetic, which is that of `Float` and `Float32`, or any
text form.
-/

namespace ClauseBinding.Number

/-- Field widths of a binary interchange format: stored significand digits and exponent digits. -/
structure Layout where
  fractionBits : Nat
  exponentBits : Nat
deriving DecidableEq, Repr

/-- A finite binary number, `±significand · 2 ^ exponent`. The sign is kept for zero too. -/
structure Dyadic where
  negative : Bool
  significand : Nat
  exponent : Int
deriving DecidableEq, Repr

/-- What a pattern stands for. -/
inductive Reading where
  | notANumber
  | infinite (negative : Bool)
  | finite (number : Dyadic)
deriving DecidableEq, Repr

namespace Layout

/-- The layout of `Float32`. -/
def single : Layout := ⟨23, 8⟩

/-- The layout of `Float`. -/
def double : Layout := ⟨52, 11⟩

/-- The weight of the sign digit: patterns from here on are negative. -/
def signWeight (layout : Layout) : Nat :=
  Nat.pow 2 (layout.fractionBits + layout.exponentBits)

/-- The exponent of the last significand digit of the smallest numbers. -/
def leastExponent (layout : Layout) : Int :=
  2 - (Nat.pow 2 (layout.exponentBits - 1) : Int) - (layout.fractionBits : Int)

def isNegative
    (layout : Layout)
    (pattern : Nat) : Bool :=
  decide (layout.signWeight ≤ pattern)

def magnitude
    (layout : Layout)
    (pattern : Nat) : Nat :=
  pattern % layout.signWeight

/-- The magnitude of an infinity; greater magnitudes are no numbers. -/
def infinity (layout : Layout) : Nat :=
  (Nat.pow 2 layout.exponentBits - 1) * Nat.pow 2 layout.fractionBits

/-- Read a pattern. The lowest exponent field has no hidden leading digit. -/
def read
    (layout : Layout)
    (pattern : Nat) : Reading :=
  let magnitude := layout.magnitude pattern
  let negative := layout.isNegative pattern
  if layout.infinity < magnitude then .notANumber
  else if magnitude = layout.infinity then .infinite negative
  else
    let field := magnitude / Nat.pow 2 layout.fractionBits
    let fraction := magnitude % Nat.pow 2 layout.fractionBits
    if field = 0 then .finite ⟨negative, fraction, layout.leastExponent⟩
    else
      .finite
        ⟨negative, fraction + Nat.pow 2 layout.fractionBits,
          layout.leastExponent + (field - 1 : Nat)⟩

/-- The pattern of a number that the layout represents exactly. -/
def write
    (layout : Layout)
    (number : Dyadic) : Nat :=
  let sign := if number.negative then layout.signWeight else 0
  if number.significand = 0 then sign
  else
    let digits : Int := number.significand.log2 + 1
    let exponent := max layout.leastExponent (number.exponent + digits - (layout.fractionBits + 1))
    let significand :=
      if exponent ≤ number.exponent then
        number.significand * Nat.pow 2 (number.exponent - exponent).toNat
      else
        number.significand / Nat.pow 2 (exponent - number.exponent).toNat
    if significand < Nat.pow 2 layout.fractionBits then sign + significand
    else
      sign
        + ((exponent - layout.leastExponent).toNat * Nat.pow 2 layout.fractionBits + significand)

/-- The place of a pattern in numeric order. The two zeros share a place and
not-a-number has none. -/
def place?
    (layout : Layout)
    (pattern : Nat) : Option Int :=
  let magnitude := layout.magnitude pattern
  if layout.infinity < magnitude then none
  else if layout.isNegative pattern then some (-(magnitude : Int))
  else some magnitude

end Layout

namespace Dyadic

/-- The whole part of a magnitude and what is left of it, as numerator over a power of two. -/
def split (number : Dyadic) : Nat × Nat × Nat :=
  if 0 ≤ number.exponent then
    (number.significand * Nat.pow 2 number.exponent.toNat, 0, 1)
  else
    let unit := Nat.pow 2 (-number.exponent).toNat
    (number.significand / unit, number.significand % unit, unit)

def truncate (number : Dyadic) : Int :=
  let whole : Int := number.split.1
  if number.negative then -whole else whole

/-- A whole number with the sign of the number it was rounded from. -/
def withWhole
    (number : Dyadic)
    (whole : Nat) : Dyadic :=
  ⟨number.negative, whole, 0⟩

def floor (number : Dyadic) : Dyadic :=
  let (whole, rest, _) := number.split
  number.withWhole (if number.negative && rest != 0 then whole + 1 else whole)

def ceiling (number : Dyadic) : Dyadic :=
  let (whole, rest, _) := number.split
  number.withWhole (if !number.negative && rest != 0 then whole + 1 else whole)

/-- The nearest whole number, the even one of two. -/
def roundEven (number : Dyadic) : Dyadic :=
  let (whole, rest, unit) := number.split
  let up := if 2 * rest = unit then whole % 2 = 1 else unit < 2 * rest
  number.withWhole (if up then whole + 1 else whole)

/-- The remainder of truncated division by a number that is not zero; it has the
sign of the dividend. -/
def remainder
    (dividend divisor : Dyadic) : Dyadic :=
  let exponent := min dividend.exponent divisor.exponent
  let scaled (number : Dyadic) : Nat :=
    number.significand * Nat.pow 2 (number.exponent - exponent).toNat
  ⟨dividend.negative, scaled dividend % scaled divisor, exponent⟩

end Dyadic

/-! ## Double precision -/

namespace Double

def reading (x : Float) : Reading :=
  Layout.double.read x.toBits.toNat

def ofDyadic (number : Dyadic) : Float :=
  Float.ofBits (UInt64.ofNat (Layout.double.write number))

def compare?
    (x y : Float) : Option Ordering := do
  let left ← Layout.double.place? x.toBits.toNat
  let right ← Layout.double.place? y.toBits.toNat
  pure (compare left right)

def equal
    (x y : Float) : Bool :=
  compare? x y == some .eq

def mapFinite
    (round : Dyadic → Dyadic)
    (x : Float) : Float :=
  match reading x with
  | .finite number => ofDyadic (round number)
  | _ => x

/-- The whole number a double truncates to; none for infinities and not-a-number. -/
def truncate? (x : Float) : Option Int :=
  match reading x with
  | .finite number => some number.truncate
  | _ => none

def remainder
    (x y : Float) : Float :=
  match reading x, reading y with
  | .finite dividend, .finite divisor =>
      if divisor.significand = 0 then 0.0 / 0.0
      else ofDyadic (dividend.remainder divisor)
  | .finite _, .infinite _ => x
  | _, _ => 0.0 / 0.0

end Double

/-! ## Single precision -/

namespace Single

def reading (x : Float32) : Reading :=
  Layout.single.read x.toBits.toNat

def ofDyadic (number : Dyadic) : Float32 :=
  Float32.ofBits (UInt32.ofNat (Layout.single.write number))

/-- The numeric order; none when an operand is not a number. -/
def compare?
    (x y : Float32) : Option Ordering := do
  let left ← Layout.single.place? x.toBits.toNat
  let right ← Layout.single.place? y.toBits.toNat
  pure (compare left right)

/-- Numeric equality: the zeros are equal, and not-a-number equals nothing. -/
def equal
    (x y : Float32) : Bool :=
  compare? x y == some .eq

def mapFinite
    (round : Dyadic → Dyadic)
    (x : Float32) : Float32 :=
  match reading x with
  | .finite number => ofDyadic (round number)
  | _ => x

def truncate? (x : Float32) : Option Int :=
  match reading x with
  | .finite number => some number.truncate
  | _ => none

/-- The remainder of truncated division, exact in every case that has one. -/
def remainder
    (x y : Float32) : Float32 :=
  match reading x, reading y with
  | .finite dividend, .finite divisor =>
      if divisor.significand = 0 then 0.0 / 0.0
      else ofDyadic (dividend.remainder divisor)
  | .finite _, .infinite _ => x
  | _, _ => 0.0 / 0.0

end Single

end ClauseBinding.Number
