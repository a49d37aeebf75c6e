import ClauseBinding.Number.Binary

/-!
Contract: the shortest decimal that reads back as a given binary number.

Owns:
- the interval of reals that round to a number, as quarters of its last digit;
- the search over decimal grids, coarsest first, and the choice between two hits.

Does not own: where a point or an exponent is written.
-/

namespace ClauseBinding.Number

/-- What becomes of two equally short, equally near decimals. -/
inductive Tie where
  | even
  | up
deriving DecidableEq, Repr

structure Decimal where
  digits : Nat
  exponent : Int
deriving DecidableEq, Repr

namespace Decimal

/-- Ten to a power, as numerator and denominator. -/
def tenPower (exponent : Int) : Nat × Nat :=
  if 0 ≤ exponent then (Nat.pow 10 exponent.toNat, 1) else (1, Nat.pow 10 (-exponent).toNat)

/-- Two to a power, as numerator and denominator. -/
def twoPower (exponent : Int) : Nat × Nat :=
  if 0 ≤ exponent then (Nat.pow 2 exponent.toNat, 1) else (1, Nat.pow 2 (-exponent).toNat)

def isBelowTenPower
    (significand : Nat)
    (exponent power : Int) : Bool :=
  let two := twoPower exponent
  let ten := tenPower power
  decide (significand * two.1 * ten.2 < ten.1 * two.2)

/-- The least power of ten above a positive binary number. The logarithm of two
is taken a little too small, so the guess is the answer or is one or two short. -/
def pointPosition
    (significand : Nat)
    (exponent : Int) : Int :=
  let guess := (((significand.log2 : Int) + exponent) * 30102) / 100000
  if isBelowTenPower significand exponent guess then guess
  else if isBelowTenPower significand exponent (guess + 1) then guess + 1
  else guess + 2

/-- The decimal with `count` digits that is nearest to a number, if it lies
among the reals that round to the number. `narrowBelow` says that the next lower
binary number is only half as far as the next higher one. -/
def onGrid?
    (tie : Tie)
    (narrowBelow : Bool)
    (significand : Nat)
    (exponent point : Int)
    (count : Nat) : Option Decimal :=
  let unit := point - count
  let two := twoPower exponent
  let ten := tenPower unit
  let scale := two.1 * ten.2
  let grid := two.2 * ten.1
  let below := significand * scale / grid
  let rest := significand * scale % grid
  let closed := significand % 2 == 0
  let reaches (distance reach : Nat) : Bool :=
    decide (4 * distance < reach) || (closed && 4 * distance == reach)
  let lower := reaches rest (if narrowBelow then scale else 2 * scale)
  let upper := reaches (grid - rest) (2 * scale)
  let upward :=
    if 2 * rest = grid then
      match tie with
      | .up => true
      | .even => below % 2 == 1
    else decide (grid < 2 * rest)
  if lower && upper then some ⟨if upward then below + 1 else below, unit⟩
  else if lower then some ⟨below, unit⟩
  else if upper then some ⟨below + 1, unit⟩
  else none

/-- Move trailing zeros of the digits into the exponent. -/
def trim
    (fuel : Nat)
    (decimal : Decimal) : Decimal :=
  match fuel with
  | 0 => decimal
  | fuel + 1 =>
      if decimal.digits ≠ 0 ∧ decimal.digits % 10 = 0 then
        trim fuel ⟨decimal.digits / 10, decimal.exponent + 1⟩
      else decimal

/-- The shortest decimal of a positive number of a layout, the nearest of those.
Seventeen digits tell any two doubles apart, so the search ends with a hit. -/
def shortest
    (layout : Layout)
    (tie : Tie)
    (significand : Nat)
    (exponent : Int) : Decimal :=
  let narrowBelow :=
    significand == Nat.pow 2 layout.fractionBits && decide (layout.leastExponent < exponent)
  let point := pointPosition significand exponent
  let hit := (List.range 17).findSome? fun shorter =>
    onGrid? tie narrowBelow significand exponent point (shorter + 1)
  trim 17 (hit.getD ⟨significand, exponent⟩)

end Decimal

end ClauseBinding.Number
