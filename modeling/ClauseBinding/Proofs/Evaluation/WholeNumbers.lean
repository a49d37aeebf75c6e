import ClauseBinding.Evaluation.Conversion
import ClauseBinding.Proofs.Evaluation.Outcome

/-!
Contract: arithmetic on whole numbers, in 32 and in 64 bits.

Owns:
- the numbers that operators make of whole numbers, said without computing them;
- the answer that arithmetic of a width has to give;
- that arithmetic gives it in both widths, with one exception, and what follows for
  negation and for numbers that are widened.

Does not own: numbers with fractions, and which width an operation is carried out in.

The exception is the remainder of the least number of 64 bits by minus one. It is zero, and
yet an overflow is reported, as the quotient that belongs to it is too large. In 32 bits the
same division is carried out in 64, where its quotient fits, and the remainder is given.
-/

namespace ClauseBinding

open ClauseBinding.Outcome

/-! ## Numbers -/

namespace Arithmetic

/-- A division with the quotient truncated toward zero: what remains is smaller than the
divisor, and on the side of zero that the dividend is on. -/
structure Truncates (dividend divisor quotient remainder : Int) : Prop where
  divides : dividend = divisor * quotient + remainder
  smaller : remainder.natAbs < divisor.natAbs
  notNegative : 0 ≤ dividend → 0 ≤ remainder
  notPositive : dividend ≤ 0 → remainder ≤ 0

/-- The number that an operator makes of two whole numbers. There is none of a division by
zero. -/
inductive Yields : Arithmetic → Int → Int → Int → Prop where
  | sum (left right : Int) : Yields .add left right (left + right)
  | difference (left right : Int) : Yields .sub left right (left - right)
  | product (left right : Int) : Yields .mul left right (left * right)
  | quotient {left right quotient remainder : Int}
      (truncates : Truncates left right quotient remainder) : Yields .div left right quotient
  | remainder {left right quotient remainder : Int}
      (truncates : Truncates left right quotient remainder) : Yields .mod left right remainder

variable {operator : Arithmetic} {left right result : Int}

theorem dividesByZero_iff :
    operator.dividesByZero right = true ↔ (operator = .div ∨ operator = .mod) ∧ right = 0 := by
  simp [dividesByZero]

private theorem tmod_nonpos
    (negative : left ≤ 0)
    (right : Int) : left.tmod right ≤ 0 := by
  have mirrored := Int.tmod_nonneg right (Int.neg_nonneg_of_nonpos negative)
  rw [Int.neg_tmod] at mirrored
  omega

private theorem truncates_tdiv_tmod (nonzero : right ≠ 0) :
    Truncates left right (left.tdiv right) (left.tmod right) where
  divides := (Int.mul_tdiv_add_tmod left right).symm
  smaller := by
    rw [Int.natAbs_tmod]
    exact Nat.mod_lt _ (by omega)
  notNegative := Int.tmod_nonneg right
  notPositive negative := tmod_nonpos negative right

/-- Quotient and remainder are determined by what is asked of them. -/
theorem Truncates.eq_tdiv_tmod
    {quotient remainder : Int}
    (truncates : Truncates left right quotient remainder) :
    quotient = left.tdiv right ∧ remainder = left.tmod right := by
  obtain ⟨divides, smaller, notNegative, notPositive⟩ := truncates
  have nonzero : right ≠ 0 := by
    rintro rfl
    simp at smaller
  rcases Int.le_total 0 left with positive | negative
  · have onItsSide := notNegative positive
    obtain ⟨isQuotient, isRemainder⟩ :=
      (@Int.tdiv_tmod_unique left right remainder quotient positive nonzero).mpr
        ⟨by omega, onItsSide, by omega⟩
    exact ⟨isQuotient.symm, isRemainder.symm⟩
  · have onItsSide := notPositive negative
    obtain ⟨isQuotient, isRemainder⟩ :=
      (@Int.tdiv_tmod_unique' left right remainder quotient negative nonzero).mpr
        ⟨by omega, by omega, onItsSide⟩
    exact ⟨isQuotient.symm, isRemainder.symm⟩

/-- What the evaluator computes is what the operator makes of the numbers. -/
theorem yields_exact (noZero : operator.dividesByZero right = false) :
    operator.Yields left right (operator.exact left right) := by
  cases operator with
  | add => exact .sum left right
  | sub => exact .difference left right
  | mul => exact .product left right
  | div => exact .quotient (truncates_tdiv_tmod (by simpa [dividesByZero] using noZero))
  | mod => exact .remainder (truncates_tdiv_tmod (by simpa [dividesByZero] using noZero))

private theorem Yields.eq_exact (yields : operator.Yields left right result) :
    operator.dividesByZero right = false ∧ result = operator.exact left right := by
  cases yields with
  | sum | difference | product => exact ⟨rfl, rfl⟩
  | quotient truncates | remainder truncates =>
      have nonzero : right ≠ 0 := by
        rintro rfl
        simpa using truncates.smaller
      obtain ⟨isQuotient, isRemainder⟩ := truncates.eq_tdiv_tmod
      exact ⟨by simpa [dividesByZero] using nonzero, by assumption⟩

/-- An operator makes one number of its operands. -/
theorem Yields.unique
    {other : Int}
    (yields : operator.Yields left right result)
    (others : operator.Yields left right other) : result = other :=
  yields.eq_exact.2.trans others.eq_exact.2.symm

theorem Yields.noZero
    (yields : operator.Yields left right result)
    (divides : operator = .div ∨ operator = .mod) : right ≠ 0 := by
  intro zero
  have dividesByZero := dividesByZero_iff.mpr ⟨divides, zero⟩
  rw [yields.eq_exact.1] at dividesByZero
  cases dividesByZero

end Arithmetic

/-! ## Widths -/

/-- A width of whole numbers: the least and the greatest number that it holds, and the values
that the numbers between them have. -/
structure Width where
  least : Int
  greatest : Int
  value : Int → Value

namespace Width

def whole32 : Width :=
  ⟨Int32.minValue.toInt, Int32.maxValue.toInt, fun number => .int32 (Int32.ofInt number)⟩

def whole64 : Width :=
  ⟨Int64.minValue.toInt, Int64.maxValue.toInt, fun number => .int64 (Int64.ofInt number)⟩

def Holds
    (width : Width)
    (number : Int) : Prop :=
  width.least ≤ number ∧ number ≤ width.greatest

instance (width : Width) (number : Int) : Decidable (width.Holds number) :=
  inferInstanceAs (Decidable (width.least ≤ number ∧ number ≤ width.greatest))

theorem whole32_holds_iff {number : Int} :
    whole32.Holds number ↔ -2147483648 ≤ number ∧ number ≤ 2147483647 :=
  Iff.rfl

theorem whole64_holds_iff {number : Int} :
    whole64.Holds number ↔ -9223372036854775808 ≤ number ∧ number ≤ 9223372036854775807 :=
  Iff.rfl

/-- What fits 32 bits fits 64. -/
theorem wider
    {number : Int}
    (holds : whole32.Holds number) : whole64.Holds number := by
  rw [whole32_holds_iff] at holds
  rw [whole64_holds_iff]
  omega

theorem whole32_holds (number : Int32) : whole32.Holds number.toInt :=
  ⟨number.minValue_le_toInt, number.toInt_le⟩

theorem whole64_holds (number : Int64) : whole64.Holds number.toInt :=
  ⟨number.minValue_le_toInt, number.toInt_le⟩

end Width

namespace Arithmetic

/-- The answer that an operator gives in a width: the number that it makes of its operands if
that fits, an overflow if it does not, and a failure of its own for a division by zero. -/
inductive Answers
    (operator : Arithmetic)
    (width : Width)
    (left right : Int) : Except Failure Value → Prop where
  | fits {result : Int}
      (yields : operator.Yields left right result)
      (holds : width.Holds result) :
      Answers operator width left right (.ok (width.value result))
  | overflows {result : Int}
      (yields : operator.Yields left right result)
      (beyond : ¬ width.Holds result) :
      Answers operator width left right (.error (.evaluation (.overflow operator.keyword)))
  | divisionByZero
      (divides : operator = .div ∨ operator = .mod)
      (zero : right = 0) :
      Answers operator width left right (.error .divisionByZero)

variable {operator : Arithmetic} {width : Width} {left right result : Int}

/-- There is one answer. So an overflow is reported exactly where the number does not fit, and
a division by zero exactly where the divisor is zero. -/
theorem Answers.unique
    {answer other : Except Failure Value}
    (answers : operator.Answers width left right answer)
    (others : operator.Answers width left right other) : answer = other := by
  cases answers with
  | fits yields holds =>
      cases others with
      | fits others => rw [yields.unique others]
      | overflows others beyond =>
          rw [yields.unique others] at holds
          exact absurd holds beyond
      | divisionByZero divides zero => exact absurd zero (yields.noZero divides)
  | overflows yields beyond =>
      cases others with
      | fits others holds =>
          rw [yields.unique others] at beyond
          exact absurd holds beyond
      | overflows => rfl
      | divisionByZero divides zero => exact absurd zero (yields.noZero divides)
  | divisionByZero divides zero =>
      cases others with
      | fits others | overflows others => exact absurd zero (others.noZero divides)
      | divisionByZero => rfl

/-! ## 64 bits -/

/-- A quotient fits where its dividend does, unless the least number is divided by minus
one. -/
theorem whole64_holds_tdiv
    (leftHolds : Width.whole64.Holds left)
    (usual : ¬ (left = -9223372036854775808 ∧ right = -1)) :
    Width.whole64.Holds (left.tdiv right) := by
  rw [Width.whole64_holds_iff] at leftHolds ⊢
  have noLarger := Int.natAbs_tdiv_le_natAbs left right
  by_cases one : right.natAbs ≤ 1
  · obtain rfl | rfl | rfl : right = 0 ∨ right = 1 ∨ right = -1 := by omega
    · simp
    · simpa using leftHolds
    · simp only [Int.reduceNeg, Int.tdiv_neg, Int.tdiv_one]
      omega
  · have half : (left.tdiv right).natAbs ≤ left.natAbs / 2 := by
      rw [Int.natAbs_tdiv]
      exact Nat.div_le_div_left (by omega) (by decide)
    omega

/-- A remainder fits where its dividend does. -/
theorem whole64_holds_tmod (leftHolds : Width.whole64.Holds left) :
    Width.whole64.Holds (left.tmod right) := by
  rw [Width.whole64_holds_iff] at leftHolds ⊢
  have noLarger : (left.tmod right).natAbs ≤ left.natAbs := by
    rw [Int.natAbs_tmod]
    exact Nat.mod_le _ _
  rcases Int.le_total 0 left with positive | negative
  · have onItsSide := Int.tmod_nonneg right positive
    omega
  · have onItsSide := tmod_nonpos negative right
    omega

/-- What is looked at to see whether a result fits does fit where the result does. -/
theorem whole64_holds_witness_iff
    (leftHolds : Width.whole64.Holds left)
    (usual : ¬ (operator = .mod ∧ left = -9223372036854775808 ∧ right = -1)) :
    Width.whole64.Holds (operator.witness left right) ↔
      Width.whole64.Holds (operator.exact left right) := by
  cases operator with
  | mod =>
      have quotientHolds : Width.whole64.Holds (left.tdiv right) :=
        whole64_holds_tdiv leftHolds fun exception => usual ⟨rfl, exception⟩
      exact iff_of_true quotientHolds (whole64_holds_tmod leftHolds)
  | _ => rfl

private theorem onWhole_of_zero
    {left right : Int64}
    (zero : operator.dividesByZero right.toInt = true) :
    operator.onWhole left right = .error .divisionByZero := by
  simp [onWhole, zero]

private theorem onWhole_of_holds
    {left right : Int64}
    (noZero : operator.dividesByZero right.toInt = false)
    (holds : Width.whole64.Holds (operator.witness left.toInt right.toInt)) :
    operator.onWhole left right = .ok (Int64.ofInt (operator.exact left.toInt right.toInt)) := by
  simp only [onWhole, noZero, Bool.false_eq_true, if_false]
  exact if_pos holds

private theorem onWhole_of_beyond
    {left right : Int64}
    (noZero : operator.dividesByZero right.toInt = false)
    (beyond : ¬ Width.whole64.Holds (operator.witness left.toInt right.toInt)) :
    operator.onWhole left right = .error (.evaluation (.overflow operator.keyword)) := by
  simp only [onWhole, noZero, Bool.false_eq_true, if_false]
  exact if_neg beyond

/-- In 64 bits the answer is given to all operands but the two of the exception. -/
theorem apply_int64_answers
    {left right : Int64}
    (usual : ¬ (operator = .mod ∧ left = Int64.minValue ∧ right = -1)) :
    operator.Answers .whole64 left.toInt right.toInt
      (operator.apply (.int64 left) (.int64 right)) := by
  have sameHolds := @whole64_holds_witness_iff operator left.toInt right.toInt
    (Width.whole64_holds left) fun ⟨isMod, isLeast, isMinusOne⟩ =>
      usual ⟨isMod, Int64.toInt_inj.mp isLeast, Int64.toInt_inj.mp isMinusOne⟩
  rw [apply]
  cases zero : operator.dividesByZero right.toInt with
  | true =>
      obtain ⟨divides, isZero⟩ := dividesByZero_iff.mp zero
      rw [onWhole_of_zero zero]
      exact .divisionByZero divides isZero
  | false =>
      by_cases holds : Width.whole64.Holds (operator.exact left.toInt right.toInt)
      · rw [onWhole_of_holds zero (sameHolds.mpr holds)]
        exact .fits (yields_exact zero) holds
      · rw [onWhole_of_beyond zero (mt sameHolds.mp holds)]
        exact .overflows (yields_exact zero) holds

/-! ## 32 bits -/

/-- Numbers of 32 bits have results that 64 bits hold. -/
theorem whole64_holds_exact
    (leftHolds : Width.whole32.Holds left)
    (rightHolds : Width.whole32.Holds right) :
    Width.whole64.Holds (operator.exact left right) := by
  have leftWider := Width.wider leftHolds
  rw [Width.whole32_holds_iff] at leftHolds rightHolds
  cases operator with
  | add | sub =>
      rw [Width.whole64_holds_iff, exact]
      omega
  | mul =>
      have bounded : (left * right).natAbs ≤ 2147483648 * 2147483648 := by
        rw [Int.natAbs_mul]
        exact Nat.mul_le_mul (by omega) (by omega)
      rw [Width.whole64_holds_iff, exact]
      omega
  | div => exact whole64_holds_tdiv leftWider (by omega)
  | mod => exact whole64_holds_tmod leftWider

/-- What 64 bits hold is narrowed to the number itself, if that fits. -/
theorem narrow_ofInt (holds : Width.whole64.Holds result) :
    operator.narrow (Int64.ofInt result) =
      if Int32.minValue.toInt ≤ result ∧ result ≤ Int32.maxValue.toInt then
        .ok (Int32.ofInt result)
      else .error (.evaluation (.overflow operator.keyword)) := by
  rw [Width.whole64_holds_iff] at holds
  rw [narrow, Int64.toInt_ofInt_of_le (by omega) (by omega), Int64.toInt32_ofInt]

/-- In 32 bits the answer is given to all operands. -/
theorem apply_int32_answers (left right : Int32) :
    operator.Answers .whole32 left.toInt right.toInt
      (operator.apply (.int32 left) (.int32 right)) := by
  have leftHolds := Width.whole32_holds left
  have exactHolds : Width.whole64.Holds (operator.exact left.toInt right.toInt) :=
    whole64_holds_exact leftHolds (Width.whole32_holds right)
  have leftWider := Width.wider leftHolds
  rw [Width.whole32_holds_iff] at leftHolds
  have witnessHolds : Width.whole64.Holds (operator.witness left.toInt right.toInt) :=
    (whole64_holds_witness_iff leftWider (by omega)).mpr exactHolds
  have leftSame : left.toInt64.toInt = left.toInt := left.toInt_toInt64
  have rightSame : right.toInt64.toInt = right.toInt := right.toInt_toInt64
  rw [← leftSame, ← rightSame] at exactHolds witnessHolds ⊢
  rw [apply]
  cases zero : operator.dividesByZero right.toInt64.toInt with
  | true =>
      obtain ⟨divides, isZero⟩ := dividesByZero_iff.mp zero
      rw [onWhole_of_zero zero]
      exact .divisionByZero divides isZero
  | false =>
      rw [onWhole_of_holds zero witnessHolds, ok_bind, narrow_ofInt exactHolds]
      split
      case isTrue holds => exact .fits (yields_exact zero) holds
      case isFalse beyond => exact .overflows (yields_exact zero) beyond

end Arithmetic

/-! ## Negation -/

/-- Two outcomes with the same values, of which one overflows where the other does. Each
overflow is named after its own operation. -/
structure Outcome.OverflowsAlike
    (operation other : String)
    (outcome otherOutcome : Except Failure Value) : Prop where
  values : ∀ value, outcome = .ok value ↔ otherOutcome = .ok value
  overflows : outcome = .error (.evaluation (.overflow operation)) ↔
    otherOutcome = .error (.evaluation (.overflow other))

namespace Outcome.OverflowsAlike

variable {operation other : String}

theorem of_ok (value : Value) : OverflowsAlike operation other (.ok value) (.ok value) :=
  ⟨fun _ => Iff.rfl, by simp⟩

private theorem of_overflow :
    OverflowsAlike operation other (.error (.evaluation (.overflow operation)))
      (.error (.evaluation (.overflow other))) :=
  ⟨by simp, by simp⟩

end Outcome.OverflowsAlike

/-- Negation and subtraction from zero overflow at the least number, which has no opposite of
its width. -/
theorem Value.negate_alike
    {width : Width}
    {zero operand : Value}
    {number : Int}
    (uneven : width.greatest = -width.least - 1)
    (holds : width.Holds number)
    (negates : operand.negate =
      if number = width.least then .error (.evaluation (.overflow "-"))
      else .ok (width.value (-number)))
    (subtracts : Arithmetic.sub.Answers width 0 number (Arithmetic.sub.apply zero operand)) :
    OverflowsAlike "-" "sub" operand.negate (Arithmetic.sub.apply zero operand) := by
  obtain ⟨notLess, notGreater⟩ := holds
  have difference := Arithmetic.Yields.difference 0 number
  rw [Int.zero_sub] at difference
  rw [negates]
  split
  case isTrue least =>
    have beyond : ¬ width.Holds (-number) := by
      unfold Width.Holds
      omega
    rw [subtracts.unique (.overflows difference beyond)]
    exact .of_overflow
  case isFalse notLeast =>
    have fits : width.Holds (-number) := by
      unfold Width.Holds
      omega
    rw [subtracts.unique (.fits difference fits)]
    exact .of_ok _

theorem Value.negate_int32 (number : Int32) :
    (Value.int32 number).negate =
      if number.toInt = Width.whole32.least then .error (.evaluation (.overflow "-"))
      else .ok (Width.whole32.value (-number.toInt)) := by
  simp only [negate, Width.whole32, Int32.toInt_inj, Int32.ofInt_neg, Int32.ofInt_toInt]
  rfl

theorem Value.negate_int64 (number : Int64) :
    (Value.int64 number).negate =
      if number.toInt = Width.whole64.least then .error (.evaluation (.overflow "-"))
      else .ok (Width.whole64.value (-number.toInt)) := by
  simp only [negate, Width.whole64, Int64.toInt_inj, Int64.ofInt_neg, Int64.ofInt_toInt]
  rfl

/-! ## Both widths -/

namespace Arithmetic

/-- What an operation has for a value in 32 bits it has in 64, widened. -/
theorem apply_widened
    {operator : Arithmetic}
    {left right : Int32}
    {value : Value}
    (narrow : operator.apply (.int32 left) (.int32 right) = .ok value) :
    operator.apply ((Value.int32 left).convert .int64) ((Value.int32 right).convert .int64) =
      .ok (value.convert .int64) := by
  have answers := @apply_int32_answers operator left right
  rw [narrow] at answers
  cases answers with
  | @fits result yields holds =>
      have leftBounded := Width.whole32_holds left
      rw [Width.whole32_holds_iff] at leftBounded
      have leftSame : left.toInt64.toInt = left.toInt := left.toInt_toInt64
      have rightSame : right.toInt64.toInt = right.toInt := right.toInt_toInt64
      have notLeast : left.toInt64 ≠ Int64.minValue := by
        intro least
        have tooSmall : left.toInt64.toInt = -9223372036854775808 := congrArg Int64.toInt least
        omega
      have widened : (Width.whole32.value result).convert .int64 = Width.whole64.value result :=
        congrArg Value.int64 (Int32.toInt64_ofInt holds.1 holds.2)
      have wide : operator.Answers .whole64 left.toInt64.toInt right.toInt64.toInt
          (operator.apply (.int64 left.toInt64) (.int64 right.toInt64)) :=
        apply_int64_answers fun ⟨_, least, _⟩ => notLeast least
      rw [leftSame, rightSame] at wide
      rw [widened]
      exact wide.unique (.fits yields (Width.wider holds))

/-- Arithmetic on whole numbers is exact. In 32 bits every operator gives its answer: the
number itself where it fits, else an overflow, and a failure of its own for a division by
zero. So it does in 64 bits, but for the remainder of the least number by minus one. In both
widths negation is subtraction from zero, and what has a value in 32 bits has the same value
in 64. -/
theorem whole_numbers_exact (operator : Arithmetic) :
    (∀ left right : Int32,
        operator.Answers .whole32 left.toInt right.toInt
          (operator.apply (.int32 left) (.int32 right)))
      ∧ (∀ left right : Int64,
        ¬ (operator = .mod ∧ left = Int64.minValue ∧ right = -1) →
          operator.Answers .whole64 left.toInt right.toInt
            (operator.apply (.int64 left) (.int64 right)))
      ∧ (∀ number : Int32,
        OverflowsAlike "-" "sub" (Value.int32 number).negate
          (Arithmetic.sub.apply (.int32 0) (.int32 number)))
      ∧ (∀ number : Int64,
        OverflowsAlike "-" "sub" (Value.int64 number).negate
          (Arithmetic.sub.apply (.int64 0) (.int64 number)))
      ∧ ∀ (left right : Int32) (value : Value),
        operator.apply (.int32 left) (.int32 right) = .ok value →
          operator.apply ((Value.int32 left).convert .int64) ((Value.int32 right).convert .int64) =
            .ok (value.convert .int64) := by
  refine ⟨?narrow, ?wide, ?negateNarrow, ?negateWide, ?widened⟩
  case narrow => exact apply_int32_answers
  case wide =>
    intro left right usual
    exact apply_int64_answers usual
  case negateNarrow =>
    intro number
    exact Value.negate_alike rfl (Width.whole32_holds number) (Value.negate_int32 number)
      (apply_int32_answers 0 number)
  case negateWide =>
    intro number
    have subtracts := @apply_int64_answers .sub 0 number (by simp)
    exact Value.negate_alike rfl (Width.whole64_holds number) (Value.negate_int64 number) subtracts
  case widened =>
    intro left right value narrow
    exact apply_widened narrow

/-- The least number by minus one, in 32 bits: the quotient overflows and the remainder is
zero, which it is in 64 bits as well. -/
theorem whole_numbers_exact_leastByMinusOne :
    ¬ (Arithmetic.mod = .mod ∧ Int32.minValue.toInt64 = Int64.minValue ∧ (-1 : Int64) = -1)
      ∧ Arithmetic.mod.Answers .whole64 Int32.minValue.toInt64.toInt (-1 : Int64).toInt
        (Arithmetic.mod.apply (.int64 Int32.minValue.toInt64) (.int64 (-1)))
      ∧ Arithmetic.mod.apply (.int32 Int32.minValue) (.int32 (-1)) = .ok (.int32 0)
      ∧ Arithmetic.mod.apply ((Value.int32 Int32.minValue).convert .int64)
          ((Value.int32 (-1)).convert .int64) = .ok ((Value.int32 0).convert .int64) := by
  obtain ⟨-, wide, -, -, widened⟩ := whole_numbers_exact .mod
  have usual : ¬ (Arithmetic.mod = .mod ∧ Int32.minValue.toInt64 = Int64.minValue
      ∧ (-1 : Int64) = -1) := by decide
  have remainder : Arithmetic.mod.apply (.int32 Int32.minValue) (.int32 (-1)) = .ok (.int32 0) :=
    rfl
  exact ⟨usual, wide _ _ usual, remainder, widened _ _ _ remainder⟩

/-- In 64 bits an overflow is reported of the remainder of the least number by minus one,
although it is zero. -/
theorem leastByMinusOne_overflows :
    Arithmetic.mod.Yields Int64.minValue.toInt (-1 : Int64).toInt 0
      ∧ Width.whole64.Holds 0
      ∧ Arithmetic.mod.apply (.int64 Int64.minValue) (.int64 (-1)) =
        .error (.evaluation (.overflow "mod"))
      ∧ ¬ ∀ left right : Int64, Arithmetic.mod.Answers .whole64 left.toInt right.toInt
        (Arithmetic.mod.apply (.int64 left) (.int64 right)) := by
  have yields : Arithmetic.mod.Yields Int64.minValue.toInt (-1 : Int64).toInt 0 :=
    yields_exact rfl
  have holds : Width.whole64.Holds 0 := by decide
  have overflows : Arithmetic.mod.apply (.int64 Int64.minValue) (.int64 (-1)) =
      .error (.evaluation (.overflow "mod")) := rfl
  refine ⟨yields, holds, overflows, ?_⟩
  intro exact
  have answer := (exact Int64.minValue (-1)).unique (.fits yields holds)
  rw [overflows] at answer
  cases answer

end Arithmetic

end ClauseBinding
