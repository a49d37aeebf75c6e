/-!
Contract: digits at the front of a text.

Owns:
- how far a run of characters of one class reaches;
- that a number is written with digits, without a zero in front;
- the number that digits with zeros in front write.

Does not own: what stands before or after the digits.
-/

namespace ClauseBinding.Text

/-! ## Runs -/

section Run

variable
  {belongs : Char → Bool}
  {front rest : List Char}
  (within : ∀ c ∈ front, belongs c = true)
  (stops : ∀ c ∈ rest.head?, belongs c = false)

include within stops

theorem takeWhile_run : (front ++ rest).takeWhile belongs = front := by
  rw [List.takeWhile_append_of_pos within]
  cases rest with
  | nil => simp
  | cons c others =>
      have stopped : belongs c = false := stops c rfl
      simp [stopped]

theorem dropWhile_run : (front ++ rest).dropWhile belongs = rest := by
  rw [List.dropWhile_append_of_pos within]
  cases rest with
  | nil => rfl
  | cons c others =>
      have stopped : belongs c = false := stops c rfl
      simp [stopped]

end Run

/-! ## Digits -/

theorem isDigit_toDigits
    (number : Nat) : ∀ c ∈ Nat.toDigits 10 number, c.isDigit = true :=
  fun _ member => Nat.isDigit_of_mem_toDigits (by decide) (by decide) member

/-- Only zero begins with a zero. -/
theorem eq_zero_of_head?_toDigits
    (number : Nat)
    (leadingZero : (Nat.toDigits 10 number).head? = some '0') : number = 0 := by
  induction number using Nat.strongRecOn with
  | ind number inductionHypothesis =>
      by_cases single : number < 10
      · rw [Nat.toDigits_of_lt_base single] at leadingZero
        exact Nat.digitChar_eq_zero.mp (Option.some.inj leadingZero)
      · have longer : 10 ≤ number := Nat.le_of_not_lt single
        rw [Nat.toDigits_of_base_le (by decide) longer, List.head?_append,
          List.head?_eq_some_head Nat.toDigits_ne_nil] at leadingZero
        have shorterLeadingZero : (Nat.toDigits 10 (number / 10)).head? = some '0' := by
          rw [List.head?_eq_some_head Nat.toDigits_ne_nil]
          exact leadingZero
        have shorterZero : number / 10 = 0 :=
          inductionHypothesis _ (by omega) shorterLeadingZero
        omega

/-- Zeros in front do not count. -/
theorem ofDigitChars_zeros
    (count number : Nat) :
    Nat.ofDigitChars 10 (List.replicate count '0' ++ Nat.toDigits 10 number) 0 = number := by
  induction count with
  | zero => exact Nat.ofDigitChars_ten_toDigits
  | succ count inductionHypothesis => exact inductionHypothesis

end ClauseBinding.Text
