import ClauseBinding.Json.Token
import ClauseBinding.Proofs.Text.Digits

/-!
Contract: numbers in JSON are read back as they are written.

Owns:
- which digits make up a number;
- that scanning what is written for a number gives the number, whatever follows that is
  no part of a number;
- that whole numbers of up to 64 bits survive being written.

Does not own: doubles, whose last digit need not survive.
-/

namespace ClauseBinding.Json

open ClauseBinding.Text

namespace Numeral

/-- Digits in the places where a number may have them. Before the point stands a zero
alone, or digits that begin with another. -/
structure WellFormed (numeral : Numeral) : Prop where
  wholeGiven : numeral.whole ≠ []
  wholeDigits : ∀ c ∈ numeral.whole, c.isDigit = true
  wholeZero : numeral.whole.head? = some '0' → numeral.whole = ['0']
  fractionDigits : ∀ c ∈ numeral.fraction, c.isDigit = true
  exponentGiven : ∀ sign digits, numeral.exponent = some (sign, digits) → digits ≠ []
  exponentDigits : ∀ sign digits, numeral.exponent = some (sign, digits) →
    ∀ c ∈ digits, c.isDigit = true

/-- Whether a character may follow a number without being taken for a part of it. -/
def endedBy (c : Char) : Bool :=
  !c.isDigit && c != '.' && c != 'e' && c != 'E'

/-- Whether a text goes on with no part of a number. -/
def EndsBefore (rest : List Char) : Prop :=
  ∀ c ∈ rest.head?, endedBy c = true

def fractionChars (digits : List Char) : List Char :=
  if digits.isEmpty then [] else '.' :: digits

def exponentChars : Option (Bool × List Char) → List Char
  | none => []
  | some (negative, digits) => 'e' :: ((if negative then ['-'] else []) ++ digits)

def unsignedChars (numeral : Numeral) : List Char :=
  numeral.whole ++ (fractionChars numeral.fraction ++ exponentChars numeral.exponent)

theorem chars_eq (numeral : Numeral) :
    numeral.chars = (if numeral.negative then ['-'] else []) ++ numeral.unsignedChars := by
  simp only [chars, unsignedChars, fractionChars, List.append_assoc]
  rfl

/-! ## Scanning -/

section Scanning

variable {rest : List Char}

private theorem scanDigits_append
    {digits : List Char}
    (isNumber : ∀ c ∈ digits, c.isDigit = true)
    (ends : ∀ c ∈ rest.head?, c.isDigit = false) :
    scanDigits (digits ++ rest) = (digits, rest) := by
  rw [scanDigits, takeWhile_run isNumber ends, dropWhile_run isNumber ends]

private theorem EndsBefore.noDigit (ends : EndsBefore rest) :
    ∀ c ∈ rest.head?, c.isDigit = false := by
  intro c first
  have ended := ends c first
  simp only [endedBy, Bool.and_eq_true, Bool.not_eq_true'] at ended
  exact ended.1.1.1

private theorem EndsBefore.noPoint (ends : EndsBefore rest) : ∀ c ∈ rest.head?, c ≠ '.' := by
  intro c first
  have ended := ends c first
  simp only [endedBy, Bool.and_eq_true, bne_iff_ne] at ended
  exact ended.1.1.2

private theorem first_of_fraction
    {digits : List Char}
    {c : Char}
    (first : c ∈ (fractionChars digits ++ rest).head?) : c = '.' ∨ c ∈ rest.head? := by
  cases digits with
  | nil => exact .inr first
  | cons => exact .inl (Option.some.inj first).symm

private theorem first_of_exponent
    {exponent : Option (Bool × List Char)}
    {c : Char}
    (first : c ∈ (exponentChars exponent ++ rest).head?) : c = 'e' ∨ c ∈ rest.head? := by
  cases exponent with
  | none => exact .inr first
  | some => exact .inl (Option.some.inj first).symm

private theorem scanWhole_append
    {numeral : Numeral}
    (wellFormed : numeral.WellFormed)
    (ends : ∀ c ∈ rest.head?, c.isDigit = false) :
    scanWhole (numeral.whole ++ rest) = some (numeral.whole, rest) := by
  obtain ⟨first, others, whole⟩ := List.exists_cons_of_ne_nil wellFormed.wholeGiven
  have digits := wellFormed.wholeDigits
  have scanned := scanDigits_append digits ends
  rw [whole] at scanned digits ⊢
  by_cases zero : first = '0'
  · subst zero
    have alone : '0' :: others = ['0'] := whole ▸ wellFormed.wholeZero (by rw [whole]; rfl)
    obtain rfl : others = [] := (List.cons.inj alone).2
    rfl
  · rw [List.cons_append] at scanned ⊢
    unfold scanWhole
    split
    case h_1 c isZero => exact absurd (List.cons.inj isZero).1 zero
    case h_2 => rw [scanned]

private theorem scanFraction_append
    {numeral : Numeral}
    (wellFormed : numeral.WellFormed)
    (ends : ∀ c ∈ rest.head?, c.isDigit = false ∧ c ≠ '.') :
    scanFraction (fractionChars numeral.fraction ++ rest) = some (numeral.fraction, rest) := by
  cases given : numeral.fraction with
  | nil =>
      show scanFraction rest = some ([], rest)
      unfold scanFraction
      split
      case h_1 point => exact absurd rfl (ends '.' rfl).2
      case h_2 => rfl
  | cons first others =>
      have digits := wellFormed.fractionDigits
      rw [given] at digits
      have scanned := scanDigits_append digits fun c isFirst => (ends c isFirst).1
      show scanFraction ('.' :: (first :: others ++ rest)) = some (first :: others, rest)
      rw [scanFraction, scanned]

private theorem scanPower_append
    {digits : List Char}
    (given : digits ≠ [])
    (isNumber : ∀ c ∈ digits, c.isDigit = true)
    (ends : ∀ c ∈ rest.head?, c.isDigit = false)
    (negative : Bool) :
    scanPower negative (digits ++ rest) = some (some (negative, digits), rest) := by
  obtain ⟨first, others, rfl⟩ := List.exists_cons_of_ne_nil given
  rw [scanPower, scanDigits_append isNumber ends]

private theorem scanExponent_append
    {numeral : Numeral}
    (wellFormed : numeral.WellFormed)
    (ends : EndsBefore rest) :
    scanExponent (exponentChars numeral.exponent ++ rest) = some (numeral.exponent, rest) := by
  cases given : numeral.exponent with
  | none =>
      cases rest with
      | nil => rfl
      | cons c others =>
          have ended := ends c rfl
          simp only [endedBy, Bool.and_eq_true, bne_iff_ne] at ended
          have noExponent : ¬(c = 'e' ∨ c = 'E') := not_or.mpr ⟨ended.1.2, ended.2⟩
          exact if_neg noExponent
  | some exponent =>
      obtain ⟨negative, digits⟩ := exponent
      have someDigits := wellFormed.exponentGiven negative digits given
      have areDigits := wellFormed.exponentDigits negative digits given
      have scanned := scanPower_append someDigits areDigits ends.noDigit
      cases negative with
      | true =>
          exact scanned true
      | false =>
          obtain ⟨first, others, rfl⟩ := List.exists_cons_of_ne_nil someDigits
          have isDigit := areDigits first (List.mem_cons_self ..)
          show scanExponent ('e' :: first :: (others ++ rest)) = _
          rw [scanExponent, if_pos (.inl rfl)]
          · exact scanned false
          · rintro digits same
            exact absurd isDigit ((List.cons.inj same).1 ▸ by decide)
          · rintro digits same
            exact absurd isDigit ((List.cons.inj same).1 ▸ by decide)

/-- What is written for a number after its sign is scanned as that number. -/
theorem scanNumeral_append
    {numeral : Numeral}
    (wellFormed : numeral.WellFormed)
    (ends : EndsBefore rest) :
    scanNumeral numeral.negative (numeral.unsignedChars ++ rest) = some (numeral, rest) := by
  have afterFraction : ∀ c ∈ (exponentChars numeral.exponent ++ rest).head?,
      c.isDigit = false ∧ c ≠ '.' := by
    intro c first
    rcases first_of_exponent first with rfl | first
    · decide
    · exact ⟨ends.noDigit c first, ends.noPoint c first⟩
  have afterWhole : ∀ c ∈ (fractionChars numeral.fraction
      ++ (exponentChars numeral.exponent ++ rest)).head?, c.isDigit = false := by
    intro c first
    rcases first_of_fraction first with rfl | first
    · decide
    · exact (afterFraction c first).1
  simp only [scanNumeral, unsignedChars, List.append_assoc, scanWhole_append wellFormed afterWhole,
    scanFraction_append wellFormed afterFraction, scanExponent_append wellFormed ends,
    Option.bind_eq_bind, Option.bind_some, Option.pure_def]

end Scanning

/-! ## Whole numbers -/

theorem ofInt_wellFormed (value : Int) : (ofInt value).WellFormed where
  wholeGiven := Nat.toDigits_ne_nil
  wholeDigits := isDigit_toDigits value.natAbs
  wholeZero leadingZero := by
    have zero : value.natAbs = 0 := eq_zero_of_head?_toDigits _ leadingZero
    rw [ofInt, zero, Nat.toDigits_zero]
  fractionDigits _ absurd := nomatch absurd
  exponentGiven _ _ absurd := nomatch absurd
  exponentDigits _ _ absurd := nomatch absurd

private theorem natural_toDigits (number : Nat) : natural (Nat.toDigits 10 number) = number :=
  Nat.ofDigitChars_ten_toDigits

/-- Whole numbers of 64 bits, signed or not, survive being written. -/
theorem toInt?_ofInt
    {value : Int}
    (atLeast : Int64.minValue.toInt ≤ value)
    (below : value < UInt64.size) : (ofInt value).toInt? = some value := by
  have least : Int64.minValue.toInt = -9223372036854775808 := by decide
  have size : UInt64.size = 18446744073709551616 := rfl
  have written : natural (ofInt value).whole = value.natAbs := natural_toDigits _
  have isWhole : (ofInt value).isWhole = true := rfl
  rw [toInt?]
  simp only [isWhole, written, size]
  by_cases negative : value < 0
  · have isNegative : (ofInt value).negative = true := decide_eq_true negative
    rw [isNegative, if_neg (by decide), if_pos rfl, if_pos (by omega)]
    exact congrArg some (by omega)
  · have isNotNegative : (ofInt value).negative = false := decide_eq_false negative
    rw [isNotNegative, if_neg (by decide), if_neg (by decide), if_pos (by omega)]
    exact congrArg some (by omega)

end Numeral

end ClauseBinding.Json
