import ClauseBinding.Calendar.Read
import ClauseBinding.Calendar.Written
import ClauseBinding.Proofs.Text.Digits
import ClauseBinding.Proofs.Text.Listed

/-!
Contract: dates are read back from their texts.

Owns: the numbers that dates are made of, and that each is read up to what follows it.

Does not own: moments, whose offset need not survive being written.
-/

namespace ClauseBinding.Calendar

open ClauseBinding.Text

variable {rest : List Char} {width number : Nat}

/-! ## Numbers -/

private theorem padded_digits (width number : Nat) :
    ∀ c ∈ padded width number, c.isDigit = true := by
  intro c member
  rcases List.mem_append.mp member with zero | digit
  · obtain rfl := List.eq_of_mem_replicate zero
    rfl
  · exact isDigit_toDigits number c digit

private theorem length_padded
    (wide : 0 < width)
    (fits : number < Nat.pow 10 width) : (padded width number).length = width := by
  have short := (Nat.length_toDigits_le_iff (by decide) wide).mpr fits
  rw [padded, List.length_append, List.length_replicate]
  omega

private theorem exists_padded_cons (width number : Nat) :
    ∃ first others, padded width number = first :: others ∧ first.isDigit = true := by
  have given : padded width number ≠ [] :=
    List.append_ne_nil_of_right_ne_nil _ Nat.toDigits_ne_nil
  obtain ⟨first, others, written⟩ := List.exists_cons_of_ne_nil given
  exact ⟨first, others, written, padded_digits width number first (written ▸ List.mem_cons_self ..)⟩

/-- A number is read up to the next character that is no digit. -/
theorem readNumber_padded
    {most : Nat}
    (fits : (padded width number).length ≤ most)
    (ends : ∀ c ∈ rest.head?, c.isDigit = false) :
    readNumber most (padded width number ++ rest) = some (number, rest) := by
  have taken : ((padded width number ++ rest).take most).takeWhile Char.isDigit
      = padded width number := by
    rw [List.take_append, List.take_of_length_le fits]
    apply takeWhile_run (padded_digits width number)
    intro c first
    rw [List.head?_take] at first
    split at first
    case isTrue => cases first
    case isFalse => exact ends c first
  have value : Nat.ofDigitChars 10 (padded width number) 0 = number := ofDigitChars_zeros _ _
  obtain ⟨first, others, written, -⟩ := exists_padded_cons width number
  rw [readNumber]
  simp only [taken, List.drop_left]
  rw [if_neg (by simp [written])]
  exact congrArg (fun value => some (value, rest)) value

private theorem not_isBlank_of_isDigit
    {c : Char}
    (digit : c.isDigit = true) : isBlank c = false := by
  obtain ⟨atLeast, atMost⟩ : 48 ≤ c.toNat ∧ c.toNat ≤ 57 := by
    simpa [Char.isDigit, UInt32.le_iff_toNat_le] using digit
  simp only [isBlank, Bool.or_eq_false_iff, Bool.and_eq_false_iff, decide_eq_false_iff_not,
    beq_eq_false_iff_ne]
  omega

private theorem trimLeft_padded :
    trimLeft (padded width number ++ rest) = padded width number ++ rest := by
  obtain ⟨first, others, written, digit⟩ := exists_padded_cons width number
  apply trimLeft_eq_self
  intro c isFirst
  rw [written] at isFirst
  obtain rfl := Option.some.inj isFirst
  exact not_isBlank_of_isDigit digit

/-- A field of two digits. -/
theorem readField_padded
    (fits : number < 100)
    (ends : ∀ c ∈ rest.head?, c.isDigit = false) :
    readField (padded 2 number ++ rest) = some (number, rest) := by
  have twoDigits : (padded 2 number).length = 2 := length_padded (by decide) fits
  rw [readField, trimLeft_padded]
  exact readNumber_padded (Nat.le_of_eq twoDigits) ends

private theorem readSeparator_hyphen (rest : List Char) :
    readSeparator '-' ('-' :: rest) = some rest := rfl

/-- A year is read up to the hyphen that ends it. -/
theorem readYear_yearText
    (year : Int)
    (rest : List Char) :
    readYear (yearText year ++ '-' :: rest) = some (year, '-' :: rest) := by
  have ends : ∀ c ∈ ('-' :: rest).head?, c.isDigit = false := by
    intro c first
    obtain rfl := Option.some.inj first
    rfl
  let signless := padded 4 year.natAbs ++ '-' :: rest
  have signed : readNumber signless.length signless = some (year.natAbs, '-' :: rest) :=
    readNumber_padded (by simp [signless]) ends
  rw [yearText]
  split
  case isTrue plain =>
    have fits : year.toNat < Nat.pow 10 4 := by
      have bound : Nat.pow 10 4 = 10000 := rfl
      omega
    have fourDigits : (padded 4 year.toNat).length = 4 := length_padded (by decide) fits
    have unsigned := readNumber_padded (Nat.le_of_eq fourDigits) ends
    obtain ⟨first, others, written, digit⟩ := exists_padded_cons 4 year.toNat
    rw [readYear, trimLeft_padded]
    rw [written, List.cons_append] at unsigned ⊢
    split
    case h_1 same => exact absurd digit ((List.cons.inj same).1 ▸ by decide)
    case h_2 same => exact absurd digit ((List.cons.inj same).1 ▸ by decide)
    case h_3 =>
      rw [unsigned]
      exact congrArg (fun year => some (year, '-' :: rest)) (by omega)
  case isFalse =>
    by_cases negative : year < 0
    · rw [if_pos negative]
      show (readNumber signless.length signless).map _ = _
      rw [signed]
      exact congrArg (fun year => some (year, '-' :: rest)) (by omega)
    · rw [if_neg negative]
      show (readNumber signless.length signless).map _ = _
      rw [signed]
      exact congrArg (fun year => some (year, '-' :: rest)) (by omega)

/-! ## Dates -/

theorem monthLength_le (year : Int) (month : Nat) : monthLength year month ≤ 31 := by
  unfold monthLength
  split <;> (try split) <;> decide

theorem month_le
    {year : Int}
    {month : Nat}
    (hasDays : 1 ≤ monthLength year month) : month ≤ 12 := by
  unfold monthLength at hasDays
  split at hasDays <;> omega

private theorem Date.readDate_chars
    (date : Date)
    (ends : ∀ c ∈ rest.head?, c.isDigit = false) :
    readDate (date.chars ++ rest) = some (date, rest) := by
  obtain ⟨year, month, day, isDate⟩ := date
  obtain ⟨-, -, atLeast, atMost⟩ := id isDate
  have dayFits : day < 100 := by
    have := monthLength_le year month
    omega
  have monthFits : month < 100 := by
    have := month_le (Nat.le_trans atLeast atMost)
    omega
  have hyphen : ∀ rest : List Char, ∀ c ∈ ('-' :: rest).head?, c.isDigit = false := by
    intro rest c first
    obtain rfl := Option.some.inj first
    rfl
  simp only [readDate, chars, List.append_assoc, List.cons_append, readYear_yearText,
    readSeparator_hyphen, readField_padded monthFits (hyphen _), readField_padded dayFits ends,
    Date.ofFields?, dif_pos isDate, Option.bind_eq_bind, Option.bind_some, Option.pure_def]

/-- Every date is read back from its text. -/
theorem Date.ofText?_text (date : Date) : Date.ofText? date.text = some date := by
  have read : readDate (date.chars ++ []) = some (date, []) := date.readDate_chars (by simp)
  rw [List.append_nil] at read
  simp only [ofText?, text, String.toList_ofList, read, Option.bind_eq_bind, Option.bind_some]
  rfl

end ClauseBinding.Calendar
