import ClauseBinding.Evaluation.Call
import ClauseBinding.Proofs.Evaluation.Outcome

/-!
Contract: the functions on texts agree on positions.

Owns:
- where the search for a pattern finds it, and that it is the first place;
- positions and lengths as whole numbers of 32 bits, for texts whose length is one;
- laws that tie the search, the tests at either end, the lengths, the parts and the joining
  of texts to one another.

Does not own: case, blanks, or how positions are counted in bytes.

The search goes by characters, the numbers by 32 bits. All laws are first about lists of
characters and natural numbers; the length of the text is all that keeps them true of the
numbers that a clause sees.
-/

namespace ClauseBinding

open ClauseBinding.Outcome

namespace Text

variable {pattern text : List Char} {position : Nat}

/-! ## The search -/

/-- A pattern is found at the first position from which the text begins with it. -/
theorem position?_eq_some_iff :
    position? pattern text = some position ↔
      position ≤ text.length
        ∧ pattern <+: text.drop position
        ∧ ∀ earlier < position, ¬ pattern <+: text.drop earlier := by
  induction text generalizing position with
  | nil =>
      cases pattern with
      | nil =>
          constructor
          · intro found
            obtain rfl := Option.some.inj found
            exact ⟨Nat.le_refl _, List.nil_prefix, fun _ absurd => nomatch absurd⟩
          · rintro ⟨atEnd, -, -⟩
            obtain rfl := Nat.le_zero.mp atEnd
            rfl
      | cons => simp [position?]
  | cons c rest inductionHypothesis =>
      rw [position?]
      by_cases atStart : pattern <+: c :: rest
      · rw [if_pos (List.isPrefixOf_iff_prefix.mpr atStart)]
        constructor
        · intro found
          obtain rfl := Option.some.inj found
          exact ⟨Nat.zero_le _, atStart, fun _ absurd => nomatch absurd⟩
        · rintro ⟨-, -, isFirst⟩
          cases position with
          | zero => rfl
          | succ position => exact absurd atStart (isFirst 0 (Nat.succ_pos position))
      · rw [if_neg (mt List.isPrefixOf_iff_prefix.mp atStart), Option.map_eq_some_iff]
        constructor
        · rintro ⟨position, found, rfl⟩
          obtain ⟨inside, isThere, isFirst⟩ := inductionHypothesis.mp found
          refine ⟨Nat.succ_le_succ inside, isThere, ?_⟩
          intro earlier before
          cases earlier with
          | zero => exact atStart
          | succ earlier => exact isFirst earlier (Nat.lt_of_succ_lt_succ before)
        · rintro ⟨inside, isThere, isFirst⟩
          cases position with
          | zero => exact absurd isThere atStart
          | succ position =>
              refine ⟨position, inductionHypothesis.mpr ⟨Nat.le_of_succ_le_succ inside, isThere, ?_⟩,
                rfl⟩
              exact fun earlier before => isFirst (earlier + 1) (Nat.succ_lt_succ before)

/-- A pattern occurs in a text if the search finds it. -/
theorem occursIn_eq_isSome (pattern text : List Char) :
    occursIn pattern text = (position? pattern text).isSome := by
  induction text with
  | nil => cases pattern <;> rfl
  | cons c rest inductionHypothesis =>
      rw [occursIn, position?, inductionHypothesis]
      cases pattern.isPrefixOf (c :: rest) <;> simp

/-- A text begins with a pattern if the search finds it at the very start. -/
theorem isPrefixOf_eq_position? (pattern text : List Char) :
    pattern.isPrefixOf text = (position? pattern text == some 0) := by
  rw [Bool.eq_iff_iff, List.isPrefixOf_iff_prefix, beq_iff_eq, position?_eq_some_iff]
  simp

/-- What is found is the part of the text from there, of the length of the pattern. -/
theorem take_drop_of_position?
    (found : position? pattern text = some position) :
    (text.drop position).take pattern.length = pattern :=
  (List.prefix_iff_eq_take.mp (position?_eq_some_iff.mp found).2.1).symm

/-- A text ends with a pattern if what is left of it in the length of the pattern is it. -/
theorem isSuffixOf_iff :
    pattern.isSuffixOf text = true ↔
      pattern.length ≤ text.length ∧ text.drop (text.length - pattern.length) = pattern := by
  rw [List.isSuffixOf_iff_suffix]
  constructor
  · intro suffix
    exact ⟨suffix.length_le, (List.suffix_iff_eq_drop.mp suffix).symm⟩
  · rintro ⟨-, rest⟩
    exact List.suffix_iff_eq_drop.mpr rest.symm

/-! ## Positions in 32 bits -/

/-- A text whose positions are all whole numbers of 32 bits. -/
def Indexable (text : String) : Prop :=
  text.toList.length ≤ Int32.maxValue.toInt.toNat

/-- A position that is none before the text. -/
theorem toInt_position
    {length : Nat}
    (indexable : length ≤ Int32.maxValue.toInt.toNat)
    (inside : position ≤ length) : (Int32.ofNat position).toInt = position := by
  have most : Int32.maxValue.toInt.toNat = 2147483647 := rfl
  exact Int32.toInt_ofNat_of_lt (by omega)

end Text

namespace Function

open ClauseBinding.Text

variable {text pattern : String} {position : Nat}

private theorem apply_length (indexable : Indexable text) :
    apply .length [.string text] = .ok (.int32 (Int32.ofNat text.toList.length)) :=
  if_pos indexable

/-- The answer where the search finds the pattern. -/
theorem apply_indexOf_of_some
    (indexable : Indexable text)
    (found : position? pattern.toList text.toList = some position) :
    apply .indexOf [.string text, .string pattern] = .ok (.int32 (Int32.ofNat position)) := by
  have inside := (position?_eq_some_iff.mp found).1
  rw [apply, found]
  exact if_pos (Nat.le_trans inside indexable)

private theorem apply_indexOf_of_none
    (missing : position? pattern.toList text.toList = none) :
    apply .indexOf [.string text, .string pattern] = .ok (.int32 (-1)) := by
  rw [apply, missing]

/-- Whether the part of a text from a position on begins with a pattern. -/
theorem startsWith_substring
    (text pattern : String)
    (start : Int32) :
    (apply .substring [.string text, .int32 start] >>= fun rest =>
        apply .startsWith [rest, .string pattern]) =
      .ok (.bool (pattern.toList.isPrefixOf (text.toList.drop start.toInt.toNat))) := by
  show Except.ok (Value.bool (pattern.toList.isPrefixOf
    (String.ofList (partFrom start.toInt text.toList)).toList)) = _
  rw [String.toList_ofList, partFrom]

/-- The parts before and after a position make up the text. -/
theorem concat_substrings
    (text : String)
    (start : Int32) :
    (do
      let before ← apply .substring [.string text, .int32 0, .int32 start]
      let after ← apply .substring [.string text, .int32 start]
      apply .concat [before, after]) = .ok (.string text) := by
  have joined : part 0 start.toInt text.toList ++ partFrom start.toInt text.toList =
      text.toList := List.take_append_drop _ _
  show Except.ok (Value.string (String.ofList (part 0 start.toInt text.toList)
    ++ String.ofList (partFrom start.toInt text.toList))) = _
  rw [← String.ofList_append, joined, String.ofList_toList]

/-- A position that the search answers, minus one where the pattern does not occur, and what
the other functions say of it. -/
structure SearchAgrees
    (text pattern : String)
    (position : Int32) : Prop where
  indexOf : apply .indexOf [.string text, .string pattern] = .ok (.int32 position)
  contains : apply .contains [.string text, .string pattern] = .ok (.bool (position != -1))
  startsWith : apply .startsWith [.string text, .string pattern] = .ok (.bool (position == 0))
  inside : position ≠ -1 → 0 ≤ position
  begins : position ≠ -1 →
    (apply .substring [.string text, .int32 position] >>= fun rest =>
      apply .startsWith [rest, .string pattern]) = .ok (.bool true)
  whole : position ≠ -1 →
    (apply .length [.string pattern] >>= fun length =>
      apply .substring [.string text, .int32 position, length]) = .ok (.string pattern)
  first : ∀ earlier : Int32, 0 ≤ earlier → earlier < position →
    (apply .substring [.string text, .int32 earlier] >>= fun rest =>
      apply .startsWith [rest, .string pattern]) = .ok (.bool false)

private theorem searchAgrees_of_none
    (missing : position? pattern.toList text.toList = none) : SearchAgrees text pattern (-1) where
  indexOf := apply_indexOf_of_none missing
  contains := by
    rw [apply, occursIn_eq_isSome, missing]
    rfl
  startsWith := by
    rw [apply, isPrefixOf_eq_position?, missing]
    rfl
  inside absurd := (absurd rfl).elim
  begins absurd := (absurd rfl).elim
  whole absurd := (absurd rfl).elim
  first earlier nonnegative before :=
    absurd (Int32.lt_of_le_of_lt nonnegative before) (by decide)

private theorem searchAgrees_of_some
    (indexable : Indexable text)
    (patternIndexable : Indexable pattern)
    (found : position? pattern.toList text.toList = some position) :
    SearchAgrees text pattern (Int32.ofNat position) := by
  obtain ⟨inside, isThere, isFirst⟩ := position?_eq_some_iff.mp found
  have exact := toInt_position indexable inside
  have patternLength := toInt_position patternIndexable (Nat.le_refl _)
  have nonnegative : 0 ≤ Int32.ofNat position := by
    rw [Int32.le_iff_toInt_le, exact]
    exact Int.natCast_nonneg position
  have notMissing : Int32.ofNat position ≠ -1 := by
    intro missing
    rw [missing] at nonnegative
    exact absurd nonnegative (by decide)
  have atStart : (Int32.ofNat position == 0) = (some position == some 0) := by
    rw [Bool.eq_iff_iff, beq_iff_eq, beq_iff_eq, ← Int32.toInt_inj, exact, Option.some_inj]
    exact Int.natCast_eq_zero
  constructor
  case indexOf => exact apply_indexOf_of_some indexable found
  case contains =>
    rw [apply, occursIn_eq_isSome, found, bne_iff_ne.mpr notMissing]
    rfl
  case startsWith => rw [apply, isPrefixOf_eq_position?, found, atStart]
  case inside => exact fun _ => nonnegative
  case begins =>
    intro _
    rw [startsWith_substring, exact, Int.toNat_natCast, List.isPrefixOf_iff_prefix.mpr isThere]
  case whole =>
    intro _
    rw [apply_length patternIndexable, ok_bind, apply, part, exact, patternLength,
      Int.toNat_natCast, Int.toNat_natCast, take_drop_of_position? found, String.ofList_toList]
  case first =>
    intro earlier nonnegative before
    rw [Int32.lt_iff_toInt_lt, exact] at before
    rw [Int32.le_iff_toInt_le, Int32.toInt_zero] at nonnegative
    have notThere := isFirst earlier.toInt.toNat (by omega)
    rw [startsWith_substring,
      Bool.eq_false_iff.mpr (mt List.isPrefixOf_iff_prefix.mp notThere)]

/-- A text ends with a pattern if it is as long and its part from there on is the pattern. -/
theorem endsWith_iff
    (indexable : Indexable text)
    (patternIndexable : Indexable pattern) :
    pattern.toList.isSuffixOf text.toList = true ↔
      Int32.ofNat pattern.toList.length ≤ Int32.ofNat text.toList.length
        ∧ apply .substring [.string text,
            .int32 (Int32.ofNat text.toList.length - Int32.ofNat pattern.toList.length)] =
          .ok (.string pattern) := by
  have length := toInt_position indexable (Nat.le_refl _)
  have patternLength := toInt_position patternIndexable (Nat.le_refl _)
  rw [isSuffixOf_iff, Int32.le_iff_toInt_le, length, patternLength, Int.ofNat_le]
  refine and_congr_right fun longEnough => ?_
  have left : (Int32.ofNat text.toList.length - Int32.ofNat pattern.toList.length).toInt.toNat =
      text.toList.length - pattern.toList.length := by
    rw [← Int32.ofNat_sub _ _ longEnough, toInt_position indexable (Nat.sub_le _ _),
      Int.toNat_natCast]
  rw [apply, partFrom, left]
  simp [← String.toList_inj]

/-- The functions on texts agree on positions, for texts whose lengths fit 32 bits and all
positions that do, before the text and past its end included. -/
theorem texts_agree_on_positions
    {text pattern : String}
    (indexable : Indexable text)
    (patternIndexable : Indexable pattern) :
    (∃ position, SearchAgrees text pattern position)
      ∧ (∃ (ends : Bool) (length patternLength : Int32),
        apply .endsWith [.string text, .string pattern] = .ok (.bool ends)
          ∧ apply .length [.string text] = .ok (.int32 length)
          ∧ apply .length [.string pattern] = .ok (.int32 patternLength)
          ∧ (ends = true ↔
            patternLength ≤ length
              ∧ apply .substring [.string text, .int32 (length - patternLength)] =
                .ok (.string pattern)))
      ∧ (∀ start : Int32,
        (do
          let before ← apply .substring [.string text, .int32 0, .int32 start]
          let after ← apply .substring [.string text, .int32 start]
          apply .concat [before, after]) = .ok (.string text))
      ∧ ∀ start count : Int32, ∃ rest : String,
        apply .substring [.string text, .int32 start] = .ok (.string rest)
          ∧ apply .substring [.string text, .int32 start, .int32 count] =
            .ok (.string (String.ofList (rest.toList.take (max count.toInt 0).toNat))) := by
  refine ⟨?search, ?ends, concat_substrings text, ?cut⟩
  case search =>
    cases found : position? pattern.toList text.toList with
    | none => exact ⟨-1, searchAgrees_of_none found⟩
    | some position => exact ⟨_, searchAgrees_of_some indexable patternIndexable found⟩
  case ends =>
    exact ⟨_, _, _, rfl, apply_length indexable, apply_length patternIndexable,
      endsWith_iff indexable patternIndexable⟩
  case cut =>
    intro start count
    have most : (max count.toInt 0).toNat = count.toInt.toNat := by omega
    refine ⟨String.ofList (partFrom start.toInt text.toList), rfl, ?_⟩
    rw [String.toList_ofList, partFrom, most]
    rfl

/-- The pattern is begun twice in the text and is found where it is complete. -/
theorem texts_agree_on_positions_overlapping :
    Indexable "éèéèè"
      ∧ Indexable "éèè"
      ∧ SearchAgrees "éèéèè" "éèè" 2 := by
  have indexable : Indexable "éèéèè" := by
    rw [Indexable]
    decide +kernel
  have patternIndexable : Indexable "éèè" := by
    rw [Indexable]
    decide +kernel
  have found : apply .indexOf [.string "éèéèè", .string "éèè"] = .ok (.int32 2) := rfl
  obtain ⟨⟨position, agrees⟩, -⟩ := texts_agree_on_positions indexable patternIndexable
  have isPosition := agrees.indexOf
  rw [found] at isPosition
  obtain rfl := Value.int32.inj (Except.ok.inj isPosition)
  exact ⟨indexable, patternIndexable, agrees⟩

end Function

end ClauseBinding
