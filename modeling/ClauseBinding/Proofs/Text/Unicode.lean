import Mathlib.Data.String.Basic
import Mathlib.Order.Compare

/-!
Contract: the order of texts.

Owns:
- the code points of a text, and its bytes in UTF-8;
- that texts are in the order of their code points, and alike in that of their bytes.

Does not own: lengths and positions, which are counted in characters.

The bytes of a character are digits of its code point to base 64, the first of them raised by
as much as tells how many there are. So bytes of one length are in the order of the code
points, and longer ones, which code points of more digits take, come later.
-/

namespace ClauseBinding.Text

def codePoints (text : String) : List Nat := text.toList.map Char.toNat

/-- The bytes of a text in UTF-8. -/
def bytes (text : String) : List UInt8 := text.toUTF8.data.toList

private theorem bytes_eq_flatMap (text : String) :
    bytes text = text.toList.flatMap String.utf8EncodeChar := by
  calc bytes text
      = (text.toList.utf8Encode).data.toList := by rw [String.utf8Encode_toList]; rfl
    _ = text.toList.flatMap String.utf8EncodeChar := List.toList_data_toByteArray

/-! ## Characters -/

/-- Numbers up to a bound are written in order, whatever comes behind them. -/
def Ascending
    (write : Nat → List UInt8)
    (bound : Nat) : Prop :=
  ∀ left right, left < right → right < bound →
    ∀ leftRest rightRest, write left ++ leftRest < write right ++ rightRest

/-- Bytes are in order if the first of them are. -/
theorem cons_lt_of_first
    {left right : Nat}
    (less : left % 256 < right % 256)
    (leftRest rightRest : List UInt8) :
    UInt8.ofNat left :: leftRest < UInt8.ofNat right :: rightRest :=
  List.Lex.rel (UInt8.lt_iff_toNat_lt.mpr (by rwa [UInt8.toNat_ofNat', UInt8.toNat_ofNat']))

/-- A first byte writes the digits that it has room for. -/
theorem ascending_lead
    {lead bound : Nat}
    (room : bound + lead ≤ 256) :
    Ascending (fun code => [UInt8.ofNat (code % bound + lead)]) bound := by
  intro left right less within leftRest rightRest
  refine cons_lt_of_first ?_ leftRest rightRest
  rw [Nat.mod_eq_of_lt within, Nat.mod_eq_of_lt (Nat.lt_trans less within)]
  omega

/-- A byte that continues a character writes one more digit to base 64. -/
theorem Ascending.continued
    {write : Nat → List UInt8}
    {bound : Nat}
    (ascending : Ascending write bound) :
    Ascending (fun code => write (code / 64) ++ [UInt8.ofNat (code % 64 + 128)])
      (bound * 64) := by
  intro left right less within leftRest rightRest
  simp only [List.append_assoc, List.singleton_append]
  rcases Nat.lt_or_eq_of_le (Nat.div_le_div_right (Nat.le_of_lt less)) with higher | same
  · exact ascending _ _ higher (by omega) _ _
  · rw [same]
    exact List.Lex.append_left _ (cons_lt_of_first (by omega) leftRest rightRest) _

/-- Above some code point more bytes may be written, if they come later. -/
theorem Ascending.orLonger
    {short long : Nat → List UInt8}
    {last bound : Nat}
    (shortAscending : Ascending short (last + 1))
    (longAscending : Ascending long bound)
    (later : ∀ left right, left ≤ last → last < right → right < bound →
      ∀ leftRest rightRest, short left ++ leftRest < long right ++ rightRest) :
    Ascending (fun code => if code ≤ last then short code else long code) bound := by
  intro left right less within leftRest rightRest
  by_cases rightShort : right ≤ last
  · have leftShort : left ≤ last := Nat.le_trans (Nat.le_of_lt less) rightShort
    simp only [if_pos leftShort, if_pos rightShort]
    exact shortAscending left right less (Nat.lt_succ_of_le rightShort) leftRest rightRest
  · by_cases leftShort : left ≤ last
    · simp only [if_pos leftShort, if_neg rightShort]
      exact later left right leftShort (Nat.lt_of_not_le rightShort) within leftRest rightRest
    · simp only [if_neg leftShort, if_neg rightShort]
      exact longAscending left right less within leftRest rightRest

private theorem ascending_oneByte : Ascending (fun code => [UInt8.ofNat code]) 128 := by
  intro left right less within leftRest rightRest
  exact cons_lt_of_first (by omega) leftRest rightRest

private theorem ascending_twoBytes :
    Ascending (fun code => [UInt8.ofNat (code / 64 % 32 + 192), UInt8.ofNat (code % 64 + 128)])
      2048 :=
  (@ascending_lead 192 32 (by decide)).continued

private theorem ascending_threeBytes :
    Ascending (fun code => [UInt8.ofNat (code / 4096 % 16 + 224),
      UInt8.ofNat (code / 64 % 64 + 128), UInt8.ofNat (code % 64 + 128)]) 65536 := by
  have ascending := (@ascending_lead 224 16 (by decide)).continued.continued
  simp only [Nat.div_div_eq_div_mul] at ascending
  exact ascending

private theorem ascending_fourBytes :
    Ascending (fun code => [UInt8.ofNat (code / 262144 % 8 + 240),
      UInt8.ofNat (code / 4096 % 64 + 128), UInt8.ofNat (code / 64 % 64 + 128),
      UInt8.ofNat (code % 64 + 128)]) 2097152 := by
  have ascending := (@ascending_lead 240 8 (by decide)).continued.continued.continued
  simp only [Nat.div_div_eq_div_mul] at ascending
  exact ascending

/-- The bytes of a character tell its place among the others. -/
theorem utf8EncodeChar_lt
    {left right : Char}
    (less : left < right)
    (leftRest rightRest : List UInt8) :
    String.utf8EncodeChar left ++ leftRest < String.utf8EncodeChar right ++ rightRest := by
  have within : right.toNat < 2097152 := by
    rcases right.valid with low | ⟨-, high⟩ <;> unfold Char.toNat <;> omega
  have longest := ascending_threeBytes.orLonger ascending_fourBytes ?fourLater
  have longer := ascending_twoBytes.orLonger longest ?threeLater
  have all := ascending_oneByte.orLonger longer ?twoLater
  -- The first byte is below 128, or from 192, 224 or 240 on, by the number of bytes.
  case fourLater =>
    intro left right leftShort rightLong within leftRest rightRest
    exact cons_lt_of_first (by omega) _ _
  case threeLater | twoLater =>
    intro left right leftShort rightLong within leftRest rightRest
    split_ifs <;> exact cons_lt_of_first (by omega) _ _
  exact all left.toNat right.toNat less within leftRest rightRest

/-! ## Texts -/

variable {left right : String}

private theorem codePoints_lt (less : left < right) : codePoints left < codePoints right := by
  replace less : left.toList < right.toList := less
  unfold codePoints
  generalize left.toList = lefts, right.toList = rights at less
  induction less with
  | nil => exact .nil
  | rel less => exact .rel less
  | cons _ inductionHypothesis => exact .cons inductionHypothesis

private theorem bytes_lt (less : left < right) : bytes left < bytes right := by
  replace less : left.toList < right.toList := less
  rw [bytes_eq_flatMap, bytes_eq_flatMap]
  generalize left.toList = lefts, right.toList = rights at less
  induction less with
  | @nil c rest =>
      obtain ⟨first, others, written⟩ :=
        List.exists_cons_of_ne_nil (@String.utf8EncodeChar_ne_nil c)
      rw [List.flatMap_cons, written]
      exact .nil
  | rel less =>
      exact utf8EncodeChar_lt less _ _
  | cons _ inductionHypothesis =>
      exact List.Lex.append_left _ inductionHypothesis _

/-- An order that the order of texts entails is the order of texts. -/
theorem compare_eq_lt_iff_of_lt
    {α : Type}
    [LT α]
    [Std.Asymm (fun left right : α => left < right)]
    {units : String → List α}
    (entailed : ∀ {left right : String}, left < right → units left < units right) :
    compare left right = .lt ↔ units left < units right := by
  rw [compare_lt_iff_lt]
  refine ⟨entailed, fun less => ?_⟩
  rcases lt_trichotomy left right with before | rfl | after
  · exact before
  · exact absurd less (List.lt_irrefl _)
  · exact absurd (entailed after) (List.lt_asymm less)

/-- Texts are in the order of their code points. -/
theorem compare_eq_lt_iff_codePoints :
    compare left right = .lt ↔ codePoints left < codePoints right :=
  compare_eq_lt_iff_of_lt codePoints_lt

/-- They are in the order of their bytes as well. -/
theorem compare_eq_lt_iff_bytes :
    compare left right = .lt ↔ bytes left < bytes right :=
  compare_eq_lt_iff_of_lt bytes_lt

end ClauseBinding.Text
