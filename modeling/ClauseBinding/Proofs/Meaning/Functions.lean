import Mathlib.Data.List.DropRight
import Mathlib.Data.List.Infix
import ClauseBinding.Evaluation.Call
import ClauseBinding.Proofs.Meaning.Tables
import ClauseBinding.Proofs.Evaluation.Operations
import ClauseBinding.Proofs.Text.Positions

/-!
Contract: what functions mean on present values, by a table of their own.

Owns:
- the table, in which searches ask where a text begins with a pattern, and the parts of
  dates and clocks are read off the day and the second of the day;
- that the functions that clauses call follow it, on arguments of the types of an overload.

Does not own: the choice of an overload, the case of characters and the rounding of floating
numbers, which have no other description than their own.
-/

namespace ClauseBinding

open ClauseBinding.Number
open ClauseBinding.Text

/-- The first position from which a text begins with a pattern. -/
def Text.firstPosition?
    (pattern text : List Char) : Option Nat :=
  (List.range (text.length + 1)).find? fun position => pattern <+: text.drop position

/-- A number of characters, if 32 bits hold it. -/
def Value.characterCount (count : Nat) : Except Failure Value :=
  if Width.whole32.Holds count then .ok (Width.whole32.value count)
  else .error (.evaluation (.lengthTooLarge count))

def Function.onPresent : Function → List Value → Except Failure Value
  | .contains, [.string text, .string pattern] => .ok (.bool (pattern.toList <:+: text.toList))
  | .startsWith, [.string text, .string pattern] => .ok (.bool (pattern.toList <+: text.toList))
  | .endsWith, [.string text, .string pattern] => .ok (.bool (pattern.toList <:+ text.toList))
  | .length, [.string text] => Value.characterCount text.length
  | .indexOf, [.string text, .string pattern] =>
      match firstPosition? pattern.toList text.toList with
      | some position => Value.characterCount position
      | none => .ok (.int32 (-1))
  | .substring, [.string text, .int32 start] =>
      .ok (.string (String.ofList (text.toList.drop start.toInt.toNat)))
  | .substring, [.string text, .int32 start, .int32 count] =>
      .ok (.string (String.ofList ((text.toList.drop start.toInt.toNat).take count.toInt.toNat)))
  | .toLower, [.string text] => .ok (.string (String.ofList (lower text.toList)))
  | .toUpper, [.string text] => .ok (.string (String.ofList (upper text.toList)))
  | .trim, [.string text] =>
      .ok (.string (String.ofList ((text.toList.dropWhile isBlank).rdropWhile isBlank)))
  | .concat, [.string left, .string right] =>
      .ok (.string (String.ofList (left.toList ++ right.toList)))
  | .year, [.date dated] | .year, [.moment ⟨dated, _, _, _, _⟩] =>
      .ok (Width.whole32.value dated.year)
  | .month, [.date dated] | .month, [.moment ⟨dated, _, _, _, _⟩] =>
      .ok (Width.whole32.value dated.month)
  | .day, [.date dated] | .day, [.moment ⟨dated, _, _, _, _⟩] =>
      .ok (Width.whole32.value dated.day)
  | .hour, [.moment ⟨_, clock, _, _, _⟩] => .ok (Width.whole32.value (clock.val / 3600 : Nat))
  | .minute, [.moment ⟨_, clock, _, _, _⟩] =>
      .ok (Width.whole32.value (clock.val % 3600 / 60 : Nat))
  | .second, [.moment ⟨_, clock, _, _, _⟩] => .ok (Width.whole32.value (clock.val % 60 : Nat))
  | .date, [.moment ⟨dated, _, _, _, _⟩] => .ok (.date dated)
  | .round, [.float64 number] => .ok (.float64 (Double.mapFinite Dyadic.roundEven number))
  | .round, [.float32 number] => .ok (.float32 (Single.mapFinite Dyadic.roundEven number))
  | .floor, [.float64 number] => .ok (.float64 (Double.mapFinite Dyadic.floor number))
  | .floor, [.float32 number] => .ok (.float32 (Single.mapFinite Dyadic.floor number))
  | .ceiling, [.float64 number] => .ok (.float64 (Double.mapFinite Dyadic.ceiling number))
  | .ceiling, [.float32 number] => .ok (.float32 (Single.mapFinite Dyadic.ceiling number))
  | function, values => .error (.evaluation (.notAccepted function values))

/-! ## Searches -/

namespace Text

variable {pattern text : List Char}

private theorem position?_eq_firstPosition? (pattern text : List Char) :
    position? pattern text = firstPosition? pattern text := by
  apply Option.ext
  intro position
  rw [position?_eq_some_iff, firstPosition?, List.find?_range_eq_some]
  simp only [decide_eq_true_eq, List.mem_range, Nat.lt_succ_iff, Bool.not_eq_true',
    decide_eq_false_iff_not]
  exact ⟨fun ⟨inside, isThere, isFirst⟩ => ⟨isThere, inside, isFirst⟩,
    fun ⟨isThere, inside, isFirst⟩ => ⟨inside, isThere, isFirst⟩⟩

private theorem occursIn_eq_decide (pattern text : List Char) :
    occursIn pattern text = decide (pattern <:+: text) := by
  induction text with
  | nil => cases pattern <;> simp [occursIn]
  | cons c rest inductionHypothesis =>
      rw [occursIn, inductionHypothesis, Bool.eq_iff_iff]
      simp only [Bool.or_eq_true, List.isPrefixOf_iff_prefix, decide_eq_true_eq,
        List.infix_cons_iff]

end Text

/-! ## Numbers of characters -/

namespace Value

private theorem ofLength_eq_characterCount (length : Nat) :
    ofLength length = characterCount length := by
  have sameBound : length ≤ Int32.maxValue.toInt.toNat ↔ Width.whole32.Holds length := by
    have most : Int32.maxValue.toInt.toNat = 2147483647 := rfl
    rw [Width.whole32_holds_iff]
    omega
  simp only [ofLength, characterCount, sameBound]
  rfl

end Value

namespace Function

variable {arguments : List Value} {signature : Signature}

private theorem two_texts (typed : arguments.map Value.dataType? = [some .string, some .string]) :
    ∃ first second, arguments = [.string first, .string second] := by
  obtain ⟨_, _, rfl, ⟨first, rfl⟩, last⟩ := next_argument typed
  obtain ⟨_, rfl, ⟨second, rfl⟩⟩ := one_argument last
  exact ⟨first, second, rfl⟩

/-- On arguments of the types of an overload a function is what the table says. -/
theorem apply_eq_onPresent
    (function : Function)
    (overload : signature ∈ function.signatures)
    (typed : arguments.map Value.dataType? = signature.parameters.map some) :
    function.apply arguments = function.onPresent arguments := by
  cases function with
  | contains =>
      obtain rfl := List.mem_singleton.mp overload
      obtain ⟨text, pattern, rfl⟩ := two_texts typed
      exact congrArg (Except.ok ∘ Value.bool) (occursIn_eq_decide _ _)
  | startsWith =>
      obtain rfl := List.mem_singleton.mp overload
      obtain ⟨text, pattern, rfl⟩ := two_texts typed
      exact congrArg (Except.ok ∘ Value.bool)
        (Bool.eq_iff_iff.mpr (List.isPrefixOf_iff_prefix.trans decide_eq_true_iff.symm))
  | endsWith =>
      obtain rfl := List.mem_singleton.mp overload
      obtain ⟨text, pattern, rfl⟩ := two_texts typed
      exact congrArg (Except.ok ∘ Value.bool)
        (Bool.eq_iff_iff.mpr (List.isSuffixOf_iff_suffix.trans decide_eq_true_iff.symm))
  | indexOf =>
      obtain rfl := List.mem_singleton.mp overload
      obtain ⟨text, pattern, rfl⟩ := two_texts typed
      cases found : firstPosition? pattern.toList text.toList <;>
        simp only [apply, onPresent, position?_eq_firstPosition?, found,
          Value.ofLength_eq_characterCount]
  | concat =>
      obtain rfl := List.mem_singleton.mp overload
      obtain ⟨left, right, rfl⟩ := two_texts typed
      simp only [apply, onPresent, String.ofList_append, String.ofList_toList]
  | length =>
      obtain rfl := List.mem_singleton.mp overload
      obtain ⟨_, rfl, ⟨text, rfl⟩⟩ := one_argument typed
      exact Value.ofLength_eq_characterCount _
  | substring =>
      rcases List.mem_cons.mp overload with rfl | overload
      · obtain ⟨_, _, rfl, ⟨text, rfl⟩, last⟩ := next_argument typed
        obtain ⟨_, rfl, ⟨start, rfl⟩⟩ := one_argument last
        rfl
      · obtain rfl := List.mem_singleton.mp overload
        obtain ⟨_, _, rfl, ⟨text, rfl⟩, others⟩ := next_argument typed
        obtain ⟨_, _, rfl, ⟨start, rfl⟩, last⟩ := next_argument others
        obtain ⟨_, rfl, ⟨count, rfl⟩⟩ := one_argument last
        rfl
  | minute =>
      obtain rfl := List.mem_singleton.mp overload
      obtain ⟨_, rfl, ⟨moment, rfl⟩⟩ := one_argument typed
      have sameMinute : moment.second.val / 60 % 60 = moment.second.val % 3600 / 60 := by omega
      simp only [apply, onPresent, Calendar.Moment.minute, sameMinute]
      rfl
  | toLower | toUpper | trim | hour | second | date =>
      obtain rfl := List.mem_singleton.mp overload
      obtain ⟨_, rfl, ⟨value, rfl⟩⟩ := one_argument typed
      rfl
  | year | month | day | round | floor | ceiling =>
      rcases List.mem_cons.mp overload with rfl | overload
      · obtain ⟨_, rfl, ⟨value, rfl⟩⟩ := one_argument typed
        rfl
      · obtain rfl := List.mem_singleton.mp overload
        obtain ⟨_, rfl, ⟨value, rfl⟩⟩ := one_argument typed
        rfl

end Function

end ClauseBinding
