import ClauseBinding.Proofs.Data.Table
import ClauseBinding.Proofs.Schema.Definition
import ClauseBinding.Proofs.Text.Listed
import Mathlib.Data.List.Induction

/-!
Contract: the numbers that an enumeration of flags gives to lists of names.

Owns:
- numbers combined by their binary digits, whatever their order and repetition;
- tests of a value for combined flags, which are tests for each of them;
- the number of a text that lists names, and that there is none beside an unknown name.

Does not own: clauses that test for flags.
-/

namespace ClauseBinding

open ClauseBinding.Text

namespace EnumerationType

def combined (numbers : List Int64) : Int64 :=
  numbers.foldl (· ||| ·) 0

variable {numbers left right : List Int64}

theorem combined_singleton (number : Int64) : combined [number] = number :=
  Int64.zero_or

theorem combined_append (number : Int64) :
    combined (numbers ++ [number]) = combined numbers ||| number := by
  rw [combined, List.foldl_append]
  rfl

/-- A digit is set in the combination if one of the numbers sets it. -/
theorem digit_combined
    (numbers : List Int64)
    (place : Nat) :
    (combined numbers).toBitVec.getLsbD place =
      numbers.any (·.toBitVec.getLsbD place) := by
  induction numbers using List.reverseRecOn with
  | nil => simp [combined]
  | append_singleton numbers last inductionHypothesis =>
      rw [combined_append, Int64.toBitVec_or, BitVec.getLsbD_or, inductionHypothesis,
        List.any_append, List.any_cons, List.any_nil, Bool.or_false]

/-- Only which numbers are combined matters, not how often and in which order. -/
theorem combined_of_same (same : ∀ number, number ∈ left ↔ number ∈ right) :
    combined left = combined right := by
  apply Int64.toBitVec_inj.mp
  apply BitVec.eq_of_getLsbD_eq
  intro place _
  rw [digit_combined, digit_combined, Bool.eq_iff_iff, List.any_eq_true, List.any_eq_true]
  simp only [same]

/-- A value has the flags of both numbers exactly if it has those of each. -/
theorem masked_or (value left right : Int64) :
    (value &&& (left ||| right) == left ||| right) =
      ((value &&& left == left) && (value &&& right == right)) := by
  rw [Bool.eq_iff_iff, Bool.and_eq_true]
  simp only [beq_iff_eq, ← Int64.toBitVec_inj, Int64.toBitVec_and, Int64.toBitVec_or]
  simp only [BitVec.eq_of_getLsbD_eq_iff, BitVec.getLsbD_and, BitVec.getLsbD_or]
  constructor
  · intro both
    refine ⟨fun place inside => ?_, fun place inside => ?_⟩ <;>
      grind [both place inside]
  · rintro ⟨hasLeft, hasRight⟩ place inside
    grind [hasLeft place inside, hasRight place inside]

/-! ## Listed names -/

def numberOf
    (type : EnumerationType)
    (name : String) : Int64 :=
  (type.memberValue? name).getD 0

variable {type : EnumerationType} {text : String} {names : List String}

private theorem memberValue?_of_known
    {name : String}
    (known : type.memberValue? name ≠ none) :
    type.memberValue? name = some (type.numberOf name) := by
  rw [numberOf]
  cases found : type.memberValue? name with
  | none => exact absurd found known
  | some number => rfl

/-- The fold over names with numbers combines these, after the number it starts with. -/
theorem foldlM_memberValue?
    (known : ∀ name ∈ names, type.memberValue? name ≠ none)
    (flags : Int64) :
    names.foldlM (fun flags name => (type.memberValue? name).map (flags ||| ·)) flags =
      some ((names.map type.numberOf).foldl (· ||| ·) flags) := by
  induction names generalizing flags with
  | nil => rfl
  | cons name rest inductionHypothesis =>
      obtain ⟨isKnown, restKnown⟩ := List.forall_mem_cons.mp known
      rw [List.foldlM_cons, memberValue?_of_known isKnown]
      exact inductionHypothesis restKnown (flags ||| type.numberOf name)

/-- The fold gives up at a name without a number. -/
theorem foldlM_memberValue?_of_unknown
    (unknown : ∃ name ∈ names, type.memberValue? name = none)
    (flags : Int64) :
    names.foldlM (fun flags name => (type.memberValue? name).map (flags ||| ·)) flags = none := by
  induction names generalizing flags with
  | nil =>
      obtain ⟨_, absurd, -⟩ := unknown
      cases absurd
  | cons name rest inductionHypothesis =>
      rw [List.foldlM_cons]
      cases found : type.memberValue? name with
      | none => rfl
      | some number =>
          obtain ⟨other, member, isUnknown⟩ := unknown
          have inRest : other ∈ rest := by
            rcases List.mem_cons.mp member with rfl | isLater
            · rw [found] at isUnknown
              cases isUnknown
            · exact isLater
          exact inductionHypothesis ⟨other, inRest, isUnknown⟩ (flags ||| number)

/-- A text without a comma is a name. -/
theorem valueOf?_of_no_comma (noComma : ',' ∉ text.toList) :
    type.valueOf? text = type.memberValue? text := by
  rw [valueOf?, List.contains_eq_mem, decide_eq_false noComma, Bool.and_false]
  rfl

/-- For flags, a text with a comma is looked up name by name. -/
theorem valueOf?_of_comma
    (flags : type.isFlags = true)
    (comma : ',' ∈ text.toList) :
    type.valueOf? text =
      (listedNames text).foldlM
        (fun flags name => (type.memberValue? name).map (flags ||| ·)) 0 := by
  rw [valueOf?, flags, List.contains_eq_mem, decide_eq_true comma, listedNames, List.foldlM_map]
  rfl

/-- Beside a part that is no name, a text with a comma has no number. -/
theorem valueOf?_of_unknown
    (flags : type.isFlags = true)
    (comma : ',' ∈ text.toList)
    (unknown : ∃ part ∈ fields ',' text.toList,
      type.memberValue? (String.ofList (trim part)) = none) :
    type.valueOf? text = none := by
  obtain ⟨part, isField, isUnknown⟩ := unknown
  rw [valueOf?_of_comma flags comma]
  exact foldlM_memberValue?_of_unknown ⟨_, List.mem_map_of_mem isField, isUnknown⟩ 0

section Lists

variable
  (flags : type.isFlags = true)
  (several : 2 ≤ names.length)
  (listable : ∀ name ∈ names, Listable name)
  (lists : Lists text names)
include flags several listable lists

private theorem valueOf?_of_lists :
    type.valueOf? text =
      names.foldlM (fun flags name => (type.memberValue? name).map (flags ||| ·)) 0 := by
  rw [valueOf?_of_comma flags (comma_mem_of_lists several lists),
    listedNames_of_lists listable (List.ne_nil_of_length_pos (by omega)) lists]

/-- A text that lists several names has the combination of their numbers. -/
theorem valueOf?_of_known
    (known : ∀ name ∈ names, type.memberValue? name ≠ none) :
    type.valueOf? text = some (combined (names.map type.numberOf)) := by
  rw [valueOf?_of_lists flags several listable lists]
  exact foldlM_memberValue? known 0

end Lists

/-- A text that lists the names of some entries has the combination of their numbers. -/
theorem valueOf?_of_entries
    {entries : List (String × Int64)}
    (flags : type.isFlags = true)
    (several : 2 ≤ entries.length)
    (entered : ∀ entry ∈ entries, type.memberValue? entry.1 = some entry.2 ∧ Listable entry.1)
    (lists : Lists text (entries.map Prod.fst)) :
    type.valueOf? text = some (combined (entries.map Prod.snd)) := by
  have severalNames : 2 ≤ (entries.map Prod.fst).length := by rwa [List.length_map]
  have listable : ∀ name ∈ entries.map Prod.fst, Listable name :=
    List.forall_mem_map.mpr fun entry member => (entered entry member).2
  have known : ∀ name ∈ entries.map Prod.fst, type.memberValue? name ≠ none := by
    rw [List.forall_mem_map]
    intro entry member
    rw [(entered entry member).1]
    exact Option.some_ne_none _
  have numbers : (entries.map Prod.fst).map type.numberOf = entries.map Prod.snd := by
    rw [List.map_map]
    apply List.map_congr_left
    intro entry member
    change type.numberOf entry.1 = entry.2
    rw [numberOf, (entered entry member).1, Option.getD_some]
  rw [valueOf?_of_known flags severalNames listable lists known, numbers]

/-- Texts that list the same names have the same number, whatever the order, repetition and
spacing of the names. -/
theorem valueOf?_of_same
    {other : String}
    {otherNames : List String}
    (flags : type.isFlags = true)
    (several : 2 ≤ names.length ∧ 2 ≤ otherNames.length)
    (listable : ∀ name ∈ names, Listable name)
    (lists : Lists text names)
    (otherLists : Lists other otherNames)
    (same : ∀ name, name ∈ names ↔ name ∈ otherNames) :
    type.valueOf? text = type.valueOf? other := by
  have otherListable : ∀ name ∈ otherNames, Listable name := fun name member =>
    listable name ((same name).mpr member)
  by_cases unknown : ∃ name ∈ names, type.memberValue? name = none
  case pos =>
    have otherUnknown : ∃ name ∈ otherNames, type.memberValue? name = none := by
      simpa only [same] using unknown
    rw [valueOf?_of_lists flags several.1 listable lists,
      valueOf?_of_lists flags several.2 otherListable otherLists,
      foldlM_memberValue?_of_unknown unknown, foldlM_memberValue?_of_unknown otherUnknown]
  case neg =>
    have known : ∀ name ∈ names, type.memberValue? name ≠ none := fun name member isUnknown =>
      unknown ⟨name, member, isUnknown⟩
    have otherKnown : ∀ name ∈ otherNames, type.memberValue? name ≠ none := fun name member =>
      known name ((same name).mpr member)
    rw [valueOf?_of_known flags several.1 listable lists known,
      valueOf?_of_known flags several.2 otherListable otherLists otherKnown]
    congr 1
    apply combined_of_same
    simp only [List.mem_map, same, implies_true]

end EnumerationType

end ClauseBinding
