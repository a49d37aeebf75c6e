import ClauseBinding.Proofs.Laws.Comparison

/-!
Contract: the type that two operands have in common, under any table of conversions.

Owns:
- the entry of a table whose target is the first that both operands promote to;
- which type the common one is, and that there is one wherever both operands promote to
  some type.

Does not own: tables in which no two types promote to each other, or the operators that
work in the common type.

Only the operands themselves and the targets of implicit entries are tried. Nothing is lost
by that: a type that an operand promotes to is the operand itself, or the target of an entry.
-/

namespace ClauseBinding.ConversionTable

variable {table : ConversionTable} {left right target : DataType}

private theorem canPromote_iff :
    table.canPromote left target = true ↔ left = target ∨ ⟨left, target⟩ ∈ table.implicit := by
  simp [canPromote]

def Takes
    (table : ConversionTable)
    (left right target : DataType) : Prop :=
  table.canPromote left target = true ∧ table.canPromote right target = true

/-- A type is the target of the first implicit entry whose target takes both operands. -/
def FirstShared
    (table : ConversionTable)
    (left right target : DataType) : Prop :=
  ∃ before conversion after,
    table.implicit = before ++ conversion :: after
      ∧ conversion.target = target
      ∧ table.Takes left right target
      ∧ ∀ earlier ∈ before, ¬ table.Takes left right earlier.target

/-! ## The three stages of the search -/

private theorem commonType?_of_left_promotes (promotes : table.canPromote left right = true) :
    table.commonType? left right = some right := by
  by_cases same : left = right
  · rw [commonType?, if_pos same, same]
  · rw [commonType?, if_neg same, if_pos promotes]

private theorem commonType?_of_right_promotes
    (leftStays : ¬ table.canPromote left right = true)
    (promotes : table.canPromote right left = true) :
    table.commonType? left right = some left := by
  have apart : left ≠ right := by
    rintro rfl
    exact leftStays promotes
  rw [commonType?, if_neg apart, if_neg leftStays, if_pos promotes]

/-- Where neither operand promotes to the other, the targets of the entries are searched. -/
theorem commonType?_of_neither_promotes
    (leftStays : ¬ table.canPromote left right = true)
    (rightStays : ¬ table.canPromote right left = true) :
    table.commonType? left right = (table.implicit.map Conversion.target).find? fun target =>
      table.canPromote left target && table.canPromote right target := by
  have apart : left ≠ right := by
    rintro rfl
    exact leftStays (canPromote_refl left)
  rw [commonType?, if_neg apart, if_neg leftStays, if_neg rightStays]

private theorem commonType?_eq_some_iff_firstShared
    (leftStays : ¬ table.canPromote left right = true)
    (rightStays : ¬ table.canPromote right left = true) :
    table.commonType? left right = some target ↔ table.FirstShared left right target := by
  rw [commonType?_of_neither_promotes leftStays rightStays, List.find?_map,
    Option.map_eq_some_iff]
  simp only [List.find?_eq_some_iff_append, Function.comp_apply, Bool.and_eq_true,
    Bool.not_eq_true', Bool.and_eq_false_imp]
  constructor
  · rintro ⟨conversion, ⟨taken, before, after, split, refused⟩, rfl⟩
    refine ⟨before, conversion, after, split, rfl, taken, ?_⟩
    rintro earlier isEarlier ⟨leftPromotes, rightPromotes⟩
    exact Bool.eq_false_iff.mp (refused earlier isEarlier leftPromotes) rightPromotes
  · rintro ⟨before, conversion, after, split, rfl, taken, refused⟩
    refine ⟨conversion, ⟨taken, before, after, split, ?_⟩, rfl⟩
    intro earlier isEarlier leftPromotes
    exact Bool.eq_false_iff.mpr fun rightPromotes =>
      refused earlier isEarlier ⟨leftPromotes, rightPromotes⟩

/-- Where some type takes both operands, the search ends with one. -/
theorem isSome_commonType?_of_takes (taken : table.Takes left right target) :
    (table.commonType? left right).isSome = true := by
  by_cases leftPromotes : table.canPromote left right = true
  · rw [commonType?_of_left_promotes leftPromotes, Option.isSome_some]
  · by_cases rightPromotes : table.canPromote right left = true
    · rw [commonType?_of_right_promotes leftPromotes rightPromotes, Option.isSome_some]
    · -- The type is none of the operands, so it is the target of an entry for each.
      rcases canPromote_iff.mp taken.1 with rfl | entry
      · exact absurd taken.2 rightPromotes
      · have isTarget : target ∈ table.implicit.map Conversion.target :=
          List.mem_map.mpr ⟨_, entry, rfl⟩
        rw [commonType?_of_neither_promotes leftPromotes rightPromotes, List.find?_isSome]
        exact ⟨target, isTarget, Bool.and_eq_true_iff.mpr taken⟩

/-! ## The common type -/

/-- The common type of two operands, under any table. Both promote to it, and there is one
wherever both promote to some type. It is the type of the operands if they have the same,
else the one to which the other promotes, else the first target in the table that takes both.
Where no two types promote to each other, it does not matter which operand is on the left. -/
theorem commonType?_determined
    (table : ConversionTable)
    (left right : DataType) :
    (∀ target, table.commonType? left right = some target →
        table.canPromote left target = true ∧ table.canPromote right target = true)
      ∧ (∀ target, table.canPromote left target = true → table.canPromote right target = true →
        (table.commonType? left right).isSome = true)
      ∧ (left = right → table.commonType? left right = some left)
      ∧ (table.canPromote left right = true → table.commonType? left right = some right)
      ∧ (¬ table.canPromote left right = true → table.canPromote right left = true →
        table.commonType? left right = some left)
      ∧ (¬ table.canPromote left right = true → ¬ table.canPromote right left = true →
        ∀ target,
          table.commonType? left right = some target ↔ table.FirstShared left right target)
      ∧ (table.Antisymmetric → table.commonType? left right = table.commonType? right left) := by
  refine ⟨?sound, ?complete, ?same, ?leftFirst, ?rightNext, ?shared, ?symmetric⟩
  case sound => exact fun _ common => commonType?_spec common
  case complete =>
    exact fun _ leftPromotes rightPromotes =>
      isSome_commonType?_of_takes ⟨leftPromotes, rightPromotes⟩
  case same =>
    rintro rfl
    exact commonType?_of_left_promotes (canPromote_refl left)
  case leftFirst => exact commonType?_of_left_promotes
  case rightNext => exact commonType?_of_right_promotes
  case shared =>
    exact fun leftStays rightStays _ =>
      commonType?_eq_some_iff_firstShared leftStays rightStays
  case symmetric => exact fun antisymmetric => antisymmetric.commonType?_comm

/-- Whole numbers of either width become doubles, or else singles, but not each other. -/
def wholeToFloating : ConversionTable where
  implicit := [⟨.int32, .float64⟩, ⟨.int64, .float64⟩, ⟨.int32, .float32⟩, ⟨.int64, .float32⟩]
  explicit := []

/-- Whole numbers of both widths meet in doubles, which come first, whichever is on the left;
a whole number and a single meet in singles. -/
theorem commonType?_determined_wholeToFloating :
    wholeToFloating.Antisymmetric
      ∧ wholeToFloating.FirstShared .int32 .int64 .float64
      ∧ wholeToFloating.commonType? .int32 .int64 = some .float64
      ∧ wholeToFloating.commonType? .int64 .int32 = some .float64
      ∧ wholeToFloating.canPromote .int64 .float64 = true
      ∧ (wholeToFloating.commonType? .int64 .int32).isSome = true
      ∧ wholeToFloating.commonType? .int32 .float32 = some .float32
      ∧ wholeToFloating.commonType? .float32 .int32 = some .float32
      ∧ wholeToFloating.commonType? .string .string = some .string := by
  have antisymmetric : wholeToFloating.Antisymmetric := by decide
  have first : wholeToFloating.FirstShared .int32 .int64 .float64 :=
    ⟨[], ⟨.int32, .float64⟩, _, rfl, rfl, ⟨by decide, by decide⟩, nofun⟩
  obtain ⟨sound, _, _, _, _, shared, symmetric⟩ :=
    commonType?_determined wholeToFloating .int32 .int64
  obtain ⟨_, complete, _⟩ := commonType?_determined wholeToFloating .int64 .int32
  obtain ⟨_, _, _, leftFirst, _⟩ := commonType?_determined wholeToFloating .int32 .float32
  obtain ⟨_, _, _, _, rightNext, _⟩ := commonType?_determined wholeToFloating .float32 .int32
  obtain ⟨_, _, same, _⟩ := commonType?_determined wholeToFloating .string .string
  have found := (shared (by decide) (by decide) .float64).mpr first
  exact ⟨antisymmetric, first, found, (symmetric antisymmetric).symm.trans found,
    (sound _ found).2, complete .float64 (by decide) (by decide), leftFirst (by decide),
    rightNext (by decide) (by decide), same rfl⟩

end ClauseBinding.ConversionTable
