import ClauseBinding.Text.Blank
import ClauseBinding.Text.Fields
import Mathlib.Data.List.Forall2
import Mathlib.Data.List.TakeWhile

/-!
Contract: texts that list names between commas, with blanks around each name.

Owns:
- trimmed texts, and that they are what is left when the blanks around them are removed;
- that the fields of a text are its parts between separators, and join to the text again;
- the names that a text lists, which its fields show, and no others.

Does not own: what the names stand for.
-/

namespace ClauseBinding.Text

variable {text field before after : List Char} {separator : Char}

/-! ## Blanks -/

/-- A text that neither begins nor ends with a blank. -/
structure Trimmed (text : List Char) : Prop where
  first : ∀ c, text.head? = some c → isBlank c = false
  last : ∀ c, text.getLast? = some c → isBlank c = false

/-- A field that holds a text with blanks around it. -/
def Pads (field text : List Char) : Prop :=
  ∃ before after,
    (∀ c ∈ before, isBlank c = true)
      ∧ (∀ c ∈ after, isBlank c = true)
      ∧ field = before ++ text ++ after

private theorem trimLeft_append_of_blank (blank : ∀ c ∈ before, isBlank c = true) :
    trimLeft (before ++ text) = trimLeft text :=
  List.dropWhile_append_of_pos blank

theorem trimLeft_eq_self (noBlank : ∀ c, text.head? = some c → isBlank c = false) :
    trimLeft text = text := by
  cases text with
  | nil => rfl
  | cons c rest => simp [trimLeft, noBlank c rfl]

private theorem head?_trimLeft
    {c : Char}
    (first : (trimLeft text).head? = some c) : isBlank c = false := by
  have stops := List.head?_dropWhile_not isBlank text
  rw [trimLeft] at first
  rw [first] at stops
  exact stops

private theorem trimRight_append_of_blank (blank : ∀ c ∈ after, isBlank c = true) :
    trimRight (text ++ after) = trimRight text := by
  have blankReversed : ∀ c ∈ after.reverse, isBlank c = true := fun c member =>
    blank c (List.mem_reverse.mp member)
  rw [trimRight, trimRight, List.reverse_append, List.dropWhile_append_of_pos blankReversed]

private theorem trimRight_eq_self (noBlank : ∀ c, text.getLast? = some c → isBlank c = false) :
    trimRight text = text := by
  have reversed : trimLeft text.reverse = text.reverse := trimLeft_eq_self (by simpa using noBlank)
  rw [trimLeft] at reversed
  rw [trimRight, reversed, List.reverse_reverse]

/-- What is left ends where the text ends, up to blanks. -/
theorem exists_trimRight_append (text : List Char) :
    ∃ after, (∀ c ∈ after, isBlank c = true) ∧ text = trimRight text ++ after := by
  refine ⟨(text.reverse.takeWhile isBlank).reverse, ?_, ?_⟩
  · intro c member
    exact List.mem_takeWhile_imp (List.mem_reverse.mp member)
  · rw [trimRight, ← List.reverse_append, List.takeWhile_append_dropWhile, List.reverse_reverse]

/-- The blanks around a trimmed text are all that is removed. A text of blanks alone is
removed from the left. -/
theorem trim_of_pads
    (trimmed : Trimmed text)
    (pads : Pads field text) : trim field = text := by
  obtain ⟨before, after, blankBefore, blankAfter, rfl⟩ := pads
  rw [trim, List.append_assoc, trimLeft_append_of_blank blankBefore]
  cases text with
  | nil =>
      have allBlank : trimLeft ([] ++ after) = [] := List.dropWhile_eq_nil_iff.mpr blankAfter
      rw [allBlank]
      rfl
  | cons c rest =>
      have stays : trimLeft (c :: rest ++ after) = c :: rest ++ after :=
        trimLeft_eq_self trimmed.first
      rw [stays, trimRight_append_of_blank blankAfter, trimRight_eq_self trimmed.last]

private theorem pads_trim (field : List Char) : Pads field (trim field) := by
  obtain ⟨after, blankAfter, ends⟩ := exists_trimRight_append (trimLeft field)
  refine ⟨field.takeWhile isBlank, after, fun c => List.mem_takeWhile_imp, blankAfter, ?_⟩
  rw [List.append_assoc, trim, ← ends, trimLeft, List.takeWhile_append_dropWhile]

private theorem trimmed_trim (field : List Char) : Trimmed (trim field) := by
  obtain ⟨after, -, ends⟩ := exists_trimRight_append (trimLeft field)
  constructor
  case first =>
    intro c first
    apply @head?_trimLeft field
    rw [ends, List.head?_append, ← trim, first]
    rfl
  case last =>
    intro c last
    apply @head?_trimLeft (trimLeft field).reverse
    rw [← last, trim, trimRight, List.getLast?_reverse, trimLeft]

/-! ## Fields -/

/-- The fields are the parts between separators. -/
theorem fields_eq_splitOn
    (separator : Char)
    (text : List Char) : fields separator text = text.splitOn separator := by
  induction text with
  | nil => rfl
  | cons c rest inductionHypothesis =>
      obtain ⟨field, others, cut⟩ := List.exists_cons_of_ne_nil (fields_ne_nil separator rest)
      rw [List.splitOn_cons_eq_if_modifyHead, ← inductionHypothesis, fields, cut]
      by_cases isSeparator : c = separator <;> simp [isSeparator]

/-- The fields of a text that was joined are those it was joined from. -/
theorem fields_intercalate
    {parts : List (List Char)}
    (nonempty : parts ≠ [])
    (single : ∀ part ∈ parts, separator ∉ part) :
    fields separator ([separator].intercalate parts) = parts := by
  rw [fields_eq_splitOn]
  exact List.splitOn_intercalate separator single nonempty

private theorem not_mem_of_mem_fields (text : List Char) :
    ∀ part ∈ fields separator text, separator ∉ part := by
  induction text with
  | nil => simp [fields]
  | cons c rest inductionHypothesis =>
      obtain ⟨field, others, cut⟩ := List.exists_cons_of_ne_nil (fields_ne_nil separator rest)
      rw [cut, List.forall_mem_cons] at inductionHypothesis
      obtain ⟨fieldSingle, othersSingle⟩ := inductionHypothesis
      by_cases isSeparator : c = separator
      · simpa [fields, isSeparator, cut, fieldSingle] using othersSingle
      · have otherFirst : separator ≠ c := Ne.symm isSeparator
        simpa [fields, isSeparator, cut, fieldSingle, otherFirst] using othersSingle

/-- Where several fields are joined, a separator stands. -/
theorem mem_intercalate
    {parts : List (List Char)}
    (several : 2 ≤ parts.length) : separator ∈ [separator].intercalate parts := by
  match parts, several with
  | first :: second :: rest, _ => simp [List.intercalate_cons_cons]

/-! ## Names -/

/-- A name that can stand in a list of names. -/
structure Listable (name : String) : Prop where
  noComma : ',' ∉ name.toList
  trimmed : Trimmed name.toList

/-- A text that lists some names: each of them stands, with blanks around it, in one of the
parts between the commas. -/
def Lists
    (text : String)
    (names : List String) : Prop :=
  ∃ parts : List (List Char),
    text.toList = [','].intercalate parts
      ∧ List.Forall₂ (fun part name => Pads part name.toList) parts names

def listedNames (text : String) : List String :=
  (fields ',' text.toList).map fun part => String.ofList (trim part)

private theorem Listable.not_mem_of_pads
    {name : String}
    (listable : Listable name)
    (pads : Pads field name.toList) : ',' ∉ field := by
  obtain ⟨before, after, blankBefore, blankAfter, rfl⟩ := pads
  have notBlank : isBlank ',' = false := rfl
  intro member
  rcases List.mem_append.mp member with inFront | inAfter
  · rcases List.mem_append.mp inFront with inBefore | inName
    · exact Bool.false_ne_true (notBlank.symm.trans (blankBefore _ inBefore))
    · exact listable.noComma inName
  · exact Bool.false_ne_true (notBlank.symm.trans (blankAfter _ inAfter))

/-- The parts that hold some names have no comma, and hold no other names. -/
theorem Listable.of_padded
    {parts : List (List Char)}
    {names : List String}
    (listable : ∀ name ∈ names, Listable name)
    (padded : List.Forall₂ (fun part name => Pads part name.toList) parts names) :
    (∀ part ∈ parts, ',' ∉ part)
      ∧ parts.map (fun part => String.ofList (trim part)) = names := by
  induction padded with
  | nil => exact ⟨nofun, rfl⟩
  | cons pads _ inductionHypothesis =>
      obtain ⟨nameListable, restListable⟩ := List.forall_mem_cons.mp listable
      obtain ⟨restSingle, restShown⟩ := inductionHypothesis restListable
      refine ⟨List.forall_mem_cons.mpr ⟨nameListable.not_mem_of_pads pads, restSingle⟩, ?_⟩
      rw [List.map_cons, restShown, trim_of_pads nameListable.trimmed pads, String.ofList_toList]

/-- A text lists no other names than those its fields show. -/
theorem listedNames_of_lists
    {text : String}
    {names : List String}
    (listable : ∀ name ∈ names, Listable name)
    (nonempty : names ≠ [])
    (lists : Lists text names) : listedNames text = names := by
  obtain ⟨parts, joined, padded⟩ := lists
  obtain ⟨single, shown⟩ := Listable.of_padded listable padded
  have someParts : parts ≠ [] := by
    rintro rfl
    exact nonempty shown.symm
  rw [listedNames, joined, fields_intercalate someParts single, shown]

/-- Every text lists the names that its fields show. -/
theorem lists_listedNames (text : String) : Lists text (listedNames text) := by
  refine ⟨fields ',' text.toList, (intercalate_fields ',' _).symm, ?_⟩
  rw [listedNames, List.forall₂_map_right_iff, List.forall₂_same]
  intro part _
  rw [String.toList_ofList]
  exact pads_trim part

theorem listable_of_mem_listedNames
    {text name : String}
    (member : name ∈ listedNames text) : Listable name := by
  obtain ⟨part, isField, rfl⟩ := List.mem_map.mp member
  constructor
  case noComma =>
    obtain ⟨before, after, _, _, around⟩ := pads_trim part
    have single := not_mem_of_mem_fields text.toList part isField
    rw [around] at single
    rw [String.toList_ofList]
    intro inside
    exact single (List.mem_append_left _ (List.mem_append_right _ inside))
  case trimmed =>
    rw [String.toList_ofList]
    exact trimmed_trim part

/-- A text that lists several names has a comma. -/
theorem comma_mem_of_lists
    {text : String}
    {names : List String}
    (several : 2 ≤ names.length)
    (lists : Lists text names) : ',' ∈ text.toList := by
  obtain ⟨parts, joined, padded⟩ := lists
  rw [joined]
  exact mem_intercalate (padded.length_eq ▸ several)

end ClauseBinding.Text
