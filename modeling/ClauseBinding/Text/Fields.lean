/-!
Contract: texts that list fields.

Owns: the cut of a text at every separator.

Does not own: what the fields mean.
-/

namespace ClauseBinding.Text

/-- The fields between separators, one more than there are separators. -/
def fields
    (separator : Char) : List Char → List (List Char)
  | [] => [[]]
  | c :: rest =>
      if c = separator then [] :: fields separator rest
      else
        match fields separator rest with
        | [] => [[c]]
        | field :: others => (c :: field) :: others

/-- There is always a field, if only an empty one. -/
theorem fields_ne_nil
    (separator : Char)
    (text : List Char) :
    fields separator text ≠ [] := by
  cases text with
  | nil => simp [fields]
  | cons c rest =>
      simp only [fields]
      split
      · simp
      · split <;> simp

/-- A text is its fields, joined by the separator. -/
theorem intercalate_fields
    (separator : Char)
    (text : List Char) :
    [separator].intercalate (fields separator text) = text := by
  induction text with
  | nil => rfl
  | cons c rest inductionHypothesis =>
      obtain ⟨field, others, cut⟩ := List.exists_cons_of_ne_nil (fields_ne_nil separator rest)
      rw [cut] at inductionHypothesis
      by_cases isSeparator : c = separator
      · simpa [fields, isSeparator, cut, List.intercalate] using inductionHypothesis
      · cases others <;>
          simpa [fields, isSeparator, cut, List.intercalate] using inductionHypothesis

end ClauseBinding.Text
