import Mathlib.Data.List.Nodup
import ClauseBinding.Data.Table

/-!
Contract: tables as maps.

Owns:
- which names have entries, also in a table with more entries behind;
- tables in which no name has two entries;
- that such a table is rebuilt from its own entries;
- that a lookup in such a table does not depend on the order of its entries.

Does not own: what the names stand for.
-/

namespace ClauseBinding.Table

variable {α : Type}

/-- No name has two entries. -/
def Distinct (table : Table α) : Prop :=
  (names table).Nodup

theorem Distinct.of_perm
    {left right : Table α}
    (distinct : Distinct right)
    (same : left.Perm right) : Distinct left :=
  (same.map Prod.fst).nodup_iff.mpr distinct

/-- Names are looked up as in any list of pairs. -/
theorem find?_eq_lookup
    (table : Table α)
    (name : String) : find? table name = table.lookup name := by
  induction table with
  | nil => rfl
  | cons entry rest inductionHypothesis =>
      obtain ⟨key, value⟩ := entry
      rw [find?, List.lookup_cons, inductionHypothesis]
      by_cases same : key = name
      · simp [same]
      · simp [same, beq_false_of_ne (Ne.symm same)]

theorem find?_eq_none_iff
    {table : Table α}
    {name : String} : find? table name = none ↔ name ∉ names table := by
  induction table with
  | nil => simp [find?, names]
  | cons entry rest inductionHypothesis =>
      obtain ⟨key, value⟩ := entry
      by_cases same : key = name
      · simp [find?, names, same]
      · have other : name ≠ key := Ne.symm same
        rw [find?, if_neg same, inductionHypothesis]
        simp [names, other]

/-- Earlier entries hide later ones. -/
theorem find?_append
    (table later : Table α)
    (name : String) : find? (table ++ later) name = (find? table name).or (find? later name) := by
  induction table with
  | nil => rfl
  | cons entry rest inductionHypothesis =>
      obtain ⟨key, value⟩ := entry
      by_cases same : key = name
      · simp [find?, same]
      · simp [find?, same, inductionHypothesis]

theorem Distinct.append
    {table : Table α}
    {name : String}
    (distinct : Distinct table)
    (new : find? table name = none)
    (value : α) : Distinct (table ++ [(name, value)]) := by
  have notAmong : name ∉ names table := find?_eq_none_iff.mp new
  have namesAppend : names (table ++ [(name, value)]) = names table ++ [name] :=
    List.map_append
  rw [Distinct, namesAppend, List.nodup_append]
  refine ⟨distinct, List.nodup_singleton name, ?_⟩
  intro earlier isEarlier last isLast
  obtain rfl := List.mem_singleton.mp isLast
  rintro rfl
  exact notAmong isEarlier

/-- A new name goes to the end. -/
theorem insert_of_new
    {table : Table α}
    {name : String}
    (new : name ∉ names table)
    (value : α) : insert table name value = table ++ [(name, value)] := by
  induction table with
  | nil => rfl
  | cons entry rest inductionHypothesis =>
      obtain ⟨key, old⟩ := entry
      have other : key ≠ name := by
        rintro rfl
        exact new (List.mem_cons_self ..)
      have newToRest : name ∉ names rest := fun member => new (List.mem_cons_of_mem _ member)
      simp [insert, other, inductionHypothesis newToRest]

/-- Entries of distinct names are appended in order, after those that are there. -/
theorem foldl_insert_of_distinct
    {before entries : Table α}
    (distinct : Distinct (before ++ entries)) :
    entries.foldl (fun table entry => insert table entry.1 entry.2) before =
      before ++ entries := by
  induction entries generalizing before with
  | nil => simp
  | cons entry rest inductionHypothesis =>
      have new : entry.1 ∉ names before := by
        intro member
        rw [Distinct, names, List.map_append, List.map_cons] at distinct
        exact (List.nodup_append.mp distinct).2.2 _ member _ (List.mem_cons_self ..) rfl
      rw [List.foldl_cons, insert_of_new new, inductionHypothesis]
      · simp
      · simpa using distinct

/-- A table is what its own entries make. -/
theorem ofEntries_of_distinct
    {entries : Table α}
    (distinct : Distinct entries) : ofEntries entries = entries := by
  have distinctAfterNone : Distinct ([] ++ entries) := distinct
  rw [ofEntries, foldl_insert_of_distinct distinctAfterNone, List.nil_append]

theorem find?_eq_some_iff
    {table : Table α}
    (distinct : Distinct table)
    (name : String)
    (value : α) : find? table name = some value ↔ (name, value) ∈ table := by
  induction table with
  | nil => simp [find?]
  | cons entry rest inductionHypothesis =>
      obtain ⟨key, first⟩ := entry
      obtain ⟨newKey, restDistinct⟩ := List.nodup_cons.mp distinct
      by_cases same : key = name
      · subst same
        have notInRest : (key, value) ∉ rest := by
          intro member
          exact newKey (List.mem_map.mpr ⟨_, member, rfl⟩)
        simp [find?, notInRest, eq_comm]
      · have other : (name, value) ≠ (key, first) := fun equal =>
          same (congrArg Prod.fst equal).symm
        simp [find?, same, Ne.symm same, inductionHypothesis restDistinct]

theorem find?_of_perm
    {left right : Table α}
    (distinct : Distinct right)
    (same : left.Perm right)
    (name : String) : find? left name = find? right name := by
  apply Option.ext
  intro value
  rw [find?_eq_some_iff (distinct.of_perm same), find?_eq_some_iff distinct, same.mem_iff]

end ClauseBinding.Table
