import ClauseBinding.Proofs.Data.Conformance
import Mathlib.Data.List.Forall2

/-!
Contract: values that are the same but for absent members.

Owns:
- values without their absent members, at every depth;
- values that are identical, records as maps;
- null-equivalent values, which are identical without their absent members, and that what
  can be read of them is null-equivalent again.

Does not own: what evaluation makes of such values.

Identity is not the equality of the language, which holds of moments with different offsets
and of both zeros, and does not hold of not-a-number and itself.
-/

namespace ClauseBinding

/-! ## Names taken out of a table -/

namespace Table

variable {α : Type}

def without
    (table : Table α)
    (name : String) : Table α :=
  table.filter fun entry => entry.1 != name

private theorem find?_without
    (table : Table α)
    (name other : String) :
    find? (without table name) other = if name = other then none else find? table other := by
  induction table with
  | nil => simp [without, find?]
  | cons entry rest inductionHypothesis =>
      obtain ⟨key, value⟩ := entry
      by_cases same : key = name
      · have dropped : without ((key, value) :: rest) name = without rest name := by
          simp [without, same]
        rw [dropped, inductionHypothesis, find?, same]
        split <;> rfl
      · have kept : without ((key, value) :: rest) name = (key, value) :: without rest name := by
          simp [without, same]
        rw [kept, find?, find?, inductionHypothesis]
        by_cases found : key = other
        · have other : name ≠ other := fun equal => same (found.trans equal.symm)
          simp [found, other]
        · simp [found]

end Table

private theorem Record.read_cons
    (name : String)
    (value : Value)
    (rest : Record)
    (other : String) :
    Record.read ((name, value) :: rest) other = if name = other then value else rest.read other := by
  by_cases found : name = other <;> simp [Record.read, Table.find?, found]

private theorem Record.read_without
    (record : Record)
    (name other : String) :
    Record.read (Table.without record name) other =
      if name = other then .null else record.read other := by
  rw [Record.read, Table.find?_without]
  split <;> rfl

namespace Value

/-! ## Absent members -/

mutual

/-- A value without its absent members, at every depth. -/
def withoutAbsent : Value → Value
  | .record members => .record (membersWithoutAbsent members)
  | .collection items => .collection (itemsWithoutAbsent items)
  | value => value
termination_by structural value => value

def itemsWithoutAbsent : List Value → List Value
  | [] => []
  | first :: rest => withoutAbsent first :: itemsWithoutAbsent rest
termination_by structural items => items

def membersWithoutAbsent : List (String × Value) → Record
  | [] => []
  | (name, value) :: rest =>
      if value.isNull then Table.without (membersWithoutAbsent rest) name
      else (name, withoutAbsent value) :: membersWithoutAbsent rest
termination_by structural members => members

end

private theorem itemsWithoutAbsent_eq_map (items : List Value) :
    itemsWithoutAbsent items = items.map withoutAbsent := by
  induction items with
  | nil => rfl
  | cons first rest inductionHypothesis =>
      rw [itemsWithoutAbsent, inductionHypothesis, List.map_cons]

/-- Reading makes no difference between absent and missing members. -/
theorem read_membersWithoutAbsent
    (members : Record)
    (name : String) :
    (membersWithoutAbsent members).read name = (members.read name).withoutAbsent := by
  induction members with
  | nil => rfl
  | cons member rest inductionHypothesis =>
      obtain ⟨key, value⟩ := member
      rw [Record.read_cons, membersWithoutAbsent]
      by_cases absent : value.isNull = true
      · rw [if_pos absent, Record.read_without, inductionHypothesis]
        obtain rfl := isNull_iff.mp absent
        split <;> rfl
      · rw [if_neg absent, Record.read_cons, inductionHypothesis]
        split <;> rfl

/-! ## Identity -/

/-- Identical values. Of records the order of the members plays no part. -/
inductive Same : Value → Value → Prop where
  | refl (value : Value) : Same value value
  | record {left right : Record}
      (names : ∀ name, (Table.find? left name).isSome = (Table.find? right name).isSome)
      (members : ∀ name leftValue rightValue,
        Table.find? left name = some leftValue → Table.find? right name = some rightValue →
          Same leftValue rightValue) :
      Same (.record left) (.record right)
  | collection {left right : List Value}
      (length : left.length = right.length)
      (items : ∀ leftItem rightItem,
        (leftItem, rightItem) ∈ left.zip right → Same leftItem rightItem) :
      Same (.collection left) (.collection right)

/-- Values that are identical without their absent members. -/
def NullEquivalent (left right : Value) : Prop :=
  Same left.withoutAbsent right.withoutAbsent

theorem NullEquivalent.refl (value : Value) : NullEquivalent value value :=
  Same.refl _

/-- What can be told of null-equivalent values: they are the same value, or records that
read alike, or collections of null-equivalent items. -/
inductive ReadAlike : Value → Value → Prop where
  | same (value : Value) : ReadAlike value value
  | record {left right : Record}
      (reads : ∀ name, NullEquivalent (left.read name) (right.read name)) :
      ReadAlike (.record left) (.record right)
  | collection {left right : List Value}
      (items : List.Forall₂ NullEquivalent left right) :
      ReadAlike (.collection left) (.collection right)

/-- Only records become records, and only collections become collections. -/
theorem withoutAbsent_shape (value : Value) :
    match value.withoutAbsent with
    | .record members => ∃ own, value = .record own ∧ membersWithoutAbsent own = members
    | .collection items => ∃ own, value = .collection own ∧ own.map withoutAbsent = items
    | other => value = other := by
  cases value with
  | record own => exact ⟨own, rfl, rfl⟩
  | collection own => exact ⟨own, rfl, (itemsWithoutAbsent_eq_map own).symm⟩
  | _ => rfl

/-- Records that are identical read alike. -/
theorem Same.read
    {left right : Record}
    (names : ∀ name, (Table.find? left name).isSome = (Table.find? right name).isSome)
    (members : ∀ name leftValue rightValue,
      Table.find? left name = some leftValue → Table.find? right name = some rightValue →
        Same leftValue rightValue)
    (name : String) : Same (left.read name) (right.read name) := by
  have alike := names name
  rw [Record.read, Record.read]
  cases leftIs : Table.find? left name with
  | none =>
      rw [leftIs, Option.isSome_none, eq_comm, Option.isSome_eq_false_iff, Option.isNone_iff_eq_none]
        at alike
      rw [alike]
      exact .refl _
  | some leftValue =>
      rw [leftIs, Option.isSome_some, eq_comm, Option.isSome_iff_exists] at alike
      obtain ⟨rightValue, rightIs⟩ := alike
      rw [rightIs]
      exact members name leftValue rightValue leftIs rightIs

private theorem ReadAlike.of_members
    {left right : Record}
    (same : ∀ name,
      Same ((membersWithoutAbsent left).read name) ((membersWithoutAbsent right).read name)) :
    ReadAlike (.record left) (.record right) := by
  refine .record fun name => ?_
  have sameRead := same name
  rwa [read_membersWithoutAbsent, read_membersWithoutAbsent] at sameRead

private theorem ReadAlike.of_items
    {left right : List Value}
    (same : List.Forall₂ Same (left.map withoutAbsent) (right.map withoutAbsent)) :
    ReadAlike (.collection left) (.collection right) := by
  rw [List.forall₂_map_left_iff, List.forall₂_map_right_iff] at same
  exact .collection same

/-- Null-equivalent values are told apart by nothing that is read of them. -/
theorem NullEquivalent.readAlike
    {left right : Value}
    (equivalent : NullEquivalent left right) : ReadAlike left right := by
  unfold NullEquivalent at equivalent
  have leftShape := withoutAbsent_shape left
  have rightShape := withoutAbsent_shape right
  generalize left.withoutAbsent = leftRest at equivalent leftShape
  generalize right.withoutAbsent = rightRest at equivalent rightShape
  cases equivalent with
  | refl =>
      cases leftRest with
      | record members =>
          obtain ⟨leftMembers, rfl, leftIs⟩ := leftShape
          obtain ⟨rightMembers, rfl, rightIs⟩ := rightShape
          refine .of_members fun name => ?_
          rw [leftIs, rightIs]
          exact .refl _
      | collection items =>
          obtain ⟨leftItems, rfl, leftIs⟩ := leftShape
          obtain ⟨rightItems, rfl, rightIs⟩ := rightShape
          apply ReadAlike.of_items
          rw [leftIs, rightIs, List.forall₂_same]
          exact fun item _ => .refl item
      | _ =>
          rw [leftShape, rightShape]
          exact .same _
  | record names members =>
      obtain ⟨leftMembers, rfl, rfl⟩ := leftShape
      obtain ⟨rightMembers, rfl, rfl⟩ := rightShape
      exact .of_members (Same.read names members)
  | collection length items =>
      obtain ⟨leftItems, rfl, rfl⟩ := leftShape
      obtain ⟨rightItems, rfl, rfl⟩ := rightShape
      exact .of_items (List.forall₂_iff_zip.mpr ⟨length, items _ _⟩)

end Value

end ClauseBinding
