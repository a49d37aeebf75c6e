import ClauseBinding.Evaluation.Sort
import ClauseBinding.Proofs.Data.Order
import ClauseBinding.Proofs.Data.Sorted
import ClauseBinding.Proofs.Evaluation.Traversal

/-!
Contract: the order of records by their sort keys.

Owns:
- records that have all their keys, and which failure of a key counts;
- the order of two sort keys, absent ones included, and of two records by several, which
  can be read from right to left, and of three keys that compare;
- that it is a total preorder wherever the order of the present keys of each selector is;
- sorting as the stable sort in that order, for records of which every key has a value.

Does not own: which records go first, said without the comparison.
-/

namespace ClauseBinding

open ClauseBinding.Outcome

/-! ## Keys -/

namespace Value

/-- Only present values are compared, and as keys they have the order they have. -/
theorem compareKey_of_compare?
    {left right : Value}
    {ordering : Ordering}
    (compared : left.compare? right = some ordering) : left.compareKey right = ordering := by
  have present : left.isNull = false ∧ right.isNull = false := by
    cases compare?_eq_some_iff.mp compared <;> exact ⟨rfl, rfl⟩
  simp [compareKey, present, compared]

theorem compareKey_swap (left right : Value) :
    right.compareKey left = (left.compareKey right).swap := by
  cases leftNull : left.isNull <;> cases rightNull : right.isNull <;>
    simp only [compareKey, leftNull, rightNull, Ordering.swap_eq, Ordering.swap_lt,
      Ordering.swap_gt]
  rw [compare?_swap]
  cases left.compare? right <;> rfl

/-- Keys that compare, if both are present. -/
def ComparesAsKey (left right : Value) : Prop :=
  left.isNull = false → right.isNull = false → ∃ ordering, left.compare? right = some ordering

theorem ComparesAsKey.symm
    {left right : Value}
    (compares : ComparesAsKey left right) : ComparesAsKey right left := by
  intro rightPresent leftPresent
  obtain ⟨ordering, compared⟩ := compares leftPresent rightPresent
  exact ⟨ordering.swap, by rw [compare?_swap, compared, Option.map_some]⟩

/-- Of three keys in order the first is below the last, or all are alike. An absent key
is below every present one, so it cannot come after one. -/
theorem compareKey_chain
    {first second third : Value}
    (firstCompares : ComparesAsKey first second)
    (secondCompares : ComparesAsKey second third)
    (firstLE : (first.compareKey second).isLE = true)
    (secondLE : (second.compareKey third).isLE = true) :
    first.compareKey third = .lt
      ∨ first.compareKey second = .eq ∧ second.compareKey third = .eq
        ∧ first.compareKey third = .eq := by
  cases firstNull : first.isNull with
  | true =>
      cases secondNull : second.isNull <;> cases thirdNull : third.isNull <;>
        simp_all [compareKey]
  | false =>
      cases secondNull : second.isNull with
      | true => simp [compareKey, firstNull, secondNull] at firstLE
      | false =>
          cases thirdNull : third.isNull with
          | true => simp [compareKey, secondNull, thirdNull] at secondLE
          | false =>
              obtain ⟨firstOrdering, firstCompared⟩ := firstCompares firstNull secondNull
              obtain ⟨secondOrdering, secondCompared⟩ := secondCompares secondNull thirdNull
              rw [compareKey_of_compare? firstCompared] at firstLE
              rw [compareKey_of_compare? secondCompared] at secondLE
              rcases compare?_chain ⟨_, firstCompared, firstLE⟩ ⟨_, secondCompared, secondLE⟩ with
                below | ⟨firstAlike, secondAlike, endsAlike⟩
              · exact .inl (compareKey_of_compare? below)
              · exact .inr ⟨compareKey_of_compare? firstAlike,
                  compareKey_of_compare? secondAlike, compareKey_of_compare? endsAlike⟩

/-! ## Not-a-number -/

private theorem compareKey_trans
    {among : Value → Prop}
    (preordered : TotallyPreordered among)
    {first second third : Value}
    (firstAmong : first.isNull = false → among first)
    (secondAmong : second.isNull = false → among second)
    (thirdAmong : third.isNull = false → among third)
    (firstLE : (first.compareKey second).isLE = true)
    (secondLE : (second.compareKey third).isLE = true) :
    (first.compareKey third).isLE = true := by
  have firstCompares : ComparesAsKey first second := fun firstPresent secondPresent =>
    preordered.compared (firstAmong firstPresent) (secondAmong secondPresent)
  have secondCompares : ComparesAsKey second third := fun secondPresent thirdPresent =>
    preordered.compared (secondAmong secondPresent) (thirdAmong thirdPresent)
  rcases compareKey_chain firstCompares secondCompares firstLE secondLE with
    below | ⟨-, -, alike⟩
  · rw [below]
    rfl
  · rw [alike]
    rfl

end Value

/-! ## Keys of records -/

namespace Selector

def HasKeys
    (selectors : List Selector)
    (record : Record) : Prop :=
  ∀ selector ∈ selectors, ∃ key, selector.key record = .ok key

def PresentKey
    (selector : Selector)
    (records : List Record)
    (key : Value) : Prop :=
  key.isNull = false ∧ ∃ record ∈ records, selector.key record = .ok key

theorem preordered_of_subset
    {selector : Selector}
    {records fewer : List Record}
    (subset : fewer ⊆ records)
    (preordered : Value.TotallyPreordered (selector.PresentKey records)) :
    Value.TotallyPreordered (selector.PresentKey fewer) := by
  apply preordered.mono
  rintro key ⟨present, record, member, isKey⟩
  exact ⟨present, record, subset member, isKey⟩

def keyOf
    (selector : Selector)
    (record : Record) : Value :=
  match selector.key record with
  | .ok key => key
  | .error _ => .null

theorem keyOf_of_ok
    {selector : Selector}
    {record : Record}
    {key : Value}
    (isKey : selector.key record = .ok key) : selector.keyOf record = key := by
  rw [keyOf, isKey]

private theorem key_eq_keyOf
    {selector : Selector}
    {record : Record}
    (hasKey : ∃ key, selector.key record = .ok key) :
    selector.key record = .ok (selector.keyOf record) := by
  obtain ⟨key, isKey⟩ := hasKey
  rw [isKey, keyOf_of_ok isKey]

def keyed
    (selectors : List Selector)
    (record : Record) : Except Failure (List Value × Record) := do
  let keys ← keys selectors record
  pure (keys, record)

variable {selectors : List Selector} {record : Record}

theorem keyed_eq_ok (hasKeys : HasKeys selectors record) :
    keyed selectors record = .ok (selectors.map (·.keyOf record), record) := by
  have keys : keys selectors record = .ok (selectors.map (·.keyOf record)) :=
    mapM_eq_ok fun selector isSelector => key_eq_keyOf (hasKeys selector isSelector)
  rw [keyed, keys]
  rfl

theorem hasKeys_of_keyed
    {result : List Value × Record}
    (succeeds : keyed selectors record = .ok result) : HasKeys selectors record := by
  obtain ⟨_, keys, -⟩ := bind_eq_ok.mp succeeds
  exact each_of_mapM_eq_ok keys

theorem hasKeys_or_fails
    (selectors : List Selector)
    (record : Record) :
    HasKeys selectors record ∨
      ∃ selector ∈ selectors, ∃ failure, selector.key record = .error failure := by
  by_cases hasKeys : HasKeys selectors record
  · exact .inl hasKeys
  · right
    obtain ⟨selector, isSelector, noKey⟩ : ∃ selector ∈ selectors,
        ¬ ∃ key, selector.key record = .ok key := by
      simpa [HasKeys] using hasKeys
    cases outcome : selector.key record with
    | ok key => exact absurd ⟨key, outcome⟩ noKey
    | error failure => exact ⟨selector, isSelector, failure, outcome⟩

/-- The first key that fails is the failure of them all. -/
theorem keyed_eq_error
    (fails : ∃ selector ∈ selectors, ∃ failure, selector.key record = .error failure) :
    ∃ before selector after failure,
      selectors = before ++ selector :: after
        ∧ HasKeys before record
        ∧ selector.key record = .error failure
        ∧ keyed selectors record = .error failure := by
  obtain ⟨before, selector, after, failure, split, haveBefore, isFirst, together⟩ :=
    mapM_eq_error fails
  refine ⟨before, selector, after, failure, split, haveBefore, isFirst, ?_⟩
  rw [keyed, keys, together]
  rfl

/-! ## The order of records -/

/-- The other way round, keys have the opposite order. -/
theorem compareKeys_swap
    (selectors : List Selector)
    (left right : List Value) :
    compareKeys selectors left right = (compareKeys selectors right left).swap := by
  induction selectors generalizing left right with
  | nil => rfl
  | cons selector rest inductionHypothesis =>
      cases left with
      | nil => cases right <;> rfl
      | cons leftKey left =>
          cases right with
          | nil => rfl
          | cons rightKey right =>
              rw [compareKeys, compareKeys, inductionHypothesis left right, Ordering.swap_then,
                Value.compareKey_swap rightKey leftKey]
              cases selector.direction <;> rfl

def compareRecords
    (selectors : List Selector)
    (left right : Record) : Ordering :=
  compareKeys selectors (selectors.map (·.keyOf left)) (selectors.map (·.keyOf right))

theorem compareRecords_cons
    (selector : Selector)
    (rest : List Selector)
    (left right : Record) :
    compareRecords (selector :: rest) left right =
      (selector.direction.orient ((selector.keyOf left).compareKey (selector.keyOf right))).then
        (compareRecords rest left right) :=
  rfl

theorem compareRecords_swap
    (selectors : List Selector)
    (left right : Record) :
    compareRecords selectors right left = (compareRecords selectors left right).swap :=
  compareKeys_swap ..

variable {records : List Record}

/-- By one selector. Descending, the order is read from right to left. -/
theorem compareKey_transCmp
    {selector : Selector}
    (hasKey : ∀ record ∈ records, ∃ key, selector.key record = .ok key)
    (preordered : Value.TotallyPreordered (selector.PresentKey records)) :
    Std.TransCmp fun left right : { record // record ∈ records } =>
      selector.direction.orient
        ((selector.keyOf left.1).compareKey (selector.keyOf right.1)) := by
  have isPresentKey : ∀ record : { record // record ∈ records },
      (selector.keyOf record.1).isNull = false →
        selector.PresentKey records (selector.keyOf record.1) :=
    fun record present => ⟨present, record.1, record.2, key_eq_keyOf (hasKey _ record.2)⟩
  have ascending : Std.TransCmp fun left right : { record // record ∈ records } =>
      (selector.keyOf left.1).compareKey (selector.keyOf right.1) :=
    { eq_swap := Value.compareKey_swap _ _
      isLE_trans := Value.compareKey_trans preordered (isPresentKey _) (isPresentKey _)
        (isPresentKey _) }
  cases selector.direction with
  | ascending => exact ascending
  | descending =>
      simp only [Direction.orient, ← Value.compareKey_swap]
      exact Std.TransCmp.opposite

private theorem compareRecords_transCmp
    (hasKeys : ∀ record ∈ records, HasKeys selectors record)
    (preordered : ∀ selector ∈ selectors,
      Value.TotallyPreordered (selector.PresentKey records)) :
    Std.TransCmp fun left right : { record // record ∈ records } =>
      compareRecords selectors left.1 right.1 := by
  induction selectors with
  | nil => exact { eq_swap := rfl, isLE_trans := fun _ _ => rfl }
  | cons selector rest inductionHypothesis =>
      obtain ⟨firstPreordered, restPreordered⟩ := List.forall_mem_cons.mp preordered
      have hasKey : ∀ record ∈ records, ∃ key, selector.key record = .ok key :=
        fun record member => (List.forall_mem_cons.mp (hasKeys record member)).1
      have restHasKeys : ∀ record ∈ records, HasKeys rest record :=
        fun record member => (List.forall_mem_cons.mp (hasKeys record member)).2
      have first := compareKey_transCmp hasKey firstPreordered
      have others := inductionHypothesis restHasKeys restPreordered
      simp only [compareRecords_cons]
      exact inferInstanceAs (Std.TransCmp (compareLex _ _))

theorem compareRecords_weakOrder
    (hasKeys : ∀ record ∈ records, HasKeys selectors record)
    (preordered : ∀ selector ∈ selectors,
      Value.TotallyPreordered (selector.PresentKey records)) :
    WeakOrder (fun left right => compareRecords selectors left right == .lt) (· ∈ records) := by
  have ordered := compareRecords_transCmp hasKeys preordered
  -- Not to come before is to be at most, the other way round.
  have notBefore : ∀ left right,
      (compareRecords selectors left right == .lt) = false ↔
        (compareRecords selectors right left).isLE = true := by
    intro left right
    rw [compareRecords_swap selectors right left]
    cases compareRecords selectors right left <;> decide
  constructor
  · intro left right _ _ comes
    rw [notBefore, beq_iff_eq.mp comes]
    rfl
  · intro first second third firstMember secondMember thirdMember firstBehind secondBehind
    rw [notBefore] at firstBehind secondBehind ⊢
    exact ordered.isLE_trans (a := ⟨third, thirdMember⟩) (b := ⟨second, secondMember⟩)
      (c := ⟨first, firstMember⟩) secondBehind firstBehind

end Selector

/-! ## Sorting -/

open Selector

variable {selectors : List Selector} {records sorted : List Record}

theorem sortRecords_eq_bind
    (selectors : List Selector)
    (records : List Record) :
    sortRecords selectors records = (do
      let records ← records.mapM (keyed selectors)
      pure ((sortStable (fun left right => compareKeys selectors left.1 right.1 == .lt)
        records).map Prod.snd)) :=
  rfl

/-- Records that have all their keys are sorted in the order of their keys. -/
theorem sortRecords_eq_sortStable (hasKeys : ∀ record ∈ records, HasKeys selectors record) :
    sortRecords selectors records =
      .ok (sortStable (fun left right => compareRecords selectors left right == .lt) records) := by
  have together : records.mapM (keyed selectors) =
      .ok (records.map fun record => (selectors.map (·.keyOf record), record)) :=
    mapM_eq_ok fun record member => keyed_eq_ok (hasKeys record member)
  rw [sortRecords_eq_bind, together, ok_bind, sortStable_map, List.map_map]
  exact congrArg Except.ok (List.map_id _)

/-- Records that are sorted have all their keys. -/
theorem hasKeys_of_sortRecords (sorts : sortRecords selectors records = .ok sorted) :
    ∀ record ∈ records, HasKeys selectors record := by
  obtain ⟨_, together, -⟩ := bind_eq_ok.mp sorts
  intro record member
  obtain ⟨_, succeeds⟩ := each_of_mapM_eq_ok together record member
  exact hasKeys_of_keyed succeeds

end ClauseBinding
