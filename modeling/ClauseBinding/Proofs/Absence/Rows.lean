import ClauseBinding.Evaluation.Rows
import ClauseBinding.Proofs.Absence.Evaluation
import ClauseBinding.Proofs.Order.Sort

/-!
Contract: filters and orders do not tell absent members from missing ones.

Owns:
- sort keys of null-equivalent records, which have the same order;
- that predicates decide alike on null-equivalent values, and that sorting rearranges lists
  of null-equivalent records alike.

Does not own: the evaluation of expressions.
-/

namespace ClauseBinding

open ClauseBinding.Outcome
open ClauseBinding.Selector

theorem Value.NullEquivalent.compareKey
    {left right otherLeft otherRight : Value}
    (lefts : NullEquivalent left otherLeft)
    (rights : NullEquivalent right otherRight) :
    left.compareKey right = otherLeft.compareKey otherRight := by
  rw [Value.compareKey, Value.compareKey, lefts.isNull, rights.isNull, lefts.compare? rights]

def Record.NullEquivalent (left right : Record) : Prop :=
  Value.NullEquivalent (.record left) (.record right)

namespace Record.NullEquivalent

variable {selectors : List Selector} {left right otherLeft otherRight : Record}

theorem key
    (equivalent : left.NullEquivalent right)
    (selector : Selector) :
    Alike Value.NullEquivalent (selector.key left) (selector.key right) :=
  selector.sortKey.apply_alike equivalent

theorem keyOf
    (equivalent : left.NullEquivalent right)
    (selector : Selector) : (selector.keyOf left).NullEquivalent (selector.keyOf right) := by
  have alike := equivalent.key selector
  rw [Selector.keyOf, Selector.keyOf]
  generalize selector.key left = leftOutcome at alike
  generalize selector.key right = rightOutcome at alike
  cases alike with
  | ok values => exact values
  | error => exact .refl _

theorem hasKeys
    (equivalent : left.NullEquivalent right)
    (hasKeys : HasKeys selectors left) : HasKeys selectors right := by
  intro selector isSelector
  obtain ⟨leftKey, isLeft⟩ := hasKeys selector isSelector
  obtain ⟨rightKey, isRight, -⟩ := (equivalent.key selector).exists_ok isLeft
  exact ⟨rightKey, isRight⟩

theorem compareRecords
    (lefts : left.NullEquivalent otherLeft)
    (rights : right.NullEquivalent otherRight) :
    compareRecords selectors left right = compareRecords selectors otherLeft otherRight := by
  induction selectors with
  | nil => rfl
  | cons selector rest inductionHypothesis =>
      rw [compareRecords_cons, compareRecords_cons, inductionHypothesis,
        (lefts.keyOf selector).compareKey (rights.keyOf selector)]

end Record.NullEquivalent

/-- Sorting rearranges null-equivalent records alike: paired, they are sorted as the first
of each pair, and as the second of each. -/
theorem sortRecords_alike
    {selectors : List Selector}
    {lefts rights sorted : List Record}
    (equivalent : List.Forall₂ Record.NullEquivalent lefts rights)
    (sorts : sortRecords selectors lefts = .ok sorted) :
    ∃ order : List (Record × Record),
      order.Perm (lefts.zip rights)
        ∧ order.map Prod.fst = sorted
        ∧ sortRecords selectors rights = .ok (order.map Prod.snd) := by
  have paired : ∀ pair ∈ lefts.zip rights, pair.1.NullEquivalent pair.2 := fun pair member =>
    List.forall₂_zip equivalent member
  have leftsAre : (lefts.zip rights).map Prod.fst = lefts :=
    List.map_fst_zip (Nat.le_of_eq equivalent.length_eq)
  have rightsAre : (lefts.zip rights).map Prod.snd = rights :=
    List.map_snd_zip (Nat.le_of_eq equivalent.length_eq.symm)
  have leftsHaveKeys := hasKeys_of_sortRecords sorts
  have rightsHaveKeys : ∀ record ∈ rights, HasKeys selectors record := by
    rw [← rightsAre, List.forall_mem_map]
    intro pair member
    exact (paired pair member).hasKeys (leftsHaveKeys pair.1 (List.of_mem_zip member).1)
  let before (left right : Record) : Bool := compareRecords selectors left right == .lt
  have agree : ∀ left ∈ lefts.zip rights, ∀ right ∈ lefts.zip rights,
      before left.1 right.1 = before left.2 right.2 := by
    intro left leftMember right rightMember
    simp only [before, (paired left leftMember).compareRecords (paired right rightMember)]
  have leftsSorted := @sortStable_map Record _ before Prod.fst (lefts.zip rights)
  have rightsSorted := @sortStable_map Record _ before Prod.snd (lefts.zip rights)
  rw [leftsAre] at leftsSorted
  rw [rightsAre, ← sortStable_congr agree] at rightsSorted
  refine ⟨sortStable (fun left right => before left.1 right.1) (lefts.zip rights),
    sortStable_perm _, ?_, ?_⟩
  · rw [sortRecords_eq_sortStable leftsHaveKeys] at sorts
    exact leftsSorted.symm.trans (Except.ok.inj sorts)
  · rw [sortRecords_eq_sortStable rightsHaveKeys]
    exact congrArg Except.ok rightsSorted

private theorem Predicate.accepts_alike
    {left right : Value}
    (predicate : Predicate)
    (equivalent : left.NullEquivalent right) :
    Alike Eq (predicate.accepts left) (predicate.accepts right) :=
  (predicate.lambda.apply_alike equivalent).bind fun _ _ results => results.truth

/-- Absent members and missing ones are not told apart. On null-equivalent values a predicate
has one answer, or fails with failures of one kind. And where sorting succeeds on one of two
lists of records that are pairwise null-equivalent, it succeeds on the other and rearranges
it alike. -/
theorem absent_like_missing :
    (∀ (predicate : Predicate) (left right : Value),
      left.NullEquivalent right → Alike Eq (predicate.accepts left) (predicate.accepts right))
      ∧ ∀ (selectors : List Selector) (lefts rights sorted : List Record),
        List.Forall₂ Record.NullEquivalent lefts rights →
        sortRecords selectors lefts = .ok sorted →
          ∃ order : List (Record × Record),
            order.Perm (lefts.zip rights)
              ∧ order.map Prod.fst = sorted
              ∧ sortRecords selectors rights = .ok (order.map Prod.snd) := by
  constructor
  · intro predicate left right equivalent
    exact predicate.accepts_alike equivalent
  · intro selectors lefts rights sorted equivalent sorts
    exact sortRecords_alike equivalent sorts

/-- The prices of three products, one of which is said to be absent. -/
def someSaidPrices : List Record :=
  [[("price", .int32 3)], [("price", .null), ("parts", .collection [.record [("size", .null)]])],
    [("price", .int32 7)]]

/-- The same prices, one of which is missing. -/
def somePricesMissing : List Record :=
  [[("price", .int32 3)], [("parts", .collection [.record []])], [("price", .int32 7)]]

/-- The second product has no price in either list, and comes last in both. -/
theorem absent_like_missing_prices :
    List.Forall₂ Record.NullEquivalent someSaidPrices somePricesMissing
      ∧ (∃ predicate,
        FilterClause.pairOverTen.bindIn (.start FilterClause.productCatalog (.structured "Product") {})
            = .ok predicate
          ∧ ∀ pair ∈ someSaidPrices.zip somePricesMissing,
            Alike Eq (predicate.accepts (.record pair.1)) (predicate.accepts (.record pair.2)))
      ∧ ∃ order : List (Record × Record),
        order.Perm (someSaidPrices.zip somePricesMissing)
          ∧ sortRecords [priceDescending] somePricesMissing = .ok (order.map Prod.snd) := by
  have equivalent : List.Forall₂ Record.NullEquivalent someSaidPrices somePricesMissing :=
    .cons (Value.Same.refl _) (.cons (Value.Same.refl _) (.cons (Value.Same.refl _) .nil))
  obtain ⟨predicates, sorting⟩ := absent_like_missing
  obtain ⟨order, isOrder, -, sorts⟩ := sorting [priceDescending] _ _ _ equivalent rfl
  refine ⟨equivalent, ⟨_, rfl, ?_⟩, order, isOrder, sorts⟩
  intro pair member
  exact predicates _ _ _ (List.forall₂_zip equivalent member)

end ClauseBinding
