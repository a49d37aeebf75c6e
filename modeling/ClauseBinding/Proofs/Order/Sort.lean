import ClauseBinding.Proofs.Order.Binding

/-!
Contract: sorting is the stable lexicographic sort by the sort keys.

Owns:
- which of two records goes first, selector by selector, said of their keys;
- which failure is the first;
- that sorting fails with the first failure, and else puts the records in that order,
  those with tied keys in the order they had.

Does not own: the comparison of values, or which keys a selector has.
-/

namespace ClauseBinding

open ClauseBinding.Outcome

/-! ## Which record goes first -/

namespace Value

/-- Below another key is an absent key, unless the other is absent too, and what is less. -/
inductive KeyBelow : Value → Value → Prop where
  | absent {right : Value} (present : right.isNull = false) : KeyBelow .null right
  | less {left right : Value} (ordered : left.compare? right = some .lt) : KeyBelow left right

/-- Absent keys are tied, and what is neither less nor greater. -/
inductive KeyTied : Value → Value → Prop where
  | absent : KeyTied .null .null
  | equal {left right : Value} (ordered : left.compare? right = some .eq) : KeyTied left right

theorem KeyBelow.compareKey
    {left right : Value}
    (below : KeyBelow left right) : left.compareKey right = .lt := by
  cases below with
  | absent present =>
      rw [Value.compareKey, present]
      rfl
  | less ordered => exact compareKey_of_compare? ordered

theorem KeyTied.compareKey
    {left right : Value}
    (tied : KeyTied left right) : left.compareKey right = .eq := by
  cases tied with
  | absent => rfl
  | equal ordered => exact compareKey_of_compare? ordered

end Value

namespace Selector

/-- By one selector a record goes before another if its key is below the other's, or
above it when descending. -/
def Precedes
    (selector : Selector)
    (left right : Record) : Prop :=
  ∃ leftKey rightKey,
    selector.key left = .ok leftKey
      ∧ selector.key right = .ok rightKey
      ∧ match selector.direction with
        | .ascending => leftKey.KeyBelow rightKey
        | .descending => rightKey.KeyBelow leftKey

/-- One selector does not tell two records apart. -/
def Ties
    (selector : Selector)
    (left right : Record) : Prop :=
  ∃ leftKey rightKey,
    selector.key left = .ok leftKey
      ∧ selector.key right = .ok rightKey
      ∧ leftKey.KeyTied rightKey

/-- The first selector that tells two records apart decides which goes first. -/
inductive OrdersBefore (left right : Record) : List Selector → Prop where
  | decides {selector : Selector} {rest : List Selector}
      (precedes : selector.Precedes left right) : OrdersBefore left right (selector :: rest)
  | ties {selector : Selector} {rest : List Selector}
      (tied : selector.Ties left right)
      (later : OrdersBefore left right rest) : OrdersBefore left right (selector :: rest)

variable {selectors : List Selector} {left right : Record}

theorem Precedes.compareKey
    {selector : Selector}
    (precedes : selector.Precedes left right) :
    selector.direction.orient ((selector.keyOf left).compareKey (selector.keyOf right)) = .lt := by
  obtain ⟨leftKey, rightKey, isLeft, isRight, below⟩ := precedes
  rw [keyOf_of_ok isLeft, keyOf_of_ok isRight]
  cases direction : selector.direction with
  | ascending =>
      rw [direction] at below
      exact below.compareKey
  | descending =>
      rw [direction] at below
      rw [Direction.orient, ← Value.compareKey_swap]
      exact below.compareKey

theorem Ties.compareKey
    {selector : Selector}
    (tied : selector.Ties left right) :
    selector.direction.orient ((selector.keyOf left).compareKey (selector.keyOf right)) = .eq := by
  obtain ⟨leftKey, rightKey, isLeft, isRight, keysTied⟩ := tied
  rw [keyOf_of_ok isLeft, keyOf_of_ok isRight, keysTied.compareKey]
  cases selector.direction <;> rfl

theorem OrdersBefore.compareRecords
    (before : OrdersBefore left right selectors) : compareRecords selectors left right = .lt := by
  induction before with
  | decides precedes => rw [compareRecords_cons, precedes.compareKey, Ordering.lt_then]
  | ties tied _ decided => rw [compareRecords_cons, tied.compareKey, Ordering.eq_then, decided]

private theorem compareRecords_of_ties
    (tied : ∀ selector ∈ selectors, selector.Ties left right) :
    compareRecords selectors left right = .eq := by
  induction selectors with
  | nil => rfl
  | cons selector rest inductionHypothesis =>
      obtain ⟨firstTied, restTied⟩ := List.forall_mem_cons.mp tied
      rw [compareRecords_cons, firstTied.compareKey, Ordering.eq_then,
        inductionHypothesis restTied]

/-! ## What sorting does -/

/-- The failure of the first record of which a key fails, and in it of the first such key. -/
def FirstFailure
    (selectors : List Selector)
    (records : List Record)
    (failure : Failure) : Prop :=
  ∃ earlier record later before selector after,
    records = earlier ++ record :: later
      ∧ (∀ other ∈ earlier, HasKeys selectors other)
      ∧ selectors = before ++ selector :: after
      ∧ HasKeys before record
      ∧ selector.key record = .error failure

/-- Some records in the order of their keys: numbered, they are the records, no record
stands behind one it goes before, and those with tied keys stand in the order they had. -/
def StablySorted
    (selectors : List Selector)
    (records sorted : List Record) : Prop :=
  ∃ order : List (Record × Nat),
    order.Perm records.zipIdx
      ∧ order.map Prod.fst = sorted
      ∧ order.Pairwise fun earlier later =>
        ¬ OrdersBefore later.1 earlier.1 selectors
          ∧ ((∀ selector ∈ selectors, selector.Ties earlier.1 later.1) → earlier.2 < later.2)

end Selector

open Selector

/-- A key that fails makes sorting fail, and the first that fails gives the failure. -/
theorem sortRecords_eq_error
    {selectors : List Selector}
    {records : List Record}
    (fails : ∃ record ∈ records, ∃ selector ∈ selectors, ∃ failure,
      selector.key record = .error failure) :
    ∃ failure,
      FirstFailure selectors records failure
        ∧ sortRecords selectors records = .error failure := by
  have someKeyedFails : ∃ record ∈ records, ∃ failure, keyed selectors record = .error failure := by
    obtain ⟨record, isRecord, keyFails⟩ := fails
    obtain ⟨_, _, _, failure, -, -, -, keyedFails⟩ := keyed_eq_error keyFails
    exact ⟨record, isRecord, failure, keyedFails⟩
  obtain ⟨earlier, record, later, failure, split, haveKeys, recordFails, together⟩ :=
    mapM_eq_error someKeyedFails
  have earlierHaveKeys : ∀ other ∈ earlier, HasKeys selectors other := by
    intro other isEarlier
    obtain ⟨_, succeeds⟩ := haveKeys other isEarlier
    exact hasKeys_of_keyed succeeds
  rcases hasKeys_or_fails selectors record with hasKeys | keyFails
  · rw [keyed_eq_ok hasKeys] at recordFails
    cases recordFails
  · obtain ⟨before, selector, after, first, splitSelectors, haveBefore, isFirst, keyedFails⟩ :=
      keyed_eq_error keyFails
    obtain rfl := Except.error.inj (keyedFails.symm.trans recordFails)
    refine ⟨first, ⟨earlier, record, later, before, selector, after, split, earlierHaveKeys,
      splitSelectors, haveBefore, isFirst⟩, ?_⟩
    rw [sortRecords_eq_bind, together, error_bind]

/-- Records that have all their keys are put in the order of their keys. -/
theorem sortRecords_eq_ok
    {selectors : List Selector}
    {records : List Record}
    (hasKeys : ∀ record ∈ records, HasKeys selectors record)
    (preordered : ∀ selector ∈ selectors,
      Value.TotallyPreordered (selector.PresentKey records)) :
    ∃ sorted,
      sortRecords selectors records = .ok sorted ∧ StablySorted selectors records sorted := by
  obtain ⟨order, perm, isSort, stable⟩ :=
    sortStable_stable (compareRecords_weakOrder hasKeys preordered)
  refine ⟨_, sortRecords_eq_sortStable hasKeys, order, perm, isSort, stable.imp ?_⟩
  rintro earlier later ⟨notBefore, oldFirst⟩
  constructor
  · intro before
    simp [before.compareRecords] at notBefore
  · intro tied
    apply oldFirst
    simp [compareRecords_of_ties tied]

/-- Sorting is the stable lexicographic sort by the sort keys. If a key of a record
fails, sorting fails with the first failure. Else, if the order of the present keys of
each selector is a total preorder, the records are put in the order of their keys. It is
one for the selectors of every order over conforming records, not-a-number apart. -/
theorem sortRecords_stable_lexicographic :
    (∀ (selectors : List Selector) (records : List Record),
      (∃ record ∈ records, ∃ selector ∈ selectors, ∃ failure,
        selector.key record = .error failure) →
        ∃ failure,
          FirstFailure selectors records failure
            ∧ sortRecords selectors records = .error failure)
      ∧ (∀ (selectors : List Selector) (records : List Record),
        (∀ record ∈ records, HasKeys selectors record) →
        (∀ selector ∈ selectors, Value.TotallyPreordered (selector.PresentKey records)) →
          ∃ sorted,
            sortRecords selectors records = .ok sorted
              ∧ StablySorted selectors records sorted)
      ∧ ∀ (order : OrderClause) (context : Context) (selectors : List Selector)
        (records : List Record),
        context.catalog.conversions.Conservative →
        (∀ term ∈ order.terms, term.key.LiteralsConform context.catalog) →
        context.scope = [] →
        order.bindIn context = .ok selectors →
        (∀ record ∈ records,
          (Value.record record).Conforms context.catalog (.required context.elementType)) →
          ∀ selector ∈ selectors,
            (∀ key, selector.PresentKey records key → ¬ key.IsNotANumber) →
              Value.TotallyPreordered (selector.PresentKey records) := by
  refine ⟨?_, ?_, ?_⟩
  · intro selectors records fails
    exact sortRecords_eq_error fails
  · intro selectors records hasKeys preordered
    exact sortRecords_eq_ok hasKeys preordered
  · intro order context selectors records conservative literals outermost bound conform selector
      isSelector numbers
    exact OrderClause.keys_preordered conservative literals outermost bound conform isSelector
      numbers

def priceDescending : Selector where
  lambda :=
    ⟨⟨"item", .required (.structured "Product")⟩,
      .read (.parameter "item" (.required (.structured "Product"))) "price" (.optional .int32)⟩
  direction := .descending

/-- A share of the price among nobody. -/
def priceOverZero : Selector where
  lambda :=
    ⟨⟨"item", .required (.structured "Product")⟩,
      .arithmetic .div priceDescending.lambda.body (.constant (.int32 0) (.required .int32))
        (.optional .int32)⟩
  direction := .ascending

def byPrice : OrderClause where
  terms := [⟨.member (.reference "item") "price", .descending⟩]
  rangeVariable := "item"

def somePrices : List Record :=
  [[("price", .int32 3)], [], [("price", .int32 7)]]

example :
    sortRecords [priceDescending] somePrices =
      .ok [[("price", .int32 7)], [("price", .int32 3)], []] :=
  rfl

private theorem somePrices_conform :
    ∀ record ∈ somePrices, (Value.record record).Conforms FilterClause.productCatalog
      (.required (.structured "Product")) := by
  intro record member
  apply FilterClause.product_conforms
  simp only [somePrices, List.mem_cons, List.not_mem_nil, or_false] at member
  rcases member with rfl | rfl | rfl
  · exact .single rfl
  · exact .absent
  · exact .single rfl

private theorem somePrices_numbers :
    ∀ key, priceDescending.PresentKey somePrices key → ¬ key.IsNotANumber := by
  rintro key ⟨-, record, member, isKey⟩
  rw [key_of_directMember? rfl] at isKey
  obtain rfl := Except.ok.inj isKey
  simp only [somePrices, List.mem_cons, List.not_mem_nil, or_false] at member
  rcases member with rfl | rfl | rfl <;> exact id

theorem sortRecords_stable_lexicographic_byPrice :
    FilterClause.productCatalog.conversions.Conservative
      ∧ byPrice.bindIn (.start FilterClause.productCatalog (.structured "Product") {}) =
        .ok [priceDescending]
      ∧ Value.TotallyPreordered (priceDescending.PresentKey somePrices)
      ∧ (∃ sorted,
        sortRecords [priceDescending] somePrices = .ok sorted
          ∧ StablySorted [priceDescending] somePrices sorted)
      ∧ priceOverZero.key [("price", .int32 3)] = .error .divisionByZero
      ∧ ∃ failure,
        FirstFailure [priceDescending, priceOverZero] somePrices failure
          ∧ sortRecords [priceDescending, priceOverZero] somePrices = .error failure := by
  obtain ⟨failing, sorting, preordering⟩ := sortRecords_stable_lexicographic
  have conservative : FilterClause.productCatalog.conversions.Conservative :=
    ConversionTable.standard_conservative
  have bound : byPrice.bindIn (.start FilterClause.productCatalog (.structured "Product") {}) =
      .ok [priceDescending] := rfl
  have literals : ∀ term ∈ byPrice.terms,
      term.key.LiteralsConform FilterClause.productCatalog := by
    intro term member
    obtain rfl := List.mem_singleton.mp member
    exact trivial
  have preordered : Value.TotallyPreordered (priceDescending.PresentKey somePrices) :=
    preordering _ _ _ _ conservative literals rfl bound somePrices_conform _
      (List.mem_singleton_self _) somePrices_numbers
  have hasKeys : ∀ record ∈ somePrices, HasKeys [priceDescending] record := by
    intro record _ selector member
    obtain rfl := List.mem_singleton.mp member
    exact ⟨_, key_of_directMember? rfl record⟩
  have sorts := sorting [priceDescending] somePrices hasKeys
    (List.forall_mem_singleton.mpr preordered)
  have divides : priceOverZero.key [("price", .int32 3)] = .error .divisionByZero := rfl
  exact ⟨conservative, bound, preordered, sorts, divides,
    failing _ _ ⟨_, List.mem_cons_self, _, List.mem_cons_of_mem _ List.mem_cons_self, _, divides⟩⟩

end ClauseBinding
