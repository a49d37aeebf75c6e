import Mathlib.Data.List.Pairwise
import ClauseBinding.Proofs.Order.Sort
import ClauseBinding.Proofs.Rows.Collect

/-!
Contract: a stable order makes the result independent of the order of the records.

Owns:
- records that differ in a member of the key;
- that the selectors of a stable order tell any two such records apart;
- that filtering and sorting have one result for all orders of such records.

Does not own: which records have distinct keys.
-/

namespace ClauseBinding

open ClauseBinding.Outcome

/-- Records of which a key member is less or greater in one than in the other. -/
def Record.DifferIn
    (key : List String)
    (left right : Record) : Prop :=
  ∃ member ∈ key, ∃ ordering,
    (left.read member).compare? (right.read member) = some ordering ∧ ordering ≠ .eq

theorem Record.DifferIn.symm
    {key : List String}
    {left right : Record}
    (differ : Record.DifferIn key left right) : Record.DifferIn key right left := by
  obtain ⟨member, isKey, ordering, compared, different⟩ := differ
  refine ⟨member, isKey, ordering.swap, ?_, ?_⟩
  · rw [Value.compare?_swap, compared, Option.map_some]
  · cases ordering <;> simp at different ⊢

namespace Selector

variable {selectors : List Selector} {left right : Record}

/-- Records that no selector tells apart have alike keys by each of them. -/
theorem compareKey_of_compareRecords
    (alike : compareRecords selectors left right = .eq) :
    ∀ selector ∈ selectors, (selector.keyOf left).compareKey (selector.keyOf right) = .eq := by
  induction selectors with
  | nil => exact fun _ absurd => nomatch absurd
  | cons selector rest inductionHypothesis =>
      rw [compareRecords_cons, Ordering.then_eq_eq] at alike
      refine List.forall_mem_cons.mpr ⟨?_, inductionHypothesis alike.2⟩
      cases direction : selector.direction with
      | ascending => simpa [direction, Direction.orient] using alike.1
      | descending => simpa [direction, Direction.orient] using alike.1

/-- A selector that reads a key member directly tells apart what differs in it. -/
theorem compareRecords_ne_eq
    {key : List String}
    (reads : ∀ member ∈ key, ∃ selector ∈ selectors, selector.directMember? = some member)
    (differ : Record.DifferIn key left right) : compareRecords selectors left right ≠ .eq := by
  intro alike
  obtain ⟨member, isKey, ordering, compared, different⟩ := differ
  obtain ⟨selector, isSelector, direct⟩ := reads member isKey
  have keysAlike := compareKey_of_compareRecords alike selector isSelector
  rw [keyOf_of_ok (key_of_directMember? direct left),
    keyOf_of_ok (key_of_directMember? direct right),
    Value.compareKey_of_compare? compared] at keysAlike
  exact different keysAlike

end Selector

variable {selectors : List Selector} {records others sorted : List Record} {key : List String}

/-- Sorting records that differ in a key that the selectors read gives one result for
all orders of the records. -/
theorem sortRecords_eq_of_perm
    (preordered : ∀ selector ∈ selectors,
      Value.TotallyPreordered (selector.PresentKey records))
    (reads : ∀ member ∈ key, ∃ selector ∈ selectors, selector.directMember? = some member)
    (distinct : records.Pairwise (Record.DifferIn key))
    (same : others.Perm records)
    (sorts : sortRecords selectors records = .ok sorted) :
    sortRecords selectors others = .ok sorted := by
  have hasKeys := hasKeys_of_sortRecords sorts
  have othersHaveKeys : ∀ record ∈ others, Selector.HasKeys selectors record :=
    fun record member => hasKeys record (same.mem_iff.mp member)
  have weak := Selector.compareRecords_weakOrder hasKeys preordered
  have strict : ∀ left ∈ records, ∀ right ∈ records,
      (Selector.compareRecords selectors left right == .lt) = false →
        (Selector.compareRecords selectors right left == .lt) = false → left = right := by
    intro left leftMember right rightMember notBefore notAfter
    by_contra different
    have symmetric : Std.Symm (Record.DifferIn key) := ⟨fun _ _ => Record.DifferIn.symm⟩
    have differ : Record.DifferIn key left right :=
      distinct.forall leftMember rightMember different
    apply Selector.compareRecords_ne_eq reads differ
    rw [Selector.compareRecords_swap selectors left right] at notAfter
    cases outcome : Selector.compareRecords selectors left right <;> simp_all
  rw [sortRecords_eq_sortStable othersHaveKeys, sortStable_eq_of_perm weak strict same,
    ← sortRecords_eq_sortStable hasKeys, sorts]

/-- Filtering and sorting in a stable order has one result for all orders of records
that differ in the key of their type. -/
theorem applyClauses_eq_of_perm
    {catalog : Catalog}
    {typeName : String}
    {configuration : Configuration}
    {filter? : Option FilterClause}
    {order : OrderClause}
    (stable : configuration.stableOrder = true)
    (distinct : records.Pairwise (Record.DifferIn (catalog.keyMembers typeName)))
    (preordered : ∀ selectors,
      order.bindIn (.start catalog (.structured typeName) configuration) = .ok selectors →
        ∀ selector ∈ selectors, Value.TotallyPreordered (selector.PresentKey records))
    (same : others.Perm records)
    (applies : applyClauses catalog (.structured typeName) configuration filter? (some order)
      records = .ok sorted) :
    applyClauses catalog (.structured typeName) configuration filter? (some order) others =
      .ok sorted := by
  rw [applyClauses_eq_bind] at applies ⊢
  obtain ⟨filters, filterBound, remaining⟩ := bind_eq_ok.mp applies
  obtain ⟨kept, collected, remaining⟩ := bind_eq_ok.mp remaining
  obtain ⟨selectors, orderBound, sorts⟩ := bind_eq_ok.mp remaining
  obtain ⟨decided, rfl⟩ := Rows.collect_eq_ok.mp collected
  have othersDecided : ∀ record ∈ others, ∃ passed,
      Rows.decision filters record = .ok passed :=
    fun record member => decided record (same.mem_iff.mp member)
  have othersCollected := Rows.collect_eq_ok.mpr ⟨othersDecided, rfl⟩
  have keptPreordered : ∀ selector ∈ selectors, Value.TotallyPreordered
      (selector.PresentKey (records.filter (Rows.passes (Rows.decision filters)))) :=
    fun selector member =>
      Selector.preordered_of_subset (List.filter_subset_self records)
        (preordered selectors orderBound selector member)
  have reads := OrderClause.key_of_bindIn stable orderBound
  have othersSort :=
    sortRecords_eq_of_perm keptPreordered reads (distinct.filter _) (same.filter _) sorts
  rw [filterBound, ok_bind, othersCollected, ok_bind, orderBound, ok_bind, othersSort]

/-- Items that are known by number, and may belong to a group. -/
def itemCatalog : Catalog where
  types := [("Item", ⟨"Item", [⟨"id", .int32, false⟩, ⟨"group", .int32, true⟩], ["id"]⟩)]
  enumerations := []
  conversions := .standard

def inGroup : FilterClause where
  condition :=
    .binary (.comparison .ge) (.member (.reference "item") "group")
      (.literal (.int32 1) (.required .int32))
  rangeVariable := "item"

def byGroup : OrderClause where
  terms := [⟨.member (.reference "item") "group", .descending⟩]
  rangeVariable := "item"

def someItems : List Record :=
  [[("id", .int32 2), ("group", .int32 1)], [("id", .int32 3)],
    [("id", .int32 1), ("group", .int32 1)]]

private theorem someItems_distinct :
    someItems.Pairwise (Record.DifferIn (itemCatalog.keyMembers "Item")) := by
  have differ : ∀ {left right : Record} {ordering : Ordering},
      (left.read "id").compare? (right.read "id") = some ordering → ordering ≠ .eq →
        Record.DifferIn (itemCatalog.keyMembers "Item") left right :=
    fun compared different => ⟨"id", List.mem_singleton_self _, _, compared, different⟩
  refine .cons ?_ (.cons ?_ (List.pairwise_singleton _ _))
  · exact List.forall_mem_cons.mpr ⟨differ rfl (by decide),
      List.forall_mem_singleton.mpr (differ rfl (by decide))⟩
  · exact List.forall_mem_singleton.mpr (differ rfl (by decide))

/-- Groups and numbers of items are whole numbers, so any two of them are compared. -/
theorem someItems_preordered :
    ∀ selectors,
      byGroup.bindIn (.start itemCatalog (.structured "Item") ⟨100, true⟩) = .ok selectors →
        ∀ selector ∈ selectors, Value.TotallyPreordered (selector.PresentKey someItems) := by
  intro selectors bound selector isSelector
  have whole : ∀ member ∈ ["group", "id"], ∀ record ∈ someItems,
      (record.read member).isNull = true ∨ ∃ number, record.read member = .int32 number := by
    simp [someItems, Record.read, Table.find?, Value.isNull]
  have reads : ∃ member ∈ ["group", "id"], selector.directMember? = some member := by
    obtain rfl := Except.ok.inj bound
    rcases List.mem_cons.mp isSelector with rfl | isLast
    · exact ⟨"group", List.mem_cons_self, rfl⟩
    · obtain rfl := List.mem_singleton.mp isLast
      exact ⟨"id", List.mem_cons_of_mem _ List.mem_cons_self, rfl⟩
  obtain ⟨member, isMember, direct⟩ := reads
  have number : ∀ {key}, selector.PresentKey someItems key → ∃ number, key = .int32 number := by
    rintro key ⟨present, record, isItem, isKey⟩
    rw [Selector.key_of_directMember? direct] at isKey
    obtain rfl := Except.ok.inj isKey
    rcases whole member isMember record isItem with absent | isNumber
    · rw [present] at absent
      cases absent
    · exact isNumber
  apply Value.totallyPreordered_of_compared
  intro left right leftPresent rightPresent
  obtain ⟨leftNumber, rfl⟩ := number leftPresent
  obtain ⟨rightNumber, rfl⟩ := number rightPresent
  exact ⟨_, rfl⟩

theorem applyClauses_eq_of_perm_someItems :
    someItems.Pairwise (Record.DifferIn (itemCatalog.keyMembers "Item"))
      ∧ someItems.reverse.Perm someItems
      ∧ applyClauses itemCatalog (.structured "Item") ⟨100, true⟩ (some inGroup) (some byGroup)
          someItems =
        .ok [[("id", .int32 1), ("group", .int32 1)], [("id", .int32 2), ("group", .int32 1)]]
      ∧ applyClauses itemCatalog (.structured "Item") ⟨100, true⟩ (some inGroup) (some byGroup)
          someItems.reverse =
        .ok [[("id", .int32 1), ("group", .int32 1)],
          [("id", .int32 2), ("group", .int32 1)]] := by
  have applies : applyClauses itemCatalog (.structured "Item") ⟨100, true⟩ (some inGroup)
      (some byGroup) someItems =
    .ok [[("id", .int32 1), ("group", .int32 1)], [("id", .int32 2), ("group", .int32 1)]] := rfl
  have same : someItems.reverse.Perm someItems := List.reverse_perm _
  exact ⟨someItems_distinct, same, applies,
    applyClauses_eq_of_perm rfl someItems_distinct someItems_preordered same applies⟩

end ClauseBinding
