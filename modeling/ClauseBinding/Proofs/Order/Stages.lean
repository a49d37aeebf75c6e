import ClauseBinding.Proofs.Order.Independence

/-!
Contract: filtering and sorting as two stages that commute.

Owns:
- sorting by an order that may be missing, and what it makes of sorted and of fewer records;
- that filtering and sorting once more changes nothing;
- that the sorted records, filtered, are the filtered records, sorted.

Does not own: which records are let through, or how keys compare.

Ties are why this needs the sort to be stable: records that no selector tells apart come
out in the order they had, so both ways have to hand them to the sort in one order. The
numbers that items carry through the sort say so, and leaving out records leaves them
increasing.
-/

namespace ClauseBinding

open ClauseBinding.Outcome

/-! ## Sorting -/

variable {selectors : List Selector} {records sorted : List Record}

private theorem sortRecords_perm (sorts : sortRecords selectors records = .ok sorted) :
    sorted.Perm records := by
  rw [sortRecords_eq_sortStable (hasKeys_of_sortRecords sorts)] at sorts
  obtain rfl := Except.ok.inj sorts
  exact sortStable_perm records

/-- Leaving out records before they are sorted is leaving them out afterwards. -/
theorem sortRecords_filter
    (preordered : ∀ selector ∈ selectors, Value.TotallyPreordered (selector.PresentKey records))
    (sorts : sortRecords selectors records = .ok sorted)
    (keep : Record → Bool) :
    sortRecords selectors (records.filter keep) = .ok (sorted.filter keep) := by
  have hasKeys := hasKeys_of_sortRecords sorts
  have keptHaveKeys : ∀ record ∈ records.filter keep, Selector.HasKeys selectors record :=
    fun record member => hasKeys record (List.mem_of_mem_filter member)
  have weak := Selector.compareRecords_weakOrder hasKeys preordered
  rw [sortRecords_eq_sortStable hasKeys] at sorts
  obtain rfl := Except.ok.inj sorts
  rw [sortRecords_eq_sortStable keptHaveKeys, sortStable_filter weak]

/-- Sorted records stay as they are. -/
theorem sortRecords_again
    (preordered : ∀ selector ∈ selectors, Value.TotallyPreordered (selector.PresentKey records))
    (sorts : sortRecords selectors records = .ok sorted) :
    sortRecords selectors sorted = .ok sorted := by
  have same := sortRecords_perm sorts
  have hasKeys := hasKeys_of_sortRecords sorts
  have sortedHaveKeys : ∀ record ∈ sorted, Selector.HasKeys selectors record :=
    fun record member => hasKeys record (same.mem_iff.mp member)
  have weak := Selector.compareRecords_weakOrder hasKeys preordered
  rw [sortRecords_eq_sortStable hasKeys] at sorts
  obtain rfl := Except.ok.inj sorts
  rw [sortRecords_eq_sortStable sortedHaveKeys,
    sortStable_of_sorted (weak.mono same.mem_iff.mp) (sortStable_sorted weak)]

/-! ## Orders that may be missing -/

namespace OrderClause

def arrange
    (order? : Option OrderClause)
    (context : Context)
    (records : List Record) : Except Failure (List Record) :=
  match order? with
  | some order => do
      let selectors ← order.bindIn context
      sortRecords selectors records
  | none => pure records

/-- Any two present keys of some records compare, transitively, by each selector of an
order. -/
def ComparesKeys
    (order? : Option OrderClause)
    (context : Context)
    (records : List Record) : Prop :=
  ∀ order ∈ order?, ∀ selectors, order.bindIn context = .ok selectors →
    ∀ selector ∈ selectors, Value.TotallyPreordered (selector.PresentKey records)

variable {order? : Option OrderClause} {context : Context}

theorem ComparesKeys.mono
    {fewer : List Record}
    (compares : ComparesKeys order? context records)
    (subset : fewer ⊆ records) : ComparesKeys order? context fewer :=
  fun order isOrder selectors bound selector member =>
    Selector.preordered_of_subset subset (compares order isOrder selectors bound selector member)

private theorem arrange_perm (arranged : arrange order? context records = .ok sorted) :
    sorted.Perm records := by
  cases order? with
  | none =>
      obtain rfl := Except.ok.inj arranged
      exact .refl _
  | some order =>
      obtain ⟨selectors, _, sorts⟩ := bind_eq_ok.mp arranged
      exact sortRecords_perm sorts

private theorem arrange_filter
    (compares : ComparesKeys order? context records)
    (arranged : arrange order? context records = .ok sorted)
    (keep : Record → Bool) :
    arrange order? context (records.filter keep) = .ok (sorted.filter keep) := by
  cases order? with
  | none =>
      obtain rfl := Except.ok.inj arranged
      rfl
  | some order =>
      obtain ⟨selectors, bound, sorts⟩ := bind_eq_ok.mp arranged
      rw [arrange, bound, ok_bind]
      exact sortRecords_filter (compares order rfl selectors bound) sorts keep

private theorem arrange_again
    (compares : ComparesKeys order? context records)
    (arranged : arrange order? context records = .ok sorted) :
    arrange order? context sorted = .ok sorted := by
  cases order? with
  | none => rfl
  | some order =>
      obtain ⟨selectors, bound, sorts⟩ := bind_eq_ok.mp arranged
      rw [arrange, bound, ok_bind]
      exact sortRecords_again (compares order rfl selectors bound) sorts

end OrderClause

/-! ## Both stages -/

variable {catalog : Catalog} {elementType : DataType} {configuration : Configuration}
  {filter? : Option FilterClause} {order? : Option OrderClause}

/-- There is a result if the filter binds and decides every record, and the records that
it lets through can be arranged. -/
theorem applyClauses_eq_ok :
    applyClauses catalog elementType configuration filter? order? records = .ok sorted ↔
      ∃ filters,
        FilterClause.chain filter? (.start catalog elementType configuration) = .ok filters
          ∧ (∀ record ∈ records, ∃ passed, Rows.decision filters record = .ok passed)
          ∧ OrderClause.arrange order? (.start catalog elementType configuration)
            (records.filter (Rows.passes (Rows.decision filters))) = .ok sorted := by
  have stages : applyClauses catalog elementType configuration filter? order? records = (do
      let filters ← FilterClause.chain filter? (.start catalog elementType configuration)
      let kept ← Rows.collect ⟨filters, records⟩
      OrderClause.arrange order? (.start catalog elementType configuration) kept) := by
    cases order? with
    | some order => exact applyClauses_eq_bind ..
    | none =>
        cases filter? with
        | none => rfl
        | some filter => simp only [applyClauses, FilterClause.chain, bind_assoc]; rfl
  rw [stages]
  constructor
  · intro applies
    obtain ⟨filters, bound, applies⟩ := bind_eq_ok.mp applies
    obtain ⟨kept, collected, arranged⟩ := bind_eq_ok.mp applies
    obtain ⟨decided, rfl⟩ := Rows.collect_eq_ok.mp collected
    exact ⟨filters, bound, decided, arranged⟩
  · rintro ⟨filters, bound, decided, arranged⟩
    have collected := Rows.collect_eq_ok.mpr ⟨decided, rfl⟩
    rw [bound, ok_bind, collected, ok_bind, arranged]

/-- Filtering and sorting once more changes nothing, and the two stages commute: the
sorted records, filtered, are the filtered records, sorted, ties included. Present keys
have to compare, as what is sorted by keys without an order need not stay as it is. -/
theorem applyClauses_idempotent_and_commuting
    (compares : OrderClause.ComparesKeys order? (.start catalog elementType configuration)
      records)
    (applies : applyClauses catalog elementType configuration filter? order? records =
      .ok sorted) :
    applyClauses catalog elementType configuration filter? order? sorted = .ok sorted
      ∧ ∀ ordered,
        applyClauses catalog elementType configuration none order? records = .ok ordered →
          applyClauses catalog elementType configuration filter? none ordered = .ok sorted := by
  obtain ⟨filters, bound, decided, arranged⟩ := applyClauses_eq_ok.mp applies
  have keptOfRecords : records.filter (Rows.passes (Rows.decision filters)) ⊆ records :=
    List.filter_subset_self records
  constructor
  · have same := OrderClause.arrange_perm arranged
    have sortedDecided : ∀ record ∈ sorted, ∃ passed,
        Rows.decision filters record = .ok passed :=
      fun record member => decided record (keptOfRecords (same.mem_iff.mp member))
    have allPass : sorted.filter (Rows.passes (Rows.decision filters)) = sorted := by
      apply List.filter_eq_self.mpr
      intro record member
      exact List.of_mem_filter (same.mem_iff.mp member)
    apply applyClauses_eq_ok.mpr
    refine ⟨filters, bound, sortedDecided, ?_⟩
    rw [allPass]
    exact OrderClause.arrange_again (compares.mono keptOfRecords) arranged
  · intro ordered orders
    obtain ⟨noFilters, noneBound, _, allArranged⟩ := applyClauses_eq_ok.mp orders
    obtain rfl := Except.ok.inj noneBound
    have everyRecord : records.filter (Rows.passes (Rows.decision [])) = records :=
      List.filter_eq_self.mpr fun _ _ => rfl
    rw [everyRecord] at allArranged
    have same := OrderClause.arrange_perm allArranged
    have orderedDecided : ∀ record ∈ ordered, ∃ passed,
        Rows.decision filters record = .ok passed :=
      fun record member => decided record (same.mem_iff.mp member)
    have filtered := OrderClause.arrange_filter compares allArranged
      (Rows.passes (Rows.decision filters))
    apply applyClauses_eq_ok.mpr
    exact ⟨filters, bound, orderedDecided, filtered.symm.trans arranged⟩

/-- Of two items of one group and one of none, the two, in the order of their numbers. -/
theorem applyClauses_idempotent_and_commuting_someItems :
    applyClauses itemCatalog (.structured "Item") ⟨100, true⟩ (some inGroup) (some byGroup)
        someItems =
      .ok [[("id", .int32 1), ("group", .int32 1)], [("id", .int32 2), ("group", .int32 1)]]
      ∧ applyClauses itemCatalog (.structured "Item") ⟨100, true⟩ (some inGroup) (some byGroup)
          [[("id", .int32 1), ("group", .int32 1)], [("id", .int32 2), ("group", .int32 1)]] =
        .ok [[("id", .int32 1), ("group", .int32 1)], [("id", .int32 2), ("group", .int32 1)]]
      ∧ ∃ ordered,
        applyClauses itemCatalog (.structured "Item") ⟨100, true⟩ none (some byGroup) someItems =
          .ok ordered
          ∧ applyClauses itemCatalog (.structured "Item") ⟨100, true⟩ (some inGroup) none ordered =
            .ok [[("id", .int32 1), ("group", .int32 1)],
              [("id", .int32 2), ("group", .int32 1)]] := by
  have compares : OrderClause.ComparesKeys (some byGroup)
      (.start itemCatalog (.structured "Item") ⟨100, true⟩) someItems := by
    intro order isOrder
    obtain rfl := Option.some.inj isOrder
    exact someItems_preordered
  have applies : applyClauses itemCatalog (.structured "Item") ⟨100, true⟩ (some inGroup)
      (some byGroup) someItems =
    .ok [[("id", .int32 1), ("group", .int32 1)], [("id", .int32 2), ("group", .int32 1)]] := rfl
  obtain ⟨again, commutes⟩ := applyClauses_idempotent_and_commuting compares applies
  exact ⟨applies, again, _, rfl, commutes _ rfl⟩

end ClauseBinding
