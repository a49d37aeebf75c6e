import ClauseBinding.Proofs.Order.Binding

/-!
Contract: what the order of sort keys is worth where keys do not compare.

Owns:
- that it can be read from right to left, for all keys;
- that it is transitive over keys that compare one by one, and that keys of conforming
  records do, unless one of them is not-a-number;
- that not-a-number counts as like every present key, and so as like keys that are not alike.

Does not own: the comparison of values, or the sort.

Keys without an order count as alike. Of three keys, it is enough that the first compares
with the second and the second with the third: the first then compares with the third. So
the fault lies with single keys, not with the way from one selector to the next.
-/

namespace ClauseBinding

open ClauseBinding.Outcome

/-! ## One key -/

namespace Value

/-- Not-a-number counts as like every present key. -/
theorem compareKey_of_notANumber
    {left right : Value}
    (unordered : left.IsNotANumber)
    (present : right.isNull = false) :
    left.compareKey right = .eq ∧ right.compareKey left = .eq := by
  have leftPresent : left.isNull = false := by
    cases left with
    | null => exact unordered.elim
    | _ => rfl
  have alike : left.compareKey right = .eq := by
    rw [compareKey, leftPresent, present, compare?_of_notANumber unordered]
    rfl
  exact ⟨alike, by rw [compareKey_swap, alike]; rfl⟩

end Value

/-! ## Several keys -/

namespace Selector

def KeysCompare (left right : List Value) : Prop :=
  List.Forall₂ Value.ComparesAsKey left right

/-- One selector, in its direction. Descending, the keys are in order from right to left. -/
theorem orient_chain
    (direction : Direction)
    {first second third : Value}
    (firstCompares : first.ComparesAsKey second)
    (secondCompares : second.ComparesAsKey third)
    (firstLE : (direction.orient (first.compareKey second)).isLE = true)
    (secondLE : (direction.orient (second.compareKey third)).isLE = true) :
    direction.orient (first.compareKey third) = .lt
      ∨ direction.orient (first.compareKey second) = .eq
        ∧ direction.orient (second.compareKey third) = .eq
        ∧ direction.orient (first.compareKey third) = .eq := by
  cases direction with
  | ascending => exact Value.compareKey_chain firstCompares secondCompares firstLE secondLE
  | descending =>
      simp only [Direction.orient, ← Value.compareKey_swap] at firstLE secondLE ⊢
      rcases Value.compareKey_chain secondCompares.symm firstCompares.symm secondLE firstLE with
        below | ⟨secondAlike, firstAlike, endsAlike⟩
      · exact .inl below
      · exact .inr ⟨firstAlike, secondAlike, endsAlike⟩

variable {selectors : List Selector}

/-- Keys are in order transitively if the first compare with the second and the second with
the third. The selectors are general, as where all three are alike the next one decides. -/
theorem compareKeys_trans
    {first second third : List Value}
    (firstCompare : KeysCompare first second)
    (secondCompare : KeysCompare second third)
    (firstLE : (compareKeys selectors first second).isLE = true)
    (secondLE : (compareKeys selectors second third).isLE = true) :
    (compareKeys selectors first third).isLE = true := by
  induction firstCompare generalizing selectors third with
  | nil => cases selectors <;> rfl
  | @cons firstKey secondKey first second firstKeyCompares _ inductionHypothesis =>
      cases secondCompare with
      | @cons _ thirdKey _ third secondKeyCompares secondCompare =>
          cases selectors with
          | nil => rfl
          | cons selector rest =>
              rw [compareKeys] at firstLE secondLE ⊢
              obtain ⟨firstKeyLE, firstRest⟩ := Ordering.isLE_then_iff_and.mp firstLE
              obtain ⟨secondKeyLE, secondRest⟩ := Ordering.isLE_then_iff_and.mp secondLE
              rcases orient_chain selector.direction firstKeyCompares secondKeyCompares firstKeyLE
                secondKeyLE with below | ⟨firstAlike, secondAlike, endsAlike⟩
              · rw [below]
                rfl
              · rw [firstAlike, Ordering.eq_then] at firstLE
                rw [secondAlike, Ordering.eq_then] at secondLE
                rw [endsAlike, Ordering.eq_then]
                exact inductionHypothesis secondCompare firstLE secondLE

/-- By one selector not-a-number is like every present key, though these be in order. -/
theorem compareKeys_of_notANumber
    {left right : Value}
    (selector : Selector)
    (unordered : left.IsNotANumber)
    (present : right.isNull = false) :
    compareKeys [selector] [left] [right] = .eq ∧ compareKeys [selector] [right] [left] = .eq := by
  obtain ⟨before, after⟩ := Value.compareKey_of_notANumber unordered present
  rw [compareKeys, compareKeys, before, after]
  cases selector.direction <;> exact ⟨rfl, rfl⟩

/-- The keys of two records compare one by one if those of each selector do. -/
theorem keysCompare_of_each
    {first second : Record}
    {firstKeys secondKeys : List Value}
    (firstAre : keys selectors first = .ok firstKeys)
    (secondAre : keys selectors second = .ok secondKeys)
    (each : ∀ selector ∈ selectors, ∀ firstKey ∈ firstKeys, ∀ secondKey ∈ secondKeys,
      selector.key first = .ok firstKey → selector.key second = .ok secondKey →
        firstKey.ComparesAsKey secondKey) : KeysCompare firstKeys secondKeys := by
  induction selectors generalizing firstKeys secondKeys with
  | nil =>
      obtain rfl := Except.ok.inj firstAre
      obtain rfl := Except.ok.inj secondAre
      exact .nil
  | cons selector rest inductionHypothesis =>
      rw [keys, List.mapM_cons] at firstAre secondAre
      obtain ⟨firstKey, firstIs, firstRemaining⟩ := Outcome.bind_eq_ok.mp firstAre
      obtain ⟨firstOthers, firstOthersAre, firstTogether⟩ := Outcome.bind_eq_ok.mp firstRemaining
      obtain ⟨secondKey, secondIs, secondRemaining⟩ := Outcome.bind_eq_ok.mp secondAre
      obtain ⟨secondOthers, secondOthersAre, secondTogether⟩ := Outcome.bind_eq_ok.mp secondRemaining
      obtain rfl := Except.ok.inj firstTogether
      obtain rfl := Except.ok.inj secondTogether
      refine .cons ?_ (inductionHypothesis firstOthersAre secondOthersAre ?_)
      · exact each selector List.mem_cons_self firstKey List.mem_cons_self secondKey
          List.mem_cons_self firstIs secondIs
      · intro other isOther firstOther firstMember secondOther secondMember
        exact each other (List.mem_cons_of_mem _ isOther) firstOther
          (List.mem_cons_of_mem _ firstMember) secondOther (List.mem_cons_of_mem _ secondMember)

end Selector

/-- The keys of conforming records by an order compare one by one, not-a-number apart. -/
theorem OrderClause.keys_compare
    {order : OrderClause}
    {context : Context}
    {selectors : List Selector}
    {first second : Record}
    {firstKeys secondKeys : List Value}
    (conservative : context.catalog.conversions.Conservative)
    (literals : ∀ term ∈ order.terms, term.key.LiteralsConform context.catalog)
    (outermost : context.scope = [])
    (bound : order.bindIn context = .ok selectors)
    (firstConforms : (Value.record first).Conforms context.catalog
      (.required context.elementType))
    (secondConforms : (Value.record second).Conforms context.catalog
      (.required context.elementType))
    (firstAre : Selector.keys selectors first = .ok firstKeys)
    (secondAre : Selector.keys selectors second = .ok secondKeys)
    (firstNumbers : ∀ key ∈ firstKeys, ¬ key.IsNotANumber)
    (secondNumbers : ∀ key ∈ secondKeys, ¬ key.IsNotANumber) :
    Selector.KeysCompare firstKeys secondKeys := by
  apply Selector.keysCompare_of_each firstAre secondAre
  intro selector isSelector firstKey firstMember secondKey secondMember firstIs secondIs
    firstPresent secondPresent
  have firstType := key_type_of_bindIn conservative literals outermost bound isSelector
    firstConforms firstIs firstPresent
  have secondType := key_type_of_bindIn conservative literals outermost bound isSelector
    secondConforms secondIs secondPresent
  exact Value.exists_compare? firstType secondType (firstNumbers firstKey firstMember)
    (secondNumbers secondKey secondMember)

/-- What the order of sort keys is worth, for the selectors of an order and records that
have keys. It can always be read from right to left. It is transitive where the first keys
compare one by one with the second, and the second with the third; so do the keys of
conforming records, if none of them is not-a-number. -/
theorem OrderClause.compareKeys_preorder
    {order : OrderClause}
    {context : Context}
    {selectors : List Selector}
    {first second third : Record}
    {firstKeys secondKeys thirdKeys : List Value}
    (bound : order.bindIn context = .ok selectors)
    (firstAre : Selector.keys selectors first = .ok firstKeys)
    (secondAre : Selector.keys selectors second = .ok secondKeys)
    (thirdAre : Selector.keys selectors third = .ok thirdKeys) :
    Selector.compareKeys selectors firstKeys secondKeys =
        (Selector.compareKeys selectors secondKeys firstKeys).swap
      ∧ (Selector.KeysCompare firstKeys secondKeys →
        Selector.KeysCompare secondKeys thirdKeys →
        Selector.compareKeys selectors firstKeys secondKeys ≠ .gt →
        Selector.compareKeys selectors secondKeys thirdKeys ≠ .gt →
          Selector.compareKeys selectors firstKeys thirdKeys ≠ .gt)
      ∧ (context.catalog.conversions.Conservative →
        (∀ term ∈ order.terms, term.key.LiteralsConform context.catalog) →
        context.scope = [] →
        (∀ record ∈ [first, second, third],
          (Value.record record).Conforms context.catalog (.required context.elementType)) →
        (∀ key ∈ firstKeys ++ secondKeys ++ thirdKeys, ¬ key.IsNotANumber) →
          Selector.KeysCompare firstKeys secondKeys
            ∧ Selector.KeysCompare secondKeys thirdKeys) := by
  refine ⟨Selector.compareKeys_swap .., ?_, ?_⟩
  · intro firstCompare secondCompare firstLE secondLE
    apply Ordering.isLE_iff_ne_gt.mp
    exact Selector.compareKeys_trans firstCompare secondCompare
      (Ordering.isLE_iff_ne_gt.mpr firstLE) (Ordering.isLE_iff_ne_gt.mpr secondLE)
  · intro conservative literals outermost conform numbers
    have firstConforms := conform first (by simp)
    have secondConforms := conform second (by simp)
    have thirdConforms := conform third (by simp)
    have firstNumbers : ∀ key ∈ firstKeys, ¬ key.IsNotANumber :=
      fun key member => numbers key (by simp [member])
    have secondNumbers : ∀ key ∈ secondKeys, ¬ key.IsNotANumber :=
      fun key member => numbers key (by simp [member])
    have thirdNumbers : ∀ key ∈ thirdKeys, ¬ key.IsNotANumber :=
      fun key member => numbers key (by simp [member])
    exact ⟨keys_compare conservative literals outermost bound firstConforms secondConforms
        firstAre secondAre firstNumbers secondNumbers,
      keys_compare conservative literals outermost bound secondConforms thirdConforms secondAre
        thirdAre secondNumbers thirdNumbers⟩

/-- Gauges, each with a level. -/
def gaugeCatalog : Catalog where
  types := [("Gauge", ⟨"Gauge", [⟨"level", .float64, false⟩], []⟩)]
  enumerations := []
  conversions := .standard

def byLevel : OrderClause where
  terms := [⟨.member (.reference "item") "level", .ascending⟩]
  rangeVariable := "item"

def levelAscending : Selector where
  lambda :=
    ⟨⟨"item", .required (.structured "Gauge")⟩,
      .read (.parameter "item" (.required (.structured "Gauge"))) "level" (.required .float64)⟩
  direction := .ascending

def gauge (level : Float) : Record :=
  [("level", .float64 level)]

private theorem gauge_conforms (level : Float) :
    (Value.record (gauge level)).Conforms gaugeCatalog (.required (.structured "Gauge")) := by
  apply Value.Conforms.record
  intro member definition declared
  by_cases isLevel : member = "level"
  · subst isLevel
    obtain rfl := Option.some.inj declared
    exact .single rfl
  · simp [Catalog.member?, Catalog.type?, gaugeCatalog, Table.find?, StructuredType.member?,
      Ne.symm isLevel] at declared

private theorem gauge_keys (level : Float) :
    Selector.keys [levelAscending] (gauge level) = .ok [.float64 level] := by
  have isKey : levelAscending.key (gauge level) = .ok (.float64 level) :=
    @Selector.key_of_directMember? levelAscending "level" rfl (gauge level)
  rw [Selector.keys, List.mapM_cons, isKey]
  rfl

/-- Gauges of level zero, one and two are in order. -/
theorem OrderClause.compareKeys_preorder_gauges :
    byLevel.bindIn (.start gaugeCatalog (.structured "Gauge") {}) = .ok [levelAscending]
      ∧ (∀ level, Selector.keys [levelAscending] (gauge level) = .ok [.float64 level])
      ∧ Selector.KeysCompare [.float64 0.0] [.float64 1.0]
      ∧ Selector.KeysCompare [.float64 1.0] [.float64 2.0]
      ∧ Selector.compareKeys [levelAscending] [.float64 0.0] [.float64 1.0] =
        (Selector.compareKeys [levelAscending] [.float64 1.0] [.float64 0.0]).swap
      ∧ Selector.compareKeys [levelAscending] [.float64 0.0] [.float64 2.0] ≠ .gt := by
  have bound : byLevel.bindIn (.start gaugeCatalog (.structured "Gauge") {}) =
      .ok [levelAscending] := rfl
  obtain ⟨reversed, transitive, compared⟩ :=
    compareKeys_preorder bound (gauge_keys 0.0) (gauge_keys 1.0) (gauge_keys 2.0)
  have literals : ∀ term ∈ byLevel.terms, term.key.LiteralsConform gaugeCatalog :=
    List.forall_mem_singleton.mpr trivial
  have conform : ∀ record ∈ [gauge 0.0, gauge 1.0, gauge 2.0],
      (Value.record record).Conforms gaugeCatalog (.required (.structured "Gauge")) :=
    List.forall_mem_cons.mpr ⟨gauge_conforms _, List.forall_mem_cons.mpr
      ⟨gauge_conforms _, List.forall_mem_singleton.mpr (gauge_conforms _)⟩⟩
  have numbers : ∀ key ∈ [Value.float64 0.0] ++ [.float64 1.0] ++ [.float64 2.0],
      ¬ key.IsNotANumber :=
    List.forall_mem_cons.mpr ⟨nofun, List.forall_mem_cons.mpr
      ⟨nofun, List.forall_mem_singleton.mpr nofun⟩⟩
  obtain ⟨zeroOne, oneTwo⟩ :=
    compared ConversionTable.standard_conservative literals rfl conform numbers
  exact ⟨bound, gauge_keys, zeroOne, oneTwo, reversed,
    transitive zeroOne oneTwo nofun nofun⟩

/-- One is at most not-a-number and that is at most zero, but one is greater than zero. So
gauges of these levels stay as they are when they are sorted, one before zero. -/
theorem levels_not_preordered :
    byLevel.bindIn (.start gaugeCatalog (.structured "Gauge") {}) = .ok [levelAscending]
      ∧ (∀ level ∈ [1.0, 0.0 / 0.0, 0.0],
        (Value.record (gauge level)).Conforms gaugeCatalog (.required (.structured "Gauge"))
          ∧ Selector.keys [levelAscending] (gauge level) = .ok [.float64 level])
      ∧ Selector.compareKeys [levelAscending] [.float64 1.0] [.float64 (0.0 / 0.0)] ≠ .gt
      ∧ Selector.compareKeys [levelAscending] [.float64 (0.0 / 0.0)] [.float64 0.0] ≠ .gt
      ∧ Selector.compareKeys [levelAscending] [.float64 1.0] [.float64 0.0] = .gt
      ∧ sortRecords [levelAscending] [gauge 1.0, gauge (0.0 / 0.0), gauge 0.0] =
        .ok [gauge 1.0, gauge (0.0 / 0.0), gauge 0.0] := by
  have unordered : (Value.float64 (0.0 / 0.0)).IsNotANumber := by
    show Number.Double.reading (0.0 / 0.0) = .notANumber
    rfl
  have oneTies := (Selector.compareKeys_of_notANumber levelAscending unordered
    (rfl : (Value.float64 1.0).isNull = false)).2
  have zeroTies := (Selector.compareKeys_of_notANumber levelAscending unordered
    (rfl : (Value.float64 0.0).isNull = false)).1
  refine ⟨rfl, fun level _ => ⟨gauge_conforms level, gauge_keys level⟩, ?_, ?_, rfl, rfl⟩
  · rw [oneTies]
    exact nofun
  · rw [zeroTies]
    exact nofun

end ClauseBinding
