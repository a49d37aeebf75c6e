import ClauseBinding.Proofs.Clause.Condition
import ClauseBinding.Proofs.Meaning.CommonType
import ClauseBinding.Proofs.Scope.Filter

/-!
Contract: quantifiers, and counts of the items of which their condition holds.

Owns:
- derivations in a larger scope;
- the number of items of which a condition holds, beside a search for one or for all;
- that a quantifier decides what the comparison of such a number decides.

Does not own: the condition, which is any clause over the items.

The two are not the same. The search stops at the item that settles the matter, while the
count goes on and may fail at a later one, or be too large for a number. And a condition
that is counted sees no range variable but its own, while the body of a quantifier sees
the outer ones as well: what binds in the smaller scope binds in the larger one alike.
-/

namespace ClauseBinding

open ClauseBinding.Outcome

/-! ## Larger scopes -/

/-- Range variables further out change nothing for a clause that does without them. The
scope is general, as bodies are bound with one more variable. -/
theorem Clause.Binds.outward
    {catalog : Catalog}
    {scope : List Parameter}
    {clause : Clause}
    {expression : Expression}
    (binds : Binds catalog scope clause expression)
    (outer : List Parameter) : Binds catalog (scope ++ outer) clause expression := by
  induction binds with
  | literal value type => exact .literal value type
  | reference found =>
      apply Binds.reference
      rw [List.find?_append, found, Option.some_or]
  | member _ bound sourceBinds => exact .member sourceBinds bound
  | binary _ _ bound leftBinds rightBinds => exact .binary leftBinds rightBinds bound
  | unary _ bound operandBinds => exact .unary operandBinds bound
  | call paired _ bound argumentsBind => exact .call paired argumentsBind bound
  | cast _ bound operandBinds => exact .cast operandBinds bound
  | quantified _ collected _ bound sourceBinds bodyBinds =>
      exact .quantified sourceBinds collected bodyBinds bound
  | count _ collected sourceBinds => exact .count sourceBinds collected
  | countWhere _ collected conditionBinds isTruth sourceBinds =>
      -- A counted condition has a scope of its own, which stays as it is.
      exact .countWhere sourceBinds collected conditionBinds isTruth

/-! ## Numbers of items -/

section Counts

variable {holds : Value → Except Failure Bool} {items : List Value} {count : Nat}

/-- No more items satisfy a condition than there are. -/
theorem countHolding_le (counted : countHolding holds items = .ok count) :
    count ≤ items.length := by
  induction items generalizing count with
  | nil =>
      obtain rfl := Except.ok.inj counted
      exact Nat.le_refl 0
  | cons item rest inductionHypothesis =>
      obtain ⟨held, _, counted⟩ := bind_eq_ok.mp counted
      obtain ⟨fewer, restCounted, counted⟩ := bind_eq_ok.mp counted
      obtain rfl := Except.ok.inj counted
      have bounded := inductionHypothesis restCounted
      rw [List.length_cons]
      split <;> omega

namespace Quantifier

/-- The comparison by which the number of items that satisfy a condition settles whether
some item, or every item, does. -/
def countComparison : Quantifier → Comparison
  | .any => .gt
  | .all => .eq

/-- The number that the items that satisfy a condition are compared with. -/
def threshold
    (quantifier : Quantifier)
    (length : Nat) : Nat :=
  match quantifier with
  | .any => 0
  | .all => length

/-- Once all items are counted, the search among them has the answer that the count gives. -/
theorem test_of_countHolding
    (quantifier : Quantifier)
    (counted : countHolding holds items = .ok count) :
    quantifier.test holds items =
      .ok (quantifier.countComparison.holds
        (compare count (quantifier.threshold items.length))) := by
  induction items generalizing count with
  | nil =>
      obtain rfl := Except.ok.inj counted
      cases quantifier <;> rfl
  | cons item rest inductionHypothesis =>
      obtain ⟨held, isHeld, counted⟩ := bind_eq_ok.mp counted
      obtain ⟨fewer, restCounted, counted⟩ := bind_eq_ok.mp counted
      obtain rfl := Except.ok.inj counted
      have bounded := countHolding_le restCounted
      have tested := inductionHypothesis restCounted
      rw [test, isHeld, ok_bind]
      cases quantifier with
      | any =>
          cases held with
          | true =>
              -- The search ends here, whatever is counted further on.
              have positive : compare (fewer + 1) 0 = .gt := Nat.compare_eq_gt.mpr (by omega)
              simp [countComparison, threshold, positive, Comparison.holds]
          | false => simpa [threshold] using tested
      | all =>
          cases held with
          | true =>
              have shifted : compare (fewer + 1) (rest.length + 1) = compare fewer rest.length := by
                simp [compare, compareOfLessAndEq]
              simpa [threshold, shifted] using tested
          | false =>
              have missing : compare fewer (rest.length + 1) = .lt :=
                Nat.compare_eq_lt.mpr (by omega)
              simp [countComparison, threshold, missing, Comparison.holds]

end Quantifier

end Counts

namespace Value

private theorem ofCount_eq_ok
    {count : Nat}
    {value : Value}
    (counted : ofCount count = .ok value) :
    ∃ number, value = .int64 number ∧ number.toInt = count := by
  unfold ofCount at counted
  split at counted
  case isTrue bounded =>
    have small : count ≤ 9223372036854775807 := bounded
    exact ⟨_, (Except.ok.inj counted).symm, Int64.toInt_ofNat_of_lt (by omega)⟩
  case isFalse => cases counted

end Value

/-- Numbers of items are compared as the numbers that they are. -/
theorem Comparison.apply_counts
    (operator : Comparison)
    {left right : Nat}
    {leftValue rightValue : Value}
    (leftCounted : Value.ofCount left = .ok leftValue)
    (rightCounted : Value.ofCount right = .ok rightValue) :
    operator.apply leftValue rightValue = .bool (operator.holds (compare left right)) := by
  obtain ⟨leftNumber, rfl, leftIs⟩ := Value.ofCount_eq_ok leftCounted
  obtain ⟨rightNumber, rfl, rightIs⟩ := Value.ofCount_eq_ok rightCounted
  have same : compare (left : Int) (right : Int) = compare left right := by
    simp only [compare, compareOfLessAndEq, Int.ofNat_lt, Int.ofNat_inj]
  simp [apply, Value.isNull, Value.compare?, leftIs, rightIs, same]

/-! ## Guarded nodes -/

namespace Expression

variable {source condition : Expression} {item : Parameter} {type : ValueType}
variable {bindings : Bindings}

abbrev satisfies
    (condition : Expression)
    (item : Parameter)
    (bindings : Bindings)
    (value : Value) : Except Failure Bool :=
  condition.guardCondition.evaluate (bindings.push item.name value) >>= Value.truth

theorem evaluate_quantified (quantifier : Quantifier) :
    (quantified quantifier source item condition type).guardNulls.evaluate bindings =
      source.guardNulls.evaluate bindings >>= fun value =>
        if source.guardNulls.isNullable && value.isNull then .ok .null
        else
          value.items quantifier.keyword >>= fun items =>
            quantifier.test (satisfies condition item bindings) items >>= fun held =>
              .ok (.bool held) :=
  evaluate_guardAbsence_of_single rfl rfl

theorem evaluate_count :
    (count source type).guardNulls.evaluate bindings =
      source.guardNulls.evaluate bindings >>= fun value =>
        if source.guardNulls.isNullable && value.isNull then .ok .null
        else value.items "$count" >>= fun items => Value.ofCount items.length :=
  evaluate_guardAbsence_of_single rfl rfl

/-- The condition of a count is guarded when it is bound, and once more with the count. -/
theorem evaluate_countWhere :
    (countWhere source item condition.guardCondition type).guardNulls.evaluate bindings =
      source.guardNulls.evaluate bindings >>= fun value =>
        if source.guardNulls.isNullable && value.isNull then .ok .null
        else
          value.items "$count" >>= fun items =>
            countHolding (satisfies condition item bindings) items >>= Value.ofCount := by
  have once : condition.guardCondition.guardNulls.unknownToFalse = condition.guardCondition :=
    guardCondition_guardCondition condition
  simp only [guardNulls, once]
  exact evaluate_guardAbsence_of_single rfl rfl

end Expression

private theorem Value.items_eq_ok
    {operation : String}
    {value : Value}
    {items : List Value} :
    value.items operation = .ok items ↔ value = .collection items := by
  cases value <;> simp [Value.items]

/-! ## Clauses -/

namespace Quantifier

def thresholdClause
    (quantifier : Quantifier)
    (source : Clause) : Clause :=
  match quantifier with
  | .any => .literal (.int64 0) (.required .int64)
  | .all => .count source

def boundThreshold
    (quantifier : Quantifier)
    (source : Expression) : Expression :=
  match quantifier with
  | .any => .constant (.int64 0) (.required .int64)
  | .all => .count source ⟨.int64, source.isNullable⟩

/-- A quantifier by count: more than zero items satisfy the condition, or as many as there
are. -/
def byCount
    (quantifier : Quantifier)
    (source : Clause)
    (name : String)
    (condition : Clause) : Clause :=
  .binary (.comparison quantifier.countComparison) (.countWhere source name condition)
    (quantifier.thresholdClause source)

variable {catalog : Catalog} {scope : List Parameter} {source condition : Expression}
variable {item : Parameter} {bindings : Bindings}

def boundByCount
    (quantifier : Quantifier)
    (source : Expression)
    (item : Parameter)
    (condition : Expression) : Expression :=
  .compare quantifier.countComparison
    (.countWhere source item condition.guardCondition ⟨.int64, source.isNullable⟩)
    (quantifier.boundThreshold source)

private theorem binds_threshold
    {clause : Clause}
    {element : ValueType}
    (quantifier : Quantifier)
    (sourceBinds : Clause.Binds catalog scope clause source)
    (collected : source.data.element? = some element) :
    Clause.Binds catalog scope (quantifier.thresholdClause clause)
      (quantifier.boundThreshold source) := by
  cases quantifier with
  | any => exact .literal _ _
  | all => exact .count sourceBinds collected

/-- Two numbers of items are compared as they are, whatever promotes to what. -/
theorem bindBinary_counts (quantifier : Quantifier) :
    Expression.bindBinary catalog (.comparison quantifier.countComparison)
        (.countWhere source item condition.guardCondition ⟨.int64, source.isNullable⟩)
        (quantifier.boundThreshold source) =
      .ok (quantifier.boundByCount source item condition) := by
  cases quantifier <;> rfl

private theorem evaluate_boundThreshold
    {items : List Value}
    (quantifier : Quantifier)
    (sourceIs : source.guardNulls.evaluate bindings = .ok (.collection items)) :
    (quantifier.boundThreshold source).guardNulls.evaluate bindings =
      Value.ofCount (quantifier.threshold items.length) := by
  cases quantifier with
  | any => rfl
  | all =>
      rw [boundThreshold, Expression.evaluate_count, sourceIs]
      simp [Value.isNull, Value.items, threshold]

/-- What the count decides the quantifier decides alike: of an absent collection nothing is
known either way, and the items of a present one have been counted to the last. -/
theorem refines_byCount
    (quantifier : Quantifier)
    (type : ValueType) :
    Refines
      ((quantifier.boundByCount source item condition).guardNulls.evaluate bindings
        >>= Value.truth)
      ((Expression.quantified quantifier source item condition type).guardNulls.evaluate bindings
        >>= Value.truth) := by
  intro decision decided
  obtain ⟨result, computed, isDecision⟩ := bind_eq_ok.mp decided
  obtain ⟨countValue, countIs, computed⟩ := bind_eq_ok.mp computed
  obtain ⟨thresholdValue, thresholdIs, compared⟩ := bind_eq_ok.mp computed
  obtain rfl := Except.ok.inj compared
  rw [Expression.evaluate_countWhere] at countIs
  obtain ⟨sourceValue, sourceIs, countIs⟩ := bind_eq_ok.mp countIs
  rw [Expression.evaluate_quantified, sourceIs, ok_bind]
  split at countIs
  case isTrue absent =>
    obtain rfl := Except.ok.inj countIs
    rw [Comparison.apply_of_null _ rfl] at isDecision
    rw [if_pos absent, ok_bind, isDecision]
  case isFalse present =>
    obtain ⟨items, areItems, countIs⟩ := bind_eq_ok.mp countIs
    obtain ⟨count, counted, isNumber⟩ := bind_eq_ok.mp countIs
    obtain rfl := Value.items_eq_ok.mp areItems
    rw [evaluate_boundThreshold quantifier sourceIs] at thresholdIs
    rw [Comparison.apply_counts _ isNumber thresholdIs] at isDecision
    rw [if_neg present, Value.items_eq_ok.mpr rfl, ok_bind, test_of_countHolding _ counted,
      ok_bind, ok_bind, isDecision]

end Quantifier

/-! ## Filters -/

namespace FilterClause

/-- A quantifier agrees with the comparison of a count. Wherever the filter by count has an
answer, the filter of the quantifier has the same. -/
theorem quantifier_agrees_with_count
    {quantifier : Quantifier}
    {source body : Clause}
    {name rangeVariable : String}
    {context : Context}
    {quantified counted : Predicate}
    (quantifiedBound :
      bindIn ⟨.quantified quantifier source name body, rangeVariable⟩ context = .ok quantified)
    (countedBound :
      bindIn ⟨quantifier.byCount source name body, rangeVariable⟩ context = .ok counted)
    (value : Value) :
    Refines (counted.accepts value) (quantified.accepts value) := by
  obtain ⟨_, binds, _⟩ := bindOver_eq_ok countedBound
  rw [Quantifier.byCount] at binds
  cases binds with
  | @binary _ _ _ _ count _ _ countBinds _ _ =>
      cases countBinds with
      | @countWhere _ _ _ _ item boundSource condition sourceBinds collected conditionBinds
          isTruth =>
          -- Both filters are bound to nodes over the same collection and condition.
          have conditionIsTruth := conditionBinds.data_of_truth isTruth
          have quantifiedBinds : Clause.Binds _ _ (.quantified quantifier source name body) _ :=
            .quantified sourceBinds collected (conditionBinds.outward _)
              (Expression.bindQuantified_of_truth conditionIsTruth)
          have countedBinds := Clause.Binds.binary
            (.countWhere sourceBinds collected conditionBinds isTruth)
            (quantifier.binds_threshold sourceBinds collected)
            quantifier.bindBinary_counts
          rw [(accepts_of_binds countedBound countedBinds).2 value,
            (accepts_of_binds quantifiedBound quantifiedBinds).2 value]
          exact quantifier.refines_byCount _

/-- An order of two pieces of one thing, and of another thing without a quantity. -/
def partlyCounted : Value :=
  .record [("lines", .collection [.record [("quantity", .int32 2)], .record []])]

/-- The lines of an order, which is the range variable. -/
def linesOfItem : Clause := .member (.reference "item") "lines"

/-- Not every line is known to be of several pieces, and not as many as there are. -/
theorem quantifier_agrees_with_count_severalPieces :
    ∃ quantified counted,
      bindIn ⟨.quantified .all linesOfItem "item" severalPieces.condition, "item"⟩
          (.start orderCatalog (.structured "Order") {}) = .ok quantified
        ∧ bindIn ⟨Quantifier.all.byCount linesOfItem "item" severalPieces.condition, "item"⟩
          (.start orderCatalog (.structured "Order") {}) = .ok counted
        ∧ counted.accepts partlyCounted = .ok false
        ∧ quantified.accepts partlyCounted = .ok false := by
  refine ⟨_, _, rfl, rfl, rfl, ?_⟩
  have agrees := @quantifier_agrees_with_count .all linesOfItem severalPieces.condition "item" "item"
    (.start orderCatalog (.structured "Order") {}) _ _ rfl rfl partlyCounted
  exact agrees false rfl

end FilterClause

end ClauseBinding
