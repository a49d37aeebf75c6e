import ClauseBinding.Proofs.Clause.Condition
import ClauseBinding.Proofs.Meaning.Operators
import ClauseBinding.Proofs.Rows.Pulls
import ClauseBinding.Proofs.Soundness.Clause
import Mathlib.Data.List.Induction

/-!
Contract: a chain of filters and one filter on the conjunction of their conditions.

Owns:
- tests made one after the other that agree with one test;
- that a chain lets through what the conjunction accepts, wherever the conjunction decides.

Does not own: the conditions, and how filters are bound.

The two are not the same. After an unknown condition a chain is done with a record, while
the conjunction looks at the conditions that follow, and may fail in them. So what is
carried from filter to filter is not equality: the chain refines the conjunction, and what
the chain lets through the conjunction accepts.
-/

namespace ClauseBinding

open ClauseBinding.Outcome

/-! ## Tests one after the other -/

/-- What a conjunction decides. A false operand decides it, after a true one the last
operand does; after an unknown one it holds no more, and yet the last operand may fail. -/
theorem Connective.truth_and (before last : Except Failure Value) :
    Connective.and.onOutcomes before last >>= Value.truth = (do
      let known ← before >>= Value.truth?
      match known with
      | some false => pure false
      | some true => last >>= Value.truth
      | none => do
          let _ ← last >>= Value.truth
          pure false) := by
  rw [Connective.onOutcomes_eq, bind_assoc, bind_assoc]
  apply bind_congr_of_ok
  intro value _
  rw [bind_assoc]
  apply bind_congr_of_ok
  rintro (_ | _ | _) _
  case none =>
    simp only [Connective.deciding, reduceCtorEq, if_false, Value.truth, bind_assoc, pure_bind]
    apply bind_congr_of_ok
    intro lastValue _
    apply bind_congr_of_ok
    rintro (_ | _ | _) _ <;> rfl
  case some.false => rfl
  case some.true =>
    simp only [Connective.deciding, Option.some.injEq, Bool.true_eq_false, if_false, Value.truth,
      bind_assoc, pure_bind]
    apply bind_congr_of_ok
    intro lastValue _
    apply bind_congr_of_ok
    rintro (_ | _ | _) _ <;> rfl

/-- A test made in steps agrees with a whole one: it decides as the whole one wherever
that decides, and the whole one accepts what passes the steps. The whole may fail where
the steps decide, as it goes on after an unknown condition. -/
structure Agrees (whole steps : Except Failure Bool) : Prop where
  decides : Refines whole steps
  accepts : steps = .ok true → whole = .ok true

namespace Agrees

variable {whole steps : Except Failure Bool}

theorem refl (outcome : Except Failure Bool) : Agrees outcome outcome :=
  ⟨.refl outcome, id⟩

/-- One more condition: on one side `and` joins it, on the other it is looked at only
once the steps before it have passed. -/
theorem step
    {before last : Except Failure Value}
    (agrees : Agrees (before >>= Value.truth) steps) :
    Agrees (Connective.and.onOutcomes before last >>= Value.truth) (do
      let passed ← steps
      if passed then last >>= Value.truth else pure false) := by
  have decided : before >>= Value.truth =
      before >>= Value.truth? >>= fun known => pure (known.getD false) := by
    rw [bind_assoc]
    rfl
  rw [decided] at agrees
  rw [Connective.truth_and]
  generalize before >>= Value.truth? = outcome at agrees ⊢
  cases outcome with
  | error failure =>
      refine ⟨.of_error failure _, ?_⟩
      intro accepted
      obtain ⟨passed, stepsAre, lastIs⟩ := bind_eq_ok.mp accepted
      cases passed with
      | true => cases agrees.accepts stepsAre
      | false => cases lastIs
  | ok known =>
      have stepsAre : steps = .ok (known.getD false) := agrees.decides _ rfl
      rw [stepsAre, ok_bind, ok_bind]
      rcases known with _ | _ | _
      case none =>
        refine ⟨?_, nofun⟩
        intro decision decides
        obtain ⟨_, _, isFalse⟩ := bind_eq_ok.mp decides
        exact isFalse
      case some.false => exact refl _
      case some.true => exact refl _

end Agrees

/-! ## Filters of one range variable -/

namespace FilterClause

/-- The filter on the conjunction of the conditions of some filters. The range variable
is that of the first. -/
def conjunction
    (first : FilterClause)
    (others : List FilterClause) : FilterClause :=
  others.foldl
    (fun whole filter =>
      { whole with condition := .binary (.connective .and) whole.condition filter.condition })
    first

variable {first last : FilterClause} {others : List FilterClause}

theorem conjunction_append :
    (conjunction first (others ++ [last])).condition =
      .binary (.connective .and) (conjunction first others).condition last.condition := by
  rw [conjunction, List.foldl_append]
  rfl

theorem rangeVariable_conjunction :
    (conjunction first others).rangeVariable = first.rangeVariable := by
  induction others using List.reverseRecOn with
  | nil => rfl
  | append_singleton others last inductionHypothesis =>
      rw [conjunction, List.foldl_append]
      exact inductionHypothesis

/-- The chain of some filters agrees with the conjunction of their conditions. The
induction is from the first filter outwards: the conjunction is over `and` from the left,
and the filter of the last condition is the one that is pulled from first. -/
theorem agrees_conjunction
    {type : ValueType}
    {context : Context}
    {predicates : List Predicate}
    {condition : Expression}
    (sameVariable : ∀ filter ∈ others, filter.rangeVariable = first.rangeVariable)
    (bound : (first :: others).mapM (·.bindOver type context) = .ok predicates)
    (binds : Clause.Binds context.catalog (⟨first.rangeVariable, type⟩ :: context.scope)
      (conjunction first others).condition condition) :
    condition.data = .bool
      ∧ ∀ record, Agrees
        (condition.guardNulls.evaluate
            (Bindings.push [] first.rangeVariable (.record record)) >>= Value.truth)
        (Rows.decision predicates.reverse record) := by
  induction others using List.reverseRecOn generalizing predicates condition with
  | nil =>
      rw [List.mapM_cons, List.mapM_nil] at bound
      obtain ⟨predicate, predicateBound, single⟩ := bind_eq_ok.mp bound
      obtain rfl := Except.ok.inj single
      obtain ⟨isTruth, accepts⟩ := accepts_of_binds predicateBound binds
      refine ⟨isTruth, ?_⟩
      intro record
      rw [← accepts]
      exact Agrees.refl _
  | append_singleton others last inductionHypothesis =>
      rw [← List.cons_append, List.mapM_append] at bound
      obtain ⟨inner, innerBound, lastBound⟩ := bind_eq_ok.mp bound
      rw [List.mapM_cons, List.mapM_nil] at lastBound
      obtain ⟨outer, outerBound, together⟩ := bind_eq_ok.mp lastBound
      obtain ⟨predicate, predicateBound, single⟩ := bind_eq_ok.mp outerBound
      obtain rfl := Except.ok.inj single
      obtain rfl := Except.ok.inj together
      obtain ⟨othersVariable, lastOnly⟩ := List.forall_mem_append.mp sameVariable
      have lastVariable := List.forall_mem_singleton.mp lastOnly
      rw [conjunction_append] at binds
      cases binds with
      | @binary _ _ _ _ left right _ leftBinds rightBinds connected =>
          obtain ⟨leftIsTruth, agrees⟩ := inductionHypothesis othersVariable innerBound leftBinds
          rw [← lastVariable] at rightBinds
          obtain ⟨rightIsTruth, accepts⟩ := accepts_of_binds predicateBound rightBinds
          have asTheyAre : _ = Except.ok (Expression.connect .and left right) :=
            Expression.bindConnective_of_truth leftIsTruth rightIsTruth
          obtain rfl := Except.ok.inj (asTheyAre.symm.trans connected)
          refine ⟨rfl, ?_⟩
          intro record
          have nearest : Rows.decision [predicate] record = predicate.acceptsRecord record := rfl
          rw [Expression.evaluate_connect, List.reverse_append, Rows.decision_append,
            List.reverse_singleton, nearest, Predicate.acceptsRecord, accepts, lastVariable]
          exact (agrees record).step

end FilterClause

/-! ## Chains and conjunctions -/

namespace Rows

variable {predicates : List Predicate} {record : Record}

/-- A pull from a chain looks at one record: it gives it, passes over it, or fails. -/
theorem next_of_decision
    {passed : Bool}
    (rest : List Record)
    (decided : decision predicates record = .ok passed) :
    next ⟨predicates, record :: rest⟩ =
      if passed then (.ok (some record), ⟨predicates, rest⟩) else next ⟨predicates, rest⟩ := by
  cases passed <;> simp [next, pull_eq_firstPassing, firstPassing, decided]

/-- What a pull gives has passed. -/
theorem decision_of_next
    {records : List Record}
    {rows : Rows}
    (yielded : next ⟨predicates, records⟩ = (.ok (some record), rows)) :
    decision predicates record = .ok true := by
  induction records with
  | nil => simp [next, pull_eq_firstPassing, firstPassing] at yielded
  | cons first rest inductionHypothesis =>
      cases decided : decision predicates first with
      | error failure => simp [next, pull_eq_firstPassing, firstPassing, decided] at yielded
      | ok passed =>
          rw [next_of_decision rest decided] at yielded
          cases passed with
          | true =>
              obtain rfl := Option.some.inj (Except.ok.inj (congrArg Prod.fst yielded))
              exact decided
          | false => exact inductionHypothesis yielded

/-- A chain of filters over one range variable agrees with one filter on the conjunction
of their conditions. What the conjunction decides the chain does without a failure: it
gives a record that is accepted, and passes over one that is rejected. And the conjunction
accepts what the chain gives. -/
theorem chain_agrees_with_conjunction
    {first : FilterClause}
    {others : List FilterClause}
    {context : Context}
    {predicates : List Predicate}
    {whole : Predicate}
    (sameVariable : ∀ filter ∈ others, filter.rangeVariable = first.rangeVariable)
    (bound : (first :: others).mapM (·.bindIn context) = .ok predicates)
    (wholeBound : (first.conjunction others).bindIn context = .ok whole) :
    (∀ record rest accepted,
        whole.acceptsRecord record = .ok accepted →
          next ⟨predicates.reverse, record :: rest⟩ =
            if accepted then (.ok (some record), ⟨predicates.reverse, rest⟩)
            else next ⟨predicates.reverse, rest⟩)
      ∧ ∀ records record rows,
        next ⟨predicates.reverse, records⟩ = (.ok (some record), rows) →
          whole.acceptsRecord record = .ok true := by
  have agrees : ∀ record, Agrees (whole.acceptsRecord record)
      (decision predicates.reverse record) := by
    obtain ⟨condition, binds, _⟩ := FilterClause.bindOver_eq_ok wholeBound
    obtain ⟨_, accepts⟩ := FilterClause.accepts_of_binds wholeBound binds
    rw [FilterClause.rangeVariable_conjunction] at binds accepts
    intro record
    rw [Predicate.acceptsRecord, accepts]
    exact (FilterClause.agrees_conjunction sameVariable bound binds).2 record
  constructor
  · intro record rest accepted decides
    exact next_of_decision rest ((agrees record).decides accepted decides)
  · intro records record rows yielded
    exact (agrees record).accepts (decision_of_next yielded)

/-- Products more than five of which can be had for a hundred. -/
def severalForHundred : FilterClause where
  condition :=
    .binary (.comparison .gt)
      (.binary (.arithmetic .div) (.literal (.int64 100) (.required .int64))
        (.member (.reference "item") "price"))
      (.literal (.int64 5) (.required .int64))
  rangeVariable := "item"

def products : Context := .start FilterClause.productCatalog (.structured "Product") {}

/-- A product without a price is passed over, and one for twelve is given. -/
theorem chain_agrees_with_conjunction_severalForHundred :
    ∃ predicates whole,
      [FilterClause.pairOverTen, severalForHundred].mapM (·.bindIn products) = .ok predicates
        ∧ (FilterClause.pairOverTen.conjunction [severalForHundred]).bindIn products = .ok whole
        ∧ next ⟨predicates.reverse, [[], [("price", .int32 12)]]⟩ =
          (.ok (some [("price", .int32 12)]), ⟨predicates.reverse, []⟩)
        ∧ whole.acceptsRecord [("price", .int32 12)] = .ok true := by
  have sameVariable : ∀ filter ∈ [severalForHundred],
      filter.rangeVariable = FilterClause.pairOverTen.rangeVariable :=
    List.forall_mem_singleton.mpr rfl
  refine ⟨_, _, rfl, rfl, ?_⟩
  obtain ⟨decides, accepts⟩ :=
    @chain_agrees_with_conjunction _ [severalForHundred] products _ _ sameVariable rfl rfl
  have passedOver := decides [] [[("price", .int32 12)]] false rfl
  have given := decides [("price", .int32 12)] [] true rfl
  exact ⟨passedOver.trans given, accepts _ _ _ given⟩

end Rows

end ClauseBinding
