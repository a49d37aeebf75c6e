import ClauseBinding.Evaluation.Rows
import ClauseBinding.Proofs.Evaluation.Outcome

/-!
Contract: what a chain of filters lets through.

Owns:
- what a chain decides about a single record;
- that a pull gives the first record that is let through, or the first failure before it;
- that all rows of a chain are the records that are let through, if nothing is decided
  with a failure;
- filtering and sorting by clauses, one step after the other.

Does not own: what a predicate accepts.

The number of pulls that a loop is given bounds it from above only, so each loop is
shown equal to a recursion on the records.
-/

namespace ClauseBinding

open ClauseBinding.Outcome

namespace Rows

/-- What a chain decides about a record. The last filter looks at it first. -/
def decision : List Predicate → Record → Except Failure Bool
  | [], _ => .ok true
  | filter :: filters, record => do
      let passed ← decision filters record
      if passed then filter.acceptsRecord record else pure false

/-- The first record that is let through and those after it, or the first failure. -/
def firstPassing
    (decide : Record → Except Failure Bool) : List Record → Pulled
  | [] => (.ok none, [])
  | record :: rest =>
      match decide record with
      | .ok true => (.ok (some record), rest)
      | .ok false => firstPassing decide rest
      | .error failure => (.error failure, rest)

/-- All records that are let through, or the first failure. -/
def allPassing
    (decide : Record → Except Failure Bool) : List Record → Except Failure (List Record)
  | [] => .ok []
  | record :: rest => do
      let passed ← decide record
      let others ← allPassing decide rest
      pure (if passed then record :: others else others)

/-- A loop over pulls sees the records through the pull only. -/
theorem pullAccepted_congr
    {filter : Predicate}
    {pull : List Record → Pulled}
    {pulls : Nat}
    {left right : List Record}
    (same : pull left = pull right) :
    pullAccepted filter pull (pulls + 1) left = pullAccepted filter pull (pulls + 1) right := by
  simp only [pullAccepted, same]

/-- One filter over what passes the others. -/
theorem pullAccepted_firstPassing
    {filter : Predicate}
    {filters : List Predicate}
    {records : List Record}
    {pulls : Nat}
    (enough : records.length < pulls) :
    pullAccepted filter (firstPassing (decision filters)) pulls records =
      firstPassing (decision (filter :: filters)) records := by
  induction records generalizing pulls with
  | nil =>
      obtain ⟨pulls, rfl⟩ : ∃ fewer, pulls = fewer + 1 := ⟨pulls - 1, by omega⟩
      rfl
  | cons record rest inductionHypothesis =>
      rw [List.length_cons] at enough
      obtain ⟨pulls, rfl⟩ : ∃ fewer, pulls = fewer + 1 := ⟨pulls - 1, by omega⟩
      cases inner : decision filters record with
      | error failure => simp [pullAccepted, firstPassing, decision, inner]
      | ok passed =>
          cases passed with
          | false =>
              have skipped : firstPassing (decision filters) (record :: rest) =
                  firstPassing (decision filters) rest := by
                simp [firstPassing, inner]
              rw [pullAccepted_congr skipped, inductionHypothesis (by omega)]
              simp [firstPassing, decision, inner]
          | true =>
              cases outer : filter.acceptsRecord record with
              | error failure => simp [pullAccepted, firstPassing, decision, inner, outer]
              | ok accepted =>
                  cases accepted with
                  | true => simp [pullAccepted, firstPassing, decision, inner, outer]
                  | false =>
                      have others := @inductionHypothesis pulls (by omega)
                      simp [pullAccepted, firstPassing, decision, inner, outer, others]

/-- A pull gives the first record that the chain lets through. -/
theorem pull_eq_firstPassing (filters : List Predicate) :
    pull filters = firstPassing (decision filters) := by
  induction filters with
  | nil =>
      funext records
      cases records <;> rfl
  | cons filter filters inductionHypothesis =>
      funext records
      rw [pull, inductionHypothesis]
      exact pullAccepted_firstPassing (Nat.lt_succ_self _)

private theorem collectWithin_eq_allPassing
    {filters : List Predicate}
    {records : List Record}
    {pulls : Nat}
    (enough : records.length < pulls) :
    collectWithin pulls ⟨filters, records⟩ = allPassing (decision filters) records := by
  induction records generalizing pulls with
  | nil =>
      obtain ⟨pulls, rfl⟩ : ∃ fewer, pulls = fewer + 1 := ⟨pulls - 1, by omega⟩
      simp [collectWithin, next, pull_eq_firstPassing, firstPassing, allPassing]
  | cons record rest inductionHypothesis =>
      rw [List.length_cons] at enough
      obtain ⟨pulls, rfl⟩ : ∃ fewer, pulls = fewer + 1 := ⟨pulls - 1, by omega⟩
      cases decided : decision filters record with
      | error failure =>
          simp [collectWithin, next, pull_eq_firstPassing, firstPassing, allPassing, decided]
      | ok passed =>
          cases passed with
          | true =>
              have others := @inductionHypothesis pulls (by omega)
              simp [collectWithin, next, pull_eq_firstPassing, firstPassing, allPassing, decided,
                others]
          | false =>
              have skipped : collectWithin (pulls + 1) ⟨filters, record :: rest⟩ =
                  collectWithin (pulls + 1) ⟨filters, rest⟩ := by
                simp [collectWithin, next, pull_eq_firstPassing, firstPassing, decided]
              rw [skipped, inductionHypothesis (by omega)]
              simp only [allPassing, decided, ok_bind]
              cases allPassing (decision filters) rest <;> rfl

/-- All rows of a chain are the records that it lets through. -/
theorem collect_eq_allPassing
    (filters : List Predicate)
    (records : List Record) :
    collect ⟨filters, records⟩ = allPassing (decision filters) records :=
  collectWithin_eq_allPassing (Nat.lt_succ_self _)

/-- Whether a record is let through; one of which that cannot be decided is not. -/
def passes
    (decide : Record → Except Failure Bool)
    (record : Record) : Bool :=
  match decide record with
  | .ok passed => passed
  | .error _ => false

/-- There are rows if every record is decided, and then they are those let through. -/
theorem allPassing_eq_ok
    {decide : Record → Except Failure Bool}
    {records kept : List Record} :
    allPassing decide records = .ok kept ↔
      (∀ record ∈ records, ∃ passed, decide record = .ok passed)
        ∧ records.filter (passes decide) = kept := by
  induction records generalizing kept with
  | nil => simp [allPassing]
  | cons record rest inductionHypothesis =>
      constructor
      · intro succeeds
        obtain ⟨passed, decided, remaining⟩ := bind_eq_ok.mp succeeds
        obtain ⟨others, othersPass, together⟩ := bind_eq_ok.mp remaining
        obtain ⟨restDecided, rfl⟩ := inductionHypothesis.mp othersPass
        obtain rfl := Except.ok.inj together
        refine ⟨List.forall_mem_cons.mpr ⟨⟨passed, decided⟩, restDecided⟩, ?_⟩
        cases passed <;> simp [passes, decided]
      · rintro ⟨allDecided, rfl⟩
        obtain ⟨⟨passed, decided⟩, restDecided⟩ := List.forall_mem_cons.mp allDecided
        have others := inductionHypothesis.mpr ⟨restDecided, rfl⟩
        cases passed <;> simp [allPassing, decided, others, passes]

theorem collect_eq_ok
    {filters : List Predicate}
    {records kept : List Record} :
    collect ⟨filters, records⟩ = .ok kept ↔
      (∀ record ∈ records, ∃ passed, decision filters record = .ok passed)
        ∧ records.filter (passes (decision filters)) = kept := by
  rw [collect_eq_allPassing, allPassing_eq_ok]

end Rows

def FilterClause.chain
    (filter? : Option FilterClause)
    (context : Context) : Except Failure (List Predicate) :=
  match filter? with
  | some filter => do
      let predicate ← filter.bindIn context
      pure [predicate]
  | none => pure []

/-- Filtering comes before the order is bound. -/
theorem applyClauses_eq_bind
    (catalog : Catalog)
    (elementType : DataType)
    (configuration : Configuration)
    (filter? : Option FilterClause)
    (order : OrderClause)
    (records : List Record) :
    applyClauses catalog elementType configuration filter? (some order) records = (do
      let filters ← FilterClause.chain filter? (.start catalog elementType configuration)
      let kept ← Rows.collect ⟨filters, records⟩
      let selectors ← order.bindIn (.start catalog elementType configuration)
      sortRecords selectors kept) := by
  cases filter? with
  | none => rfl
  | some filter =>
      simp only [applyClauses, FilterClause.chain, bind_assoc]

end ClauseBinding
