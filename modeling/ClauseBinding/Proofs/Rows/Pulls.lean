import ClauseBinding.Proofs.Rows.Collect

/-!
Contract: the results of pulling a chain of filters again and again.

Owns:
- what becomes of a record in a chain: let through, skipped, or a failure in its place;
- that successive pulls give what becomes of the records that are not skipped, one by
  one, failures included, and then nothing for ever;
- that all rows of a chain are what they become, up to the first failure.

Does not own: what a predicate accepts.

A failure leaves the loops of all filters at once, so the crux is that it takes away
exactly the record that it is about: what is left of the records becomes what was left
of the results.
-/

namespace ClauseBinding.Rows

open ClauseBinding.Outcome

/-- What becomes of a record that predicates test one after the other: nothing if one
of them rejects it, the failure of the first that fails, else the record. -/
def outcome? : List Predicate → Record → Option (Except Failure Record)
  | [], record => some (.ok record)
  | predicate :: rest, record =>
      match predicate.acceptsRecord record with
      | .ok true => outcome? rest record
      | .ok false => none
      | .error failure => some (.error failure)

/-- What becomes of the records that are not skipped, in order. -/
def outcomes
    (predicates : List Predicate)
    (records : List Record) : List (Except Failure Record) :=
  records.filterMap (outcome? predicates)

def decided
    (decide : Record → Except Failure Bool)
    (record : Record) : Option (Except Failure Record) :=
  match decide record with
  | .ok true => some (.ok record)
  | .ok false => none
  | .error failure => some (.error failure)

/-- The filters further in decide first. -/
theorem decision_append
    (outer inner : List Predicate)
    (record : Record) :
    decision (outer ++ inner) record = (do
      let passed ← decision inner record
      if passed then decision outer record else pure false) := by
  induction outer with
  | nil =>
      cases outcome : decision inner record with
      | error failure => simp [outcome]
      | ok passed => cases passed <;> simp [decision, outcome]
  | cons filter outer inductionHypothesis =>
      rw [List.cons_append, decision, inductionHypothesis]
      cases decision inner record with
      | error failure => rfl
      | ok passed => cases passed <;> rfl

/-- In a chain the predicate next to the records tests first. -/
theorem outcome?_eq_decided
    (predicates : List Predicate) :
    outcome? predicates = decided (decision predicates.reverse) := by
  funext record
  induction predicates with
  | nil => rfl
  | cons predicate rest inductionHypothesis =>
      have nearest : decision [predicate] record = predicate.acceptsRecord record := rfl
      rw [outcome?, decided, List.reverse_cons, decision_append, nearest, inductionHypothesis]
      cases predicate.acceptsRecord record with
      | error failure => rfl
      | ok accepted => cases accepted <;> rfl

/-! ## One pull -/

variable {decide : Record → Except Failure Bool}

/-- A pull gives what the first record that is not skipped becomes. -/
theorem firstPassing_result (records : List Record) :
    (firstPassing decide records).1 =
      match records.filterMap (decided decide) with
      | [] => .ok none
      | first :: _ => first.map some := by
  induction records with
  | nil => rfl
  | cons record rest inductionHypothesis =>
      cases outcome : decide record with
      | error failure => simp [firstPassing, decided, outcome, Except.map]
      | ok passed =>
          cases passed with
          | true => simp [firstPassing, decided, outcome, Except.map]
          | false =>
              have skipped : decided decide record = none := by simp [decided, outcome]
              rw [List.filterMap_cons_none skipped, ← inductionHypothesis]
              simp [firstPassing, outcome]

/-- A pull takes away the records up to that one, be it let through or a failure. -/
theorem firstPassing_rest (records : List Record) :
    (firstPassing decide records).2.filterMap (decided decide) =
      (records.filterMap (decided decide)).tail := by
  induction records with
  | nil => rfl
  | cons record rest inductionHypothesis =>
      cases outcome : decide record with
      | error failure => simp [firstPassing, decided, outcome]
      | ok passed =>
          cases passed with
          | true => simp [firstPassing, decided, outcome]
          | false =>
              have skipped : decided decide record = none := by simp [decided, outcome]
              rw [List.filterMap_cons_none skipped, ← inductionHypothesis]
              simp [firstPassing, outcome]

/-! ## Runs of pulls -/

/-- The results of so many pulls. The records are general, as each pull leaves fewer. -/
theorem pulls_eq_take
    (count : Nat)
    (filters : List Predicate)
    (records : List Record) :
    pulls count ⟨filters, records⟩ =
      ((records.filterMap (decided (decision filters))).map (Except.map some)
        ++ List.replicate count (Except.ok none)).take count := by
  induction count generalizing records with
  | zero => rfl
  | succ count inductionHypothesis =>
      have result := @firstPassing_result (decision filters) records
      have rest := @firstPassing_rest (decision filters) records
      have unrolled : pulls (count + 1) ⟨filters, records⟩ =
          (firstPassing (decision filters) records).1 ::
            pulls count ⟨filters, (firstPassing (decision filters) records).2⟩ := by
        simp only [pulls, next, pull_eq_firstPassing]
      rw [unrolled, inductionHypothesis, result, rest]
      cases records.filterMap (decided (decision filters)) with
      | nil => simp [List.replicate_succ]
      | cons first others =>
          have padded : ∀ becoming : List (Except Failure (Option Record)),
              (becoming ++ List.replicate count (Except.ok none)).take count =
                (becoming ++ List.replicate (count + 1) (Except.ok none)).take count := by
            intro becoming
            rw [List.take_append, List.take_append, List.take_replicate, List.take_replicate]
            congr 2
            omega
          simp only [List.tail_cons, List.map_cons, List.cons_append, List.take_succ_cons, padded]

/-- All records that are let through are what becomes of the records, up to the first
failure. -/
theorem allPassing_eq_all (records : List Record) :
    allPassing decide records = all (records.filterMap (decided decide)) := by
  induction records with
  | nil => rfl
  | cons record rest inductionHypothesis =>
      rw [allPassing, inductionHypothesis]
      cases outcome : decide record with
      | error failure =>
          have kept : decided decide record = some (.error failure) := by
            simp [decided, outcome]
          rw [List.filterMap_cons_some kept]
          rfl
      | ok passed =>
          cases passed with
          | true =>
              have kept : decided decide record = some (.ok record) := by
                simp [decided, outcome]
              rw [List.filterMap_cons_some kept]
              rfl
          | false =>
              have skipped : decided decide record = none := by simp [decided, outcome]
              rw [List.filterMap_cons_none skipped, ok_bind]
              exact bind_pure _

/-- A chain of filters neither loses nor repeats a record, also across failures. The
predicates are given from the records outwards. Pulls that go on after failures give
what becomes of the records that are not skipped, in their order, and then nothing for
ever; all rows are the first failure among them, or else the records let through. -/
theorem chain_delivers_each_record_once
    (predicates : List Predicate)
    (records : List Record) :
    (∀ count, pulls count ⟨predicates.reverse, records⟩ =
        ((outcomes predicates records).map (Except.map some)
          ++ List.replicate count (Except.ok none)).take count)
      ∧ collect ⟨predicates.reverse, records⟩ = all (outcomes predicates records) := by
  rw [outcomes, outcome?_eq_decided]
  constructor
  · intro count
    exact pulls_eq_take count predicates.reverse records
  · rw [collect_eq_allPassing, allPassing_eq_all]

end ClauseBinding.Rows
