import ClauseBinding.Binding.Filter
import ClauseBinding.Evaluation.Sort

/-!
Contract: records pulled one at a time through a chain of filters.

Owns:
- the chain and a pull from it, which may fail and be pulled from again;
- all rows of a chain, up to the first failure;
- filtering and sorting records by clauses.

Does not own: predicates and selectors.
-/

namespace ClauseBinding

namespace Predicate

def accepts
    (predicate : Predicate)
    (value : Value) : Except Failure Bool := do
  let result ← predicate.lambda.apply value
  result.truth

def acceptsRecord
    (predicate : Predicate)
    (record : Record) : Except Failure Bool :=
  predicate.accepts (.record record)

end Predicate

/-- A chain of filters over records that are still to come, the filter that is
pulled from first. -/
structure Rows where
  filters : List Predicate
  records : List Record

namespace Rows

/-- What a pull gives, and the records that are left. -/
abbrev Pulled := Except Failure (Option Record) × List Record

/-- Pull until a record is accepted. Every pull takes a record, so the number of
records bounds the pulls. -/
def pullAccepted
    (filter : Predicate)
    (pull : List Record → Pulled)
    (pulls : Nat)
    (records : List Record) : Pulled :=
  match pulls with
  | 0 => (.ok none, records)
  | pulls + 1 =>
      match pull records with
      | (.ok (some record), rest) =>
          match filter.acceptsRecord record with
          | .ok true => (.ok (some record), rest)
          | .ok false => pullAccepted filter pull pulls rest
          | .error failure => (.error failure, rest)
      | other => other

/-- Pull from a chain: from the records when there are no filters, else from the
rest of the chain until the first filter accepts. -/
def pull : List Predicate → List Record → Pulled
  | [], [] => (.ok none, [])
  | [], record :: rest => (.ok (some record), rest)
  | filter :: filters, records =>
      pullAccepted filter (pull filters) (records.length + 1) records

def next (rows : Rows) : Except Failure (Option Record) × Rows :=
  let (result, records) := pull rows.filters rows.records
  (result, { rows with records })

/-- The rows of so many pulls, up to the first failure or the end. -/
def collectWithin
    (pulls : Nat)
    (rows : Rows) : Except Failure (List Record) :=
  match pulls with
  | 0 => .ok []
  | pulls + 1 =>
      match rows.next with
      | (.ok (some record), rest) => do
          let records ← collectWithin pulls rest
          pure (record :: records)
      | (.ok none, _) => .ok []
      | (.error failure, _) => .error failure

/-- All rows, up to the first failure. -/
def collect (rows : Rows) : Except Failure (List Record) :=
  collectWithin (rows.records.length + 1) rows

/-- The results of so many pulls, going on after failures. -/
def pulls
    (count : Nat)
    (rows : Rows) : List (Except Failure (Option Record)) :=
  match count with
  | 0 => []
  | count + 1 =>
      let (result, rest) := rows.next
      result :: pulls count rest

end Rows

/-- Filter records and sort what is left, each by a clause that may be missing.
The order is bound after the records were filtered. -/
def applyClauses
    (catalog : Catalog)
    (elementType : DataType)
    (configuration : Configuration)
    (filter? : Option FilterClause)
    (order? : Option OrderClause)
    (records : List Record) : Except Failure (List Record) := do
  let context := Context.start catalog elementType configuration
  let filters ←
    match filter? with
    | some filter => do
        let predicate ← filter.bindIn context
        pure [predicate]
    | none => pure []
  let kept ← Rows.collect ⟨filters, records⟩
  match order? with
  | some order => do
      let selectors ← order.bindIn context
      sortRecords selectors kept
  | none => pure kept

end ClauseBinding
