import ClauseBinding.Binding.Order
import ClauseBinding.Data.Sorted
import ClauseBinding.Evaluation.Evaluate

/-!
Contract: sorting records by selectors.

Owns:
- the sort keys of a record, and which failure to evaluate one is reported;
- the order of two lists of keys, absent keys lowest;
- the records in that order.

Does not own: the selectors, or the sort of a list.
-/

namespace ClauseBinding

/-- The order of two keys: absent below present, and keys without an order alike. -/
def Value.compareKey
    (left right : Value) : Ordering :=
  match left.isNull, right.isNull with
  | true, true => .eq
  | true, false => .lt
  | false, true => .gt
  | false, false => (left.compare? right).getD .eq

def Direction.orient : Direction → Ordering → Ordering
  | .ascending, ordering => ordering
  | .descending, ordering => ordering.swap

namespace Selector

/-- The order of two lists of keys, the first selector most significant. -/
def compareKeys : List Selector → List Value → List Value → Ordering
  | selector :: selectors, left :: lefts, right :: rights =>
      (selector.direction.orient (left.compareKey right)).then
        (compareKeys selectors lefts rights)
  | _, _, _ => .eq

/-- The value of a selector for a record, which fails on absent values. -/
def value
    (selector : Selector)
    (record : Record) : Except Failure Value :=
  selector.lambda.apply (.record record)

def key
    (selector : Selector)
    (record : Record) : Except Failure Value :=
  selector.sortKey.apply (.record record)

def keys
    (selectors : List Selector)
    (record : Record) : Except Failure (List Value) :=
  selectors.mapM (·.key record)

end Selector

/-- Sort records by selectors. The first record of which a key fails decides the
failure, by the first such key. -/
def sortRecords
    (selectors : List Selector)
    (records : List Record) : Except Failure (List Record) := do
  let keyed ← records.mapM fun record => do
    let keys ← Selector.keys selectors record
    pure (keys, record)
  let before (left right : List Value × Record) : Bool :=
    Selector.compareKeys selectors left.1 right.1 == .lt
  pure ((sortStable before keyed).map Prod.snd)

end ClauseBinding
