import ClauseBinding.Binding.Clause

/-!
Contract: the binding of filter clauses to predicates.

Owns:
- a filter over the elements of a context;
- a filter inside another clause, which sees no range variable of it;
- what is reported when the clause or the context is missing.

Does not own: the rules of clause trees.
-/

namespace ClauseBinding.FilterClause

/-- Bind a filter over items of a type in a context. -/
def bindOver
    (filter : FilterClause)
    (type : ValueType)
    (context : Context) : Except Failure Predicate := do
  let parameter : Parameter := ⟨filter.rangeVariable, type⟩
  let inside ← context.declare parameter
  let condition ← filter.condition.bind inside
  Predicate.ofCondition parameter condition

def bindIn
    (filter : FilterClause)
    (context : Context) : Except Failure Predicate :=
  filter.bindOver (.required context.elementType) context

def bindNested
    (filter : FilterClause)
    (type : ValueType)
    (context : Context) : Except Failure Predicate := do
  let isolated ← context.isolate
  filter.bindOver type isolated

/-- Bind a filter that may be missing in a context that may be missing. -/
def bind?
    (filter? : Option FilterClause)
    (context? : Option Context) : Except Failure Predicate :=
  match filter?, context? with
  | none, _ => .error .missingClause
  | some _, none => .error .missingContext
  | some filter, some context => filter.bindIn context

end ClauseBinding.FilterClause
