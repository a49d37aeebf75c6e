import ClauseBinding.Binding.Filter
import ClauseBinding.Binding.Guard
import ClauseBinding.Binding.Order

/-!
Contract: binding in place, in a context that other clauses are bound in before and after.

Owns:
- clauses, filters and orders as uses of one context, which hold their levels of depth,
  range variables and isolated scopes by guards;
- the note that a filter clause was given, which is made before the filter is bound.

Does not own: the rules of clause trees, which are those of binding in a given context.

Nested filters are bound the same way whether or not that note is made.
-/

namespace ClauseBinding

open Use

namespace Clause

mutual

def bindInPlace : Clause → Use Expression
  | .literal value type => under holdLevel do
      pure (.constant value type)
  | .reference name => under holdLevel do
      let type ← reading (·.resolve name)
      pure (.parameter name type)
  | .member source name => under holdLevel do
      let source ← bindInPlace source
      reading fun context => Expression.bindMember context.catalog source name
  | .binary operator left right => under holdLevel do
      let left ← bindInPlace left
      let right ← bindInPlace right
      reading fun context => Expression.bindBinary context.catalog operator left right
  | .unary operator operand => under holdLevel do
      let operand ← bindInPlace operand
      Expression.bindUnary operator operand
  | .call name arguments => under holdLevel do
      let arguments ← bindAllInPlace arguments
      reading fun context => Expression.bindCall context.catalog name arguments
  | .cast target operand => under holdLevel do
      let operand ← bindInPlace operand
      reading fun context => Expression.bindCast context.catalog target operand
  | .quantified quantifier source name body => under holdLevel do
      let source ← bindInPlace source
      let item ← Expression.itemType quantifier.keyword source
      let body ← under (holdVariable ⟨name, item⟩) (bindInPlace body)
      Expression.bindQuantified quantifier source ⟨name, item⟩ body
  | .count source => under holdLevel do
      let source ← bindInPlace source
      let _ ← Expression.itemType "$count" source
      pure (.count source ⟨.int64, source.isNullable⟩)
  | .countWhere source name condition => under holdLevel do
      let source ← bindInPlace source
      let item ← Expression.itemType "$count" source
      let predicate ← under holdIsolated do
        let condition ← under (holdVariable ⟨name, item⟩) (bindInPlace condition)
        Predicate.ofCondition ⟨name, item⟩ condition
      pure (.countWhere source ⟨name, item⟩ predicate.lambda.body ⟨.int64, source.isNullable⟩)
termination_by structural clause => clause

def bindAllInPlace : List Clause → Use (List Expression)
  | [] => pure []
  | first :: rest => do
      let first ← bindInPlace first
      let rest ← bindAllInPlace rest
      pure (first :: rest)
termination_by structural clauses => clauses

end

end Clause

namespace FilterClause

def bindOverInPlace
    (filter : FilterClause)
    (type : ValueType) : Use Predicate := do
  let parameter : Parameter := ⟨filter.rangeVariable, type⟩
  let condition ← under (holdVariable parameter) filter.condition.bindInPlace
  Predicate.ofCondition parameter condition

def bindNestedInPlace
    (filter : FilterClause)
    (type : ValueType) : Use Predicate :=
  under holdIsolated (filter.bindOverInPlace type)

/-- Bind a filter that may be missing. One that is there is noted before it is bound, so
it stays noted where binding fails. -/
def bindInPlace : Option FilterClause → Use Predicate
  | none => throw .missingClause
  | some filter => do
      modify fun context => { context with filterSeen := true }
      let context ← get
      filter.bindOverInPlace (.required context.elementType)

end FilterClause

namespace Selector

def bindInPlace
    (key : Clause)
    (direction : Direction)
    (rangeVariable : String) : Use Selector := do
  let context ← get
  let parameter : Parameter := ⟨rangeVariable, .required context.elementType⟩
  let body ← under (holdVariable parameter) key.bindInPlace
  if body.data.isOrderable then pure ⟨⟨parameter, body⟩, direction⟩
  else throw (.typeMismatch "orderby" [body.type])

end Selector

namespace OrderClause

def bindTermsInPlace
    (rangeVariable : String) : List OrderTerm → Use (List Selector)
  | [] => pure []
  | term :: rest => do
      let selector ← Selector.bindInPlace term.key term.direction rangeVariable
      let others ← bindTermsInPlace rangeVariable rest
      pure (selector :: others)

/-- Append selectors for the key members that no selector reads directly, in place. -/
def appendKeyInPlace
    (rangeVariable : String)
    (selectors : List Selector) : List String → Use (List Selector)
  | [] => pure selectors
  | member :: rest =>
      if selectors.any (·.directMember? == some member) then
        appendKeyInPlace rangeVariable selectors rest
      else do
        let selector ←
          Selector.bindInPlace (.member (.reference rangeVariable) member) .ascending rangeVariable
        appendKeyInPlace rangeVariable (selectors ++ [selector]) rest

def bindInPlace : Option OrderClause → Use (List Selector)
  | none => throw .missingClause
  | some order => do
      let selectors ← bindTermsInPlace order.rangeVariable order.terms
      let context ← get
      if context.configuration.stableOrder then
        appendKeyInPlace order.rangeVariable selectors (elementKey context)
      else pure selectors

end OrderClause

end ClauseBinding
