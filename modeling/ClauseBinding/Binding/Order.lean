import ClauseBinding.Binding.Clause

/-!
Contract: the binding of order clauses to selectors.

Owns:
- a selector for each term, in order;
- selectors for the key members that make an order stable;
- the sort key of a selector, which is absent where the selector would fail on absence.

Does not own: sorting.
-/

namespace ClauseBinding

/-- A bound sort key and its direction. -/
structure Selector where
  lambda : Lambda
  direction : Direction

namespace Selector

/-- The selector, guarded against absent values. -/
def sortKey (selector : Selector) : Lambda :=
  ⟨selector.lambda.parameter, selector.lambda.body.guardNulls⟩

/-- The member that a selector reads off its parameter, if it does nothing else. -/
def directMember? (selector : Selector) : Option String :=
  match selector.lambda.body with
  | .read (.parameter name _) member _ =>
      if name = selector.lambda.parameter.name then some member else none
  | _ => none

/-- Bind a sort key, which has to have an orderable type. -/
def bind
    (key : Clause)
    (direction : Direction)
    (rangeVariable : String)
    (context : Context) : Except Failure Selector := do
  let parameter : Parameter := ⟨rangeVariable, .required context.elementType⟩
  let inside ← context.declare parameter
  let body ← key.bind inside
  if body.data.isOrderable then pure ⟨⟨parameter, body⟩, direction⟩
  else .error (.typeMismatch "orderby" [body.type])

end Selector

namespace OrderClause

def bindTerms
    (rangeVariable : String)
    (context : Context) : List OrderTerm → Except Failure (List Selector)
  | [] => .ok []
  | term :: rest => do
      let selector ← Selector.bind term.key term.direction rangeVariable context
      let others ← bindTerms rangeVariable context rest
      pure (selector :: others)

/-- Append selectors for the key members that no selector reads directly. -/
def appendKey
    (rangeVariable : String)
    (context : Context)
    (selectors : List Selector) : List String → Except Failure (List Selector)
  | [] => .ok selectors
  | member :: rest =>
      if selectors.any (·.directMember? == some member) then
        appendKey rangeVariable context selectors rest
      else do
        let selector ←
          Selector.bind (.member (.reference rangeVariable) member) .ascending rangeVariable context
        appendKey rangeVariable context (selectors ++ [selector]) rest

/-- The key of the element type; empty for what is not structured. -/
def elementKey (context : Context) : List String :=
  match context.elementType with
  | .structured typeName => context.catalog.keyMembers typeName
  | _ => []

def bindIn
    (order : OrderClause)
    (context : Context) : Except Failure (List Selector) := do
  let selectors ← bindTerms order.rangeVariable context order.terms
  if context.configuration.stableOrder then
    appendKey order.rangeVariable context selectors (elementKey context)
  else pure selectors

def bind?
    (order? : Option OrderClause)
    (context? : Option Context) : Except Failure (List Selector) :=
  match order?, context? with
  | none, _ => .error .missingClause
  | some _, none => .error .missingContext
  | some order, some context => order.bindIn context

end OrderClause

end ClauseBinding
