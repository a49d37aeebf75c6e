import ClauseBinding.Binding.Context
import ClauseBinding.Binding.Operator
import ClauseBinding.Binding.Overload
import ClauseBinding.Clause.Tree
import ClauseBinding.Expression.NullGuard

/-!
Contract: the binding of clause trees to typed expressions.

Owns:
- the rule of each kind of clause;
- predicates, the result of binding a condition;
- the scope in which each part of a clause is bound.

Does not own: operators, overloads and guards, which have modules of their own.
-/

namespace ClauseBinding

/-- A condition on one parameter whose result is a truth value, never absent. -/
structure Predicate where
  lambda : Lambda
  isTruth : lambda.body.type = .required .bool

namespace Predicate

/-- The predicate of a bound condition: guarded, with unknown counting as false. -/
def ofCondition
    (parameter : Parameter)
    (condition : Expression) : Except Failure Predicate :=
  let body := condition.guardCondition
  if isTruth : body.type = .required .bool then .ok ⟨⟨parameter, body⟩, isTruth⟩
  else .error (.filterNotTruth body.type)

end Predicate

namespace Expression

/-- Read a member of a structured expression. The result may be absent when the
member or its source may. -/
def bindMember
    (catalog : Catalog)
    (source : Expression)
    (member : String) : Except Failure Expression :=
  match source.data with
  | .structured typeName =>
      match catalog.member? typeName member with
      | some definition =>
          .ok (.read source member ⟨definition.data, definition.nullable || source.isNullable⟩)
      | none => .error (.unknownMember typeName member)
  | _ => .error (.typeMismatch ("/" ++ member) [source.type])

/-- Call a function by its overload for the arguments, which are promoted to the
parameters. -/
def bindCall
    (catalog : Catalog)
    (name : String)
    (arguments : List Expression) : Except Failure Expression := do
  let types := arguments.map type
  let (function, signature) ← Signature.resolve catalog.conversions name types
  pure (.call function (arguments.zipWith promote signature.parameters)
    ⟨signature.result, types.any (·.nullable)⟩)

/-- Whether an expression of a type may be cast to a data type. Enumerations
convert to whole numbers. -/
def canCast
    (catalog : Catalog)
    (source target : DataType) : Bool :=
  match source with
  | .enumeration _ => target.isIntegral || source == target
  | _ => catalog.conversions.canCast source target

/-- Cast to a data type. A value that does not fit becomes absent, so the result
may always be. -/
def bindCast
    (catalog : Catalog)
    (target : DataType)
    (operand : Expression) : Except Failure Expression :=
  if operand.isNullConstant then .ok (nullOf target)
  else if canCast catalog operand.data target then .ok (.convert operand (.optional target))
  else .error (.invalidCast operand.data target)

def itemType
    (operation : String)
    (source : Expression) : Except Failure ValueType :=
  match source.data.element? with
  | some element => .ok element
  | none => .error (.typeMismatch operation [source.type])

def bindQuantified
    (quantifier : Quantifier)
    (source : Expression)
    (item : Parameter)
    (body : Expression) : Except Failure Expression :=
  if body.isTruthLike then
    .ok (.quantified quantifier source item (body.promote .bool) ⟨.bool, source.isNullable⟩)
  else .error (.typeMismatch quantifier.keyword [source.type, body.type])

end Expression

namespace Clause

mutual

/-- Bind a clause in a context. Every node takes one level of depth, as does
every range variable; a counted condition takes one more and sees no range
variable but its own. -/
def bind : Clause → Context → Except Failure Expression
  | .literal value type, context => do
      let _ ← context.descend
      pure (.constant value type)
  | .reference name, context => do
      let inner ← context.descend
      let type ← inner.resolve name
      pure (.parameter name type)
  | .member source name, context => do
      let inner ← context.descend
      let source ← bind source inner
      Expression.bindMember context.catalog source name
  | .binary operator left right, context => do
      let inner ← context.descend
      let left ← bind left inner
      let right ← bind right inner
      Expression.bindBinary context.catalog operator left right
  | .unary operator operand, context => do
      let inner ← context.descend
      let operand ← bind operand inner
      Expression.bindUnary operator operand
  | .call name arguments, context => do
      let inner ← context.descend
      let arguments ← bindAll arguments inner
      Expression.bindCall context.catalog name arguments
  | .cast target operand, context => do
      let inner ← context.descend
      let operand ← bind operand inner
      Expression.bindCast context.catalog target operand
  | .quantified quantifier source name body, context => do
      let inner ← context.descend
      let source ← bind source inner
      let item ← Expression.itemType quantifier.keyword source
      let inside ← inner.declare ⟨name, item⟩
      let body ← bind body inside
      Expression.bindQuantified quantifier source ⟨name, item⟩ body
  | .count source, context => do
      let inner ← context.descend
      let source ← bind source inner
      let _ ← Expression.itemType "$count" source
      pure (.count source ⟨.int64, source.isNullable⟩)
  | .countWhere source name condition, context => do
      let inner ← context.descend
      let source ← bind source inner
      let item ← Expression.itemType "$count" source
      let isolated ← inner.isolate
      let inside ← isolated.declare ⟨name, item⟩
      let condition ← bind condition inside
      let predicate ← Predicate.ofCondition ⟨name, item⟩ condition
      pure (.countWhere source ⟨name, item⟩ predicate.lambda.body ⟨.int64, source.isNullable⟩)
termination_by structural clause => clause

def bindAll : List Clause → Context → Except Failure (List Expression)
  | [], _ => .ok []
  | first :: rest, context => do
      let first ← bind first context
      let rest ← bindAll rest context
      pure (first :: rest)
termination_by structural clauses => clauses

end

end Clause

end ClauseBinding
