import ClauseBinding.Binding.Filter
import ClauseBinding.Proofs.Binding.Rules
import Mathlib.Data.List.Forall2

/-!
Contract: derivations, which say what a clause is bound to in a scope.

Owns:
- what the context is like one level deeper, with one more variable or with none;
- derivations, with one rule for each kind of clause;
- that binding follows the rules, whatever the depth and the configuration.

Does not own: what the rules guarantee.
-/

namespace ClauseBinding

open ClauseBinding.Outcome

namespace Context

variable {context inner : Context}

theorem eq_of_descend (descends : context.descend = .ok inner) :
    inner = { context with depth := context.depth + 1 } := by
  unfold descend at descends
  split at descends
  · exact (Except.ok.inj descends).symm
  · cases descends

/-- What goes on one level deeper goes on in the deeper context. -/
theorem of_descend_bind
    {α : Type}
    {next : Context → Except Failure α}
    {result : α}
    (succeeds : context.descend >>= next = .ok result) :
    next { context with depth := context.depth + 1 } = .ok result := by
  obtain ⟨inner, descends, succeeds⟩ := bind_eq_ok.mp succeeds
  rwa [eq_of_descend descends] at succeeds

theorem eq_of_declare
    {parameter : Parameter}
    (declares : context.declare parameter = .ok inner) :
    inner = { context with
      depth := context.depth + 1
      scope := parameter :: context.scope } := by
  replace declares := of_descend_bind declares
  exact (Except.ok.inj declares).symm

theorem eq_of_isolate (isolates : context.isolate = .ok inner) :
    inner = { context with
      depth := context.depth + 1
      scope := [] } := by
  replace isolates := of_descend_bind isolates
  exact (Except.ok.inj isolates).symm

/-- A name resolves to the type of the innermost variable of that name. -/
theorem resolve_eq_ok
    {name : String}
    {type : ValueType}
    (resolves : context.resolve name = .ok type) :
    ∃ parameter, context.scope.find? (·.name == name) = some parameter
      ∧ parameter.type = type := by
  unfold resolve at resolves
  split at resolves
  case h_1 parameter found => exact ⟨parameter, found, Except.ok.inj resolves⟩
  case h_2 => cases resolves

end Context

/-- What a condition is made into is the condition, guarded. -/
theorem Predicate.ofCondition_eq_ok
    {parameter : Parameter}
    {condition : Expression}
    {predicate : Predicate}
    (made : ofCondition parameter condition = .ok predicate) :
    predicate.lambda = ⟨parameter, condition.guardCondition⟩
      ∧ condition.guardCondition.type = .required .bool := by
  unfold ofCondition at made
  dsimp only at made
  split at made
  case isTrue isTruth =>
    obtain rfl := Except.ok.inj made
    exact ⟨rfl, isTruth⟩
  case isFalse => cases made

namespace Clause

/-- What a clause is bound to in a scope. Bodies see one more variable, counted
conditions only their own. -/
inductive Binds (catalog : Catalog) : List Parameter → Clause → Expression → Prop where
  | literal {scope : List Parameter} (value : Value) (type : ValueType) :
      Binds catalog scope (.literal value type) (.constant value type)
  | reference {scope : List Parameter} {name : String} {parameter : Parameter}
      (found : scope.find? (·.name == name) = some parameter) :
      Binds catalog scope (.reference name) (.parameter name parameter.type)
  | member {scope : List Parameter} {source : Clause} {name : String}
      {boundSource expression : Expression}
      (sourceBinds : Binds catalog scope source boundSource)
      (bound : Expression.bindMember catalog boundSource name = .ok expression) :
      Binds catalog scope (.member source name) expression
  | binary {scope : List Parameter} {operator : BinaryOperator} {left right : Clause}
      {boundLeft boundRight expression : Expression}
      (leftBinds : Binds catalog scope left boundLeft)
      (rightBinds : Binds catalog scope right boundRight)
      (bound : Expression.bindBinary catalog operator boundLeft boundRight = .ok expression) :
      Binds catalog scope (.binary operator left right) expression
  | unary {scope : List Parameter} {operator : UnaryOperator} {operand : Clause}
      {boundOperand expression : Expression}
      (operandBinds : Binds catalog scope operand boundOperand)
      (bound : Expression.bindUnary operator boundOperand = .ok expression) :
      Binds catalog scope (.unary operator operand) expression
  | call {scope : List Parameter} {name : String} {arguments : List Clause}
      {boundArguments : List Expression} {expression : Expression}
      (paired : arguments.length = boundArguments.length)
      (argumentsBind : ∀ argument boundArgument,
        (argument, boundArgument) ∈ arguments.zip boundArguments →
          Binds catalog scope argument boundArgument)
      (bound : Expression.bindCall catalog name boundArguments = .ok expression) :
      Binds catalog scope (.call name arguments) expression
  | cast {scope : List Parameter} {target : DataType} {operand : Clause}
      {boundOperand expression : Expression}
      (operandBinds : Binds catalog scope operand boundOperand)
      (bound : Expression.bindCast catalog target boundOperand = .ok expression) :
      Binds catalog scope (.cast target operand) expression
  | quantified {scope : List Parameter} {quantifier : Quantifier} {source body : Clause}
      {name : String} {item : ValueType} {boundSource boundBody expression : Expression}
      (sourceBinds : Binds catalog scope source boundSource)
      (collected : boundSource.data.element? = some item)
      (bodyBinds : Binds catalog (⟨name, item⟩ :: scope) body boundBody)
      (bound : Expression.bindQuantified quantifier boundSource ⟨name, item⟩ boundBody =
        .ok expression) :
      Binds catalog scope (.quantified quantifier source name body) expression
  | count {scope : List Parameter} {source : Clause} {item : ValueType}
      {boundSource : Expression}
      (sourceBinds : Binds catalog scope source boundSource)
      (collected : boundSource.data.element? = some item) :
      Binds catalog scope (.count source) (.count boundSource ⟨.int64, boundSource.isNullable⟩)
  | countWhere {scope : List Parameter} {source condition : Clause} {name : String}
      {item : ValueType} {boundSource boundCondition : Expression}
      (sourceBinds : Binds catalog scope source boundSource)
      (collected : boundSource.data.element? = some item)
      (conditionBinds : Binds catalog [⟨name, item⟩] condition boundCondition)
      (isTruth : boundCondition.guardCondition.type = .required .bool) :
      Binds catalog scope (.countWhere source name condition)
        (.countWhere boundSource ⟨name, item⟩ boundCondition.guardCondition
          ⟨.int64, boundSource.isNullable⟩)

theorem bindAll_eq_all
    (clauses : List Clause)
    (context : Context) : bindAll clauses context = all (clauses.map (·.bind context)) := by
  induction clauses with
  | nil => rfl
  | cons first rest inductionHypothesis =>
      rw [bindAll, inductionHypothesis, List.map_cons, all]

/-- Some clauses are bound exactly when each of them is. -/
theorem bindAll_eq_ok
    {clauses : List Clause}
    {context : Context}
    {expressions : List Expression} :
    bindAll clauses context = .ok expressions ↔
      List.Forall₂ (fun clause expression => clause.bind context = .ok expression)
        clauses expressions := by
  rw [bindAll_eq_all, all_eq_ok, List.forall₂_map_left_iff]

/-- Induction over clauses; the arguments of a call are covered by membership. -/
@[elab_as_elim, induction_eliminator]
theorem induction
    {motive : Clause → Prop}
    (literal : ∀ value type, motive (.literal value type))
    (reference : ∀ name, motive (.reference name))
    (member : ∀ source name, motive source → motive (.member source name))
    (binary : ∀ operator left right,
      motive left → motive right → motive (.binary operator left right))
    (unary : ∀ operator operand, motive operand → motive (.unary operator operand))
    (call : ∀ name arguments,
      (∀ argument ∈ arguments, motive argument) → motive (.call name arguments))
    (cast : ∀ target operand, motive operand → motive (.cast target operand))
    (quantified : ∀ quantifier source name body,
      motive source → motive body → motive (.quantified quantifier source name body))
    (count : ∀ source, motive source → motive (.count source))
    (countWhere : ∀ source name condition,
      motive source → motive condition → motive (.countWhere source name condition))
    (clause : Clause) : motive clause :=
  @Clause.rec motive (fun arguments => ∀ argument ∈ arguments, motive argument)
    literal reference member binary unary call cast quantified count countWhere
    (fun _ absurd => nomatch absurd)
    (fun _ _ first rest => List.forall_mem_cons.mpr ⟨first, rest⟩)
    clause

/-- Binding follows the rules. The context is general, as operands are bound one
level deeper, bodies with one more variable, and counted conditions with no other. -/
theorem binds_of_bind
    {clause : Clause}
    {context : Context}
    {expression : Expression}
    (bound : clause.bind context = .ok expression) :
    Binds context.catalog context.scope clause expression := by
  induction clause generalizing context expression with
  | literal value type =>
      replace bound := Context.of_descend_bind bound
      obtain rfl := Except.ok.inj bound
      exact .literal value type
  | reference name =>
      replace bound := Context.of_descend_bind bound
      obtain ⟨type, resolves, bound⟩ := bind_eq_ok.mp bound
      obtain ⟨parameter, found, rfl⟩ := Context.resolve_eq_ok resolves
      obtain rfl := Except.ok.inj bound
      exact .reference found
  | member source name sourceHypothesis =>
      replace bound := Context.of_descend_bind bound
      obtain ⟨boundSource, sourceBound, bound⟩ := bind_eq_ok.mp bound
      have sourceBinds := sourceHypothesis sourceBound
      exact .member sourceBinds bound
  | binary operator left right leftHypothesis rightHypothesis =>
      replace bound := Context.of_descend_bind bound
      obtain ⟨boundLeft, leftBound, bound⟩ := bind_eq_ok.mp bound
      obtain ⟨boundRight, rightBound, bound⟩ := bind_eq_ok.mp bound
      have leftBinds := leftHypothesis leftBound
      have rightBinds := rightHypothesis rightBound
      exact .binary leftBinds rightBinds bound
  | unary operator operand operandHypothesis =>
      replace bound := Context.of_descend_bind bound
      obtain ⟨boundOperand, operandBound, bound⟩ := bind_eq_ok.mp bound
      have operandBinds := operandHypothesis operandBound
      exact .unary operandBinds bound
  | call name arguments argumentsHypothesis =>
      replace bound := Context.of_descend_bind bound
      obtain ⟨boundArguments, argumentsBound, bound⟩ := bind_eq_ok.mp bound
      have each := bindAll_eq_ok.mp argumentsBound
      refine .call each.length_eq ?_ bound
      intro argument boundArgument paired
      have argumentBinds := argumentsHypothesis argument (List.of_mem_zip paired).1
        (List.forall₂_zip each paired)
      exact argumentBinds
  | cast target operand operandHypothesis =>
      replace bound := Context.of_descend_bind bound
      obtain ⟨boundOperand, operandBound, bound⟩ := bind_eq_ok.mp bound
      have operandBinds := operandHypothesis operandBound
      exact .cast operandBinds bound
  | quantified quantifier source name body sourceHypothesis bodyHypothesis =>
      replace bound := Context.of_descend_bind bound
      obtain ⟨boundSource, sourceBound, bound⟩ := bind_eq_ok.mp bound
      obtain ⟨item, typed, bound⟩ := bind_eq_ok.mp bound
      obtain ⟨inside, declares, bound⟩ := bind_eq_ok.mp bound
      obtain rfl := Context.eq_of_declare declares
      obtain ⟨boundBody, bodyBound, bound⟩ := bind_eq_ok.mp bound
      have sourceBinds := sourceHypothesis sourceBound
      have bodyBinds := bodyHypothesis bodyBound
      exact .quantified sourceBinds (Expression.itemType_eq_ok typed) bodyBinds bound
  | count source sourceHypothesis =>
      replace bound := Context.of_descend_bind bound
      obtain ⟨boundSource, sourceBound, bound⟩ := bind_eq_ok.mp bound
      obtain ⟨item, typed, bound⟩ := bind_eq_ok.mp bound
      obtain rfl := Except.ok.inj bound
      have sourceBinds := sourceHypothesis sourceBound
      exact .count sourceBinds (Expression.itemType_eq_ok typed)
  | countWhere source name condition sourceHypothesis conditionHypothesis =>
      replace bound := Context.of_descend_bind bound
      obtain ⟨boundSource, sourceBound, bound⟩ := bind_eq_ok.mp bound
      obtain ⟨item, typed, bound⟩ := bind_eq_ok.mp bound
      obtain ⟨isolated, isolates, bound⟩ := bind_eq_ok.mp bound
      obtain rfl := Context.eq_of_isolate isolates
      obtain ⟨inside, declares, bound⟩ := bind_eq_ok.mp bound
      obtain rfl := Context.eq_of_declare declares
      obtain ⟨boundCondition, conditionBound, bound⟩ := bind_eq_ok.mp bound
      obtain ⟨predicate, made, bound⟩ := bind_eq_ok.mp bound
      obtain ⟨isGuarded, isTruth⟩ := Predicate.ofCondition_eq_ok made
      obtain rfl := Except.ok.inj bound
      have sourceBinds := sourceHypothesis sourceBound
      have conditionBinds := conditionHypothesis conditionBound
      rw [isGuarded]
      exact .countWhere sourceBinds (Expression.itemType_eq_ok typed) conditionBinds isTruth

end Clause

/-- Each of some expressions has the clause that it is paired with. -/
theorem Clause.exists_paired
    {clauses : List Clause}
    {expressions : List Expression}
    {expression : Expression}
    (paired : clauses.length = expressions.length)
    (member : expression ∈ expressions) :
    ∃ clause ∈ clauses, (clause, expression) ∈ clauses.zip expressions := by
  rw [← List.map_snd_zip (Nat.le_of_eq paired.symm)] at member
  obtain ⟨⟨clause, _⟩, isPaired, rfl⟩ := List.mem_map.mp member
  exact ⟨clause, (List.of_mem_zip isPaired).1, isPaired⟩

/-- Clauses and expressions that agree pair by pair agree in a row. -/
theorem Clause.map_eq_of_paired
    {α : Type}
    {clauses : List Clause}
    {expressions : List Expression}
    {ofClause : Clause → α}
    {ofExpression : Expression → α}
    (paired : clauses.length = expressions.length)
    (same : ∀ clause expression, (clause, expression) ∈ clauses.zip expressions →
      ofClause clause = ofExpression expression) :
    clauses.map ofClause = expressions.map ofExpression := by
  rw [← List.forall₂_eq_eq_eq, List.forall₂_map_left_iff, List.forall₂_map_right_iff,
    List.forall₂_iff_zip]
  exact ⟨paired, fun isPaired => same _ _ isPaired⟩

namespace FilterClause

/-- A filter is its condition, guarded, bound with the range variable in scope. -/
theorem bindOver_eq_ok
    {filter : FilterClause}
    {type : ValueType}
    {context : Context}
    {predicate : Predicate}
    (bound : filter.bindOver type context = .ok predicate) :
    ∃ condition,
      Clause.Binds context.catalog (⟨filter.rangeVariable, type⟩ :: context.scope)
          filter.condition condition
        ∧ predicate.lambda = ⟨⟨filter.rangeVariable, type⟩, condition.guardCondition⟩
        ∧ condition.guardCondition.type = .required .bool := by
  obtain ⟨inside, declares, bound⟩ := bind_eq_ok.mp bound
  obtain rfl := Context.eq_of_declare declares
  obtain ⟨condition, conditionBound, made⟩ := bind_eq_ok.mp bound
  have binds := Clause.binds_of_bind conditionBound
  exact ⟨condition, binds, Predicate.ofCondition_eq_ok made⟩

/-- A filter over the elements of a fresh context is its condition, guarded, bound
in a scope that holds nothing but the range variable. -/
theorem bindIn_eq_ok
    {filter : FilterClause}
    {catalog : Catalog}
    {elementType : DataType}
    {configuration : Configuration}
    {predicate : Predicate}
    (bound : filter.bindIn (.start catalog elementType configuration) = .ok predicate) :
    ∃ condition,
      Clause.Binds catalog [⟨filter.rangeVariable, .required elementType⟩] filter.condition
          condition
        ∧ predicate.lambda =
          ⟨⟨filter.rangeVariable, .required elementType⟩, condition.guardCondition⟩
        ∧ condition.guardCondition.type = .required .bool :=
  bindOver_eq_ok bound

end FilterClause

end ClauseBinding
