import ClauseBinding.Proofs.Clause.Derivation
import ClauseBinding.Proofs.Expression.Induction

/-!
Contract: expressions whose parameters are bound where they stand.

Owns:
- expressions that are scoped: every parameter is the innermost variable of its
  name and has its type, and counted conditions have no variable from outside;
- that guarding keeps expressions scoped, although it copies operands;
- that whatever a clause is bound to is scoped as the clause was.

Does not own: evaluation.
-/

namespace ClauseBinding

open ClauseBinding.Outcome

namespace Expression

/-- Whether every parameter is a variable of a scope, or of a binder above it in
the expression: the innermost one of its name, with the type declared there. The
binder of a counted condition hides all variables around it. -/
inductive Scoped : List Parameter → Expression → Prop where
  | constant {scope : List Parameter} (value : Value) (type : ValueType) :
      Scoped scope (.constant value type)
  | parameter {scope : List Parameter} {name : String} {type : ValueType}
      (innermost : scope.find? (·.name == name) = some ⟨name, type⟩) :
      Scoped scope (.parameter name type)
  | read {scope : List Parameter} {source : Expression} {member : String} {type : ValueType}
      (sourceScoped : Scoped scope source) :
      Scoped scope (.read source member type)
  | comparison {scope : List Parameter} {operator : Comparison} {left right : Expression}
      {type : ValueType} (leftScoped : Scoped scope left) (rightScoped : Scoped scope right) :
      Scoped scope (.comparison operator left right type)
  | logical {scope : List Parameter} {operator : Connective} {left right : Expression}
      {type : ValueType} (leftScoped : Scoped scope left) (rightScoped : Scoped scope right) :
      Scoped scope (.logical operator left right type)
  | arithmetic {scope : List Parameter} {operator : Arithmetic} {left right : Expression}
      {type : ValueType} (leftScoped : Scoped scope left) (rightScoped : Scoped scope right) :
      Scoped scope (.arithmetic operator left right type)
  | has {scope : List Parameter} {value flag : Expression} {type : ValueType}
      (valueScoped : Scoped scope value) (flagScoped : Scoped scope flag) :
      Scoped scope (.has value flag type)
  | not {scope : List Parameter} {operand : Expression} {type : ValueType}
      (operandScoped : Scoped scope operand) :
      Scoped scope (.not operand type)
  | negate {scope : List Parameter} {operand : Expression} {type : ValueType}
      (operandScoped : Scoped scope operand) :
      Scoped scope (.negate operand type)
  | isNull {scope : List Parameter} {operand : Expression} {negated : Bool} {type : ValueType}
      (operandScoped : Scoped scope operand) :
      Scoped scope (.isNull operand negated type)
  | coalesce {scope : List Parameter} {operand fallback : Expression} {type : ValueType}
      (operandScoped : Scoped scope operand) (fallbackScoped : Scoped scope fallback) :
      Scoped scope (.coalesce operand fallback type)
  | convert {scope : List Parameter} {operand : Expression} {type : ValueType}
      (operandScoped : Scoped scope operand) :
      Scoped scope (.convert operand type)
  | conditional {scope : List Parameter} {test whenTrue whenFalse : Expression} {isGuard : Bool}
      {type : ValueType} (testScoped : Scoped scope test) (whenTrueScoped : Scoped scope whenTrue)
      (whenFalseScoped : Scoped scope whenFalse) :
      Scoped scope (.conditional test whenTrue whenFalse isGuard type)
  | call {scope : List Parameter} {function : Function} {arguments : List Expression}
      {type : ValueType} (argumentsScoped : ∀ argument ∈ arguments, Scoped scope argument) :
      Scoped scope (.call function arguments type)
  | quantified {scope : List Parameter} {quantifier : Quantifier} {source body : Expression}
      {item : Parameter} {type : ValueType} (sourceScoped : Scoped scope source)
      (bodyScoped : Scoped (item :: scope) body) :
      Scoped scope (.quantified quantifier source item body type)
  | count {scope : List Parameter} {source : Expression} {type : ValueType}
      (sourceScoped : Scoped scope source) :
      Scoped scope (.count source type)
  | countWhere {scope : List Parameter} {source condition : Expression} {item : Parameter}
      {type : ValueType}
      (sourceScoped : Scoped scope source)
      (conditionScoped : Scoped [item] condition) :
      Scoped scope (.countWhere source item condition type)

namespace Scoped

variable {catalog : Catalog} {scope : List Parameter}
variable {node source operand left right expression : Expression}

/-! ## Guards -/

/-- The operands whose absence a guard tests stand in the scope of their node. -/
theorem of_dereferenced
    (wellScoped : Scoped scope node)
    (member : operand ∈ node.dereferenced) : Scoped scope operand := by
  cases wellScoped with
  | read source | quantified source | count source | countWhere source =>
      obtain rfl := List.mem_singleton.mp member
      exact source
  | call arguments => exact arguments operand member
  | _ => exact absurd member List.not_mem_nil

theorem disjunction
    {first : Expression}
    {rest : List Expression}
    (firstScoped : Scoped scope first)
    (restScoped : ∀ test ∈ rest, Scoped scope test) :
    Scoped scope (rest.foldl (connect .or) first) := by
  induction rest generalizing first with
  | nil => exact firstScoped
  | cons second rest inductionHypothesis =>
      obtain ⟨secondScoped, restScoped⟩ := List.forall_mem_cons.mp restScoped
      have together : Scoped scope (connect .or first second) := .logical firstScoped secondScoped
      exact inductionHypothesis together restScoped

theorem absenceTest?
    {test : Expression}
    (wellScoped : Scoped scope node)
    (tested : node.absenceTest? = some test) : Scoped scope test := by
  have each : ∀ absent ∈ (node.dereferenced.filter isNullable).map (absence · false),
      Scoped scope absent := by
    intro absent member
    obtain ⟨operand, isOperand, rfl⟩ := List.mem_map.mp member
    exact .isNull (wellScoped.of_dereferenced (List.mem_of_mem_filter isOperand))
  unfold Expression.absenceTest? at tested
  split at tested
  case h_1 => cases tested
  case h_2 first rest tests =>
    obtain rfl := Option.some.inj tested
    rw [tests] at each
    obtain ⟨firstScoped, restScoped⟩ := List.forall_mem_cons.mp each
    exact disjunction firstScoped restScoped

theorem guardAbsence (wellScoped : Scoped scope node) : Scoped scope node.guardAbsence := by
  unfold Expression.guardAbsence
  split
  case h_1 => exact wellScoped
  case h_2 test tested =>
    exact .conditional (wellScoped.absenceTest? tested) (.constant _ _) wellScoped

theorem unknownToFalse (wellScoped : Scoped scope node) : Scoped scope node.unknownToFalse := by
  unfold Expression.unknownToFalse
  split
  · exact .coalesce wellScoped (.constant _ _)
  · exact wellScoped

/-- Guarding copies operands within the scope that they stand in. -/
theorem guardNulls (wellScoped : Scoped scope expression) : Scoped scope expression.guardNulls := by
  induction wellScoped with
  | constant value type => exact .constant value type
  | parameter innermost => exact .parameter innermost
  | read _ source => exact guardAbsence (.read source)
  | comparison _ _ left right => exact .comparison left right
  | logical _ _ left right => exact .logical left right
  | arithmetic _ _ left right => exact .arithmetic left right
  | has _ _ value flag => exact .has value flag
  | not _ operand => exact .not operand
  | negate _ operand => exact .negate operand
  | isNull _ operand => exact .isNull operand
  | coalesce _ _ operand fallback => exact .coalesce operand fallback
  | convert _ operand => exact .convert operand
  | conditional _ _ _ test whenTrue whenFalse =>
      unfold Expression.guardNulls
      split
      · exact whenFalse
      · exact .conditional test whenTrue whenFalse
  | call _ arguments =>
      rw [Expression.guardNulls, guardNullsAll_eq_map]
      apply guardAbsence
      apply Scoped.call
      intro guarded member
      obtain ⟨argument, isArgument, rfl⟩ := List.mem_map.mp member
      exact arguments argument isArgument
  | quantified _ _ source body => exact guardAbsence (.quantified source body.unknownToFalse)
  | count _ source => exact guardAbsence (.count source)
  | countWhere _ _ source condition =>
      exact guardAbsence (.countWhere source condition.unknownToFalse)

theorem guardCondition (wellScoped : Scoped scope expression) :
    Scoped scope expression.guardCondition :=
  wellScoped.guardNulls.unknownToFalse

/-! ## Rules of binding -/

theorem promote
    (wellScoped : Scoped scope operand)
    (target : DataType) : Scoped scope (operand.promote target) := by
  unfold Expression.promote
  split
  · exact wellScoped
  · split
    · exact .constant _ _
    · exact .convert wellScoped

/-- An operator keeps its operands in the scope that they were bound in. -/
theorem bindBinary
    {operator : BinaryOperator}
    (leftScoped : Scoped scope left)
    (rightScoped : Scoped scope right)
    (bound : Expression.bindBinary catalog operator left right = .ok expression) :
    Scoped scope expression := by
  cases binaryRule_of_bind bound with
  | bothAbsent => exact .constant _ _
  | leftAbsent => exact .isNull rightScoped
  | rightAbsent => exact .isNull leftScoped
  | compared _ resolves _ =>
      obtain ⟨firstScoped, secondScoped⟩ :=
        resolves.both leftScoped rightScoped fun _ _ => .constant _ _
      exact .comparison (firstScoped.promote _) (secondScoped.promote _)
  | connected => exact .logical (leftScoped.promote _) (rightScoped.promote _)
  | calculated => exact .arithmetic (leftScoped.promote _) (rightScoped.promote _)
  | namedFlag => exact .has leftScoped (.constant _ _)
  | flag => exact .has leftScoped rightScoped

theorem bindUnary
    {operator : UnaryOperator}
    (wellScoped : Scoped scope operand)
    (bound : Expression.bindUnary operator operand = .ok expression) :
    Scoped scope expression := by
  cases unaryRule_of_bind bound with
  | not => exact .not (wellScoped.promote _)
  | negate => exact .negate wellScoped

theorem bindMember
    {member : String}
    (wellScoped : Scoped scope source)
    (bound : Expression.bindMember catalog source member = .ok expression) :
    Scoped scope expression := by
  obtain ⟨_, _, _, _, rfl⟩ := bindMember_eq_ok bound
  exact .read wellScoped

theorem bindCall
    {name : String}
    {arguments : List Expression}
    (wellScoped : ∀ argument ∈ arguments, Scoped scope argument)
    (bound : Expression.bindCall catalog name arguments = .ok expression) :
    Scoped scope expression := by
  obtain ⟨_, _, _, rfl⟩ := bindCall_eq_ok bound
  apply Scoped.call
  intro promoted member
  obtain ⟨argument, isArgument, parameter, rfl⟩ := exists_of_mem_promoted member
  exact (wellScoped argument isArgument).promote parameter

theorem bindCast
    {target : DataType}
    (wellScoped : Scoped scope operand)
    (bound : Expression.bindCast catalog target operand = .ok expression) :
    Scoped scope expression := by
  cases castRule_of_bind bound with
  | absent => exact .constant _ _
  | convert => exact .convert wellScoped

theorem bindQuantified
    {quantifier : Quantifier}
    {item : Parameter}
    {body : Expression}
    (wellScoped : Scoped scope source)
    (bodyScoped : Scoped (item :: scope) body)
    (bound : Expression.bindQuantified quantifier source item body = .ok expression) :
    Scoped scope expression := by
  obtain ⟨_, rfl⟩ := bindQuantified_eq_ok bound
  exact .quantified wellScoped (bodyScoped.promote _)

end Scoped

end Expression

/-! ## Clauses -/

/-- Whatever a clause is bound to in a scope is scoped by it. -/
theorem Clause.Binds.scoped
    {catalog : Catalog}
    {scope : List Parameter}
    {clause : Clause}
    {expression : Expression}
    (binds : Binds catalog scope clause expression) : expression.Scoped scope := by
  induction binds with
  | literal value type => exact .constant value type
  | @reference scope name parameter found =>
      have named : parameter.name = name := by simpa using List.find?_some found
      subst named
      exact .parameter found
  | member _ bound source => exact source.bindMember bound
  | binary _ _ bound left right => exact left.bindBinary right bound
  | unary _ bound operand => exact operand.bindUnary bound
  | call paired _ bound arguments =>
      refine Expression.Scoped.bindCall ?_ bound
      intro boundArgument isBound
      obtain ⟨argument, _, isPaired⟩ := exists_paired paired isBound
      exact arguments argument boundArgument isPaired
  | cast _ bound operand => exact operand.bindCast bound
  | quantified _ _ _ bound source body => exact source.bindQuantified body bound
  | count _ _ source => exact .count source
  | countWhere _ _ _ _ source condition => exact .countWhere source condition.guardCondition

end ClauseBinding
