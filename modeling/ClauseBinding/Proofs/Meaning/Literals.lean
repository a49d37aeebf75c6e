import ClauseBinding.Proofs.Clause.Derivation
import ClauseBinding.Proofs.Meaning.Interpreter

/-!
Contract: literals that binding treats by their shape, found again in bound expressions.

Owns:
- the shape of what each kind of clause is bound to;
- that the absent literal, casts of it and text literals become constants of the
  same kind, and nothing else does.

Does not own: the values of bound expressions.
-/

namespace ClauseBinding

open ClauseBinding.Outcome

variable {catalog : Catalog} {scope : List Parameter}

namespace Expression

variable {source operand left right expression : Expression}

/-- Neither the absent constant nor a text constant, nor something read. -/
structure IsComputed (expression : Expression) : Prop where
  isNullConstant : expression.isNullConstant = false
  textConstant? : expression.textConstant? = none
  notParameter : expression.shape ≠ .parameter
  notRead : expression.shape ≠ .memberRead

theorem bindBinary_isComputed
    {operator : BinaryOperator}
    (bound : bindBinary catalog operator left right = .ok expression) :
    IsComputed expression := by
  cases binaryRule_of_bind bound <;> exact ⟨rfl, rfl, nofun, nofun⟩

theorem bindUnary_isComputed
    {operator : UnaryOperator}
    (bound : bindUnary operator operand = .ok expression) :
    IsComputed expression := by
  cases unaryRule_of_bind bound <;> exact ⟨rfl, rfl, nofun, nofun⟩

/-- A cast is the absent constant only of the absent constant, and no text constant. -/
theorem bindCast_literals
    {target : DataType}
    (bound : bindCast catalog target operand = .ok expression) :
    expression.isNullConstant = operand.isNullConstant ∧ expression.textConstant? = none := by
  cases castRule_of_bind bound with
  | absent absent => exact ⟨absent.symm, rfl⟩
  | convert present => exact ⟨present.symm, rfl⟩

end Expression

/-- Binding takes the absent literal, casts of it and text literals to constants
of the same kind, and nothing else. -/
theorem Clause.Binds.literals
    {clause : Clause}
    {expression : Expression}
    (binds : Binds catalog scope clause expression) :
    expression.isNullConstant = clause.isNullLiteral
      ∧ expression.textConstant? = clause.textLiteral? := by
  induction binds with
  | literal value type => cases value <;> exact ⟨rfl, rfl⟩
  | reference | count | countWhere => exact ⟨rfl, rfl⟩
  | member _ bound _ =>
      obtain ⟨_, _, _, _, rfl⟩ := Expression.bindMember_eq_ok bound
      exact ⟨rfl, rfl⟩
  | binary _ _ bound _ _ =>
      have computed := Expression.bindBinary_isComputed bound
      exact ⟨computed.isNullConstant, computed.textConstant?⟩
  | unary _ bound _ =>
      have computed := Expression.bindUnary_isComputed bound
      exact ⟨computed.isNullConstant, computed.textConstant?⟩
  | call _ _ bound _ =>
      obtain ⟨_, _, _, rfl⟩ := Expression.bindCall_eq_ok bound
      exact ⟨rfl, rfl⟩
  | cast _ bound operandLiterals =>
      obtain ⟨sameNull, noText⟩ := Expression.bindCast_literals bound
      exact ⟨sameNull.trans operandLiterals.1, noText⟩
  | quantified _ _ _ bound _ _ =>
      obtain ⟨_, rfl⟩ := Expression.bindQuantified_eq_ok bound
      exact ⟨rfl, rfl⟩

end ClauseBinding
