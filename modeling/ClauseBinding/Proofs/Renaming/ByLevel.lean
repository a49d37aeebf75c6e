import ClauseBinding.Binding.Clause
import ClauseBinding.Proofs.Expression.Induction
import ClauseBinding.Proofs.Evaluation.Outcome

/-!
Contract: expressions whose range variables are named by the level that they stand at.

Owns:
- the name that a level gives to the innermost variable of a name;
- an expression with all of its variables named so;
- that types and constants are kept, so that guards are built alike.

Does not own: the binding of clauses, or the evaluation of renamed expressions.

Expressions that differ in the names of their variables alone are the same when renamed.
So nothing has to be followed on two expressions at once.
-/

namespace ClauseBinding

open ClauseBinding.Outcome

def levelName (level : Nat) : String :=
  .ofList (List.replicate level 'v')

theorem levelName_inj
    {level level' : Nat}
    (same : levelName level = levelName level') : level = level' := by
  have lengths := congrArg String.length same
  simpa [levelName] using lengths

/-- The name that stands for a name below some variables, innermost first: that of the
level of the innermost variable so called. Other names stand for themselves. -/
def standIn : List String → String → String
  | [], name => name
  | first :: rest, name => if first = name then levelName rest.length else standIn rest name

namespace Expression

mutual

/-- An expression with its variables named by level, where it stands below variables of
some names. -/
def byLevel : Expression → List String → Expression
  | .constant value type, _ => .constant value type
  | .parameter name type, names => .parameter (standIn names name) type
  | .read source member type, names => .read (byLevel source names) member type
  | .comparison operator left right type, names =>
      .comparison operator (byLevel left names) (byLevel right names) type
  | .logical operator left right type, names =>
      .logical operator (byLevel left names) (byLevel right names) type
  | .arithmetic operator left right type, names =>
      .arithmetic operator (byLevel left names) (byLevel right names) type
  | .has value flag type, names => .has (byLevel value names) (byLevel flag names) type
  | .not operand type, names => .not (byLevel operand names) type
  | .negate operand type, names => .negate (byLevel operand names) type
  | .isNull operand negated type, names => .isNull (byLevel operand names) negated type
  | .coalesce operand fallback type, names =>
      .coalesce (byLevel operand names) (byLevel fallback names) type
  | .convert operand type, names => .convert (byLevel operand names) type
  | .conditional test whenTrue whenFalse isGuard type, names =>
      .conditional (byLevel test names) (byLevel whenTrue names) (byLevel whenFalse names) isGuard
        type
  | .call function arguments type, names => .call function (byLevelAll arguments names) type
  | .quantified quantifier source item body type, names =>
      .quantified quantifier (byLevel source names) ⟨levelName names.length, item.type⟩
        (byLevel body (item.name :: names)) type
  | .count source type, names => .count (byLevel source names) type
  | .countWhere source item condition type, names =>
      .countWhere (byLevel source names) ⟨levelName 0, item.type⟩ (byLevel condition [item.name])
        type
termination_by structural expression => expression

def byLevelAll : List Expression → List String → List Expression
  | [], _ => []
  | first :: rest, names => byLevel first names :: byLevelAll rest names
termination_by structural expressions => expressions

end

variable (names : List String)

theorem byLevelAll_eq_map (expressions : List Expression) :
    byLevelAll expressions names = expressions.map (·.byLevel names) := by
  induction expressions with
  | nil => rfl
  | cons first rest inductionHypothesis => rw [byLevelAll, inductionHypothesis, List.map_cons]

/-! ## What is kept -/

@[simp] theorem type_byLevel (expression : Expression) :
    (expression.byLevel names).type = expression.type := by
  cases expression <;> rfl

@[simp] theorem data_byLevel (expression : Expression) :
    (expression.byLevel names).data = expression.data := by
  rw [data, type_byLevel, data]

@[simp] theorem isNullable_byLevel (expression : Expression) :
    (expression.byLevel names).isNullable = expression.isNullable := by
  rw [isNullable, type_byLevel, isNullable]

@[simp] theorem isTruthLike_byLevel (expression : Expression) :
    (expression.byLevel names).isTruthLike = expression.isTruthLike := by
  rw [isTruthLike, data_byLevel, isTruthLike]

@[simp] theorem isNullConstant_byLevel (expression : Expression) :
    (expression.byLevel names).isNullConstant = expression.isNullConstant := by
  cases expression <;> rfl

@[simp] theorem textConstant?_byLevel (expression : Expression) :
    (expression.byLevel names).textConstant? = expression.textConstant? := by
  cases expression <;> rfl

@[simp] theorem enumerationName?_byLevel (expression : Expression) :
    (expression.byLevel names).enumerationName? = expression.enumerationName? := by
  rw [enumerationName?, data_byLevel, enumerationName?]

@[simp] theorem mismatch_byLevel
    (operation : String)
    (left right : Expression) :
    mismatch operation (left.byLevel names) (right.byLevel names) =
      mismatch operation left right := by
  simp only [mismatch, type_byLevel]

/-! ## Guards -/

private theorem dereferenced_byLevel (node : Expression) :
    (node.byLevel names).dereferenced = node.dereferenced.map (·.byLevel names) := by
  cases node with
  | call function arguments type => exact byLevelAll_eq_map names arguments
  | _ => rfl

private theorem disjunction_byLevel
    (first : Expression)
    (rest : List Expression) :
    (rest.foldl (connect .or) first).byLevel names =
      (rest.map (·.byLevel names)).foldl (connect .or) (first.byLevel names) := by
  induction rest generalizing first with
  | nil => rfl
  | cons second rest inductionHypothesis =>
      have together : (connect .or first second).byLevel names =
          connect .or (first.byLevel names) (second.byLevel names) := by
        simp only [connect, byLevel, isNullable_byLevel]
      rw [List.foldl_cons, inductionHypothesis, together]
      rfl

private theorem absenceTest?_byLevel (node : Expression) :
    (node.byLevel names).absenceTest? = node.absenceTest?.map (·.byLevel names) := by
  have tests : ((node.byLevel names).dereferenced.filter isNullable).map (absence · false) =
      ((node.dereferenced.filter isNullable).map (absence · false)).map (·.byLevel names) := by
    rw [dereferenced_byLevel, List.filter_map, List.map_map, List.map_map]
    have sameNullable : isNullable ∘ (·.byLevel names) = isNullable :=
      funext (isNullable_byLevel names)
    rw [sameNullable]
    rfl
  unfold absenceTest?
  rw [tests]
  cases (node.dereferenced.filter isNullable).map (absence · false) with
  | nil => rfl
  | cons first rest => exact congrArg some (disjunction_byLevel names first rest).symm

private theorem guardAbsence_byLevel (node : Expression) :
    (node.byLevel names).guardAbsence = node.guardAbsence.byLevel names := by
  unfold guardAbsence
  rw [absenceTest?_byLevel]
  cases node.absenceTest? with
  | none => rfl
  | some test => simp only [Option.map_some, guarded, nullOf, byLevel, data_byLevel, type_byLevel]

private theorem unknownToFalse_byLevel (condition : Expression) :
    (condition.byLevel names).unknownToFalse = condition.unknownToFalse.byLevel names := by
  unfold unknownToFalse
  rw [type_byLevel]
  split
  · simp only [orElse, byLevel, type_byLevel]
    rfl
  · rfl

private theorem guardNulls_byLevel (expression : Expression) :
    (expression.byLevel names).guardNulls = expression.guardNulls.byLevel names := by
  induction expression generalizing names with
  | constant | parameter => rfl
  | read source member type sourceGuarded | count source type sourceGuarded =>
      simp only [byLevel, guardNulls, sourceGuarded, ← guardAbsence_byLevel]
  | comparison _ _ _ _ leftGuarded rightGuarded | logical _ _ _ _ leftGuarded rightGuarded
  | arithmetic _ _ _ _ leftGuarded rightGuarded | has _ _ _ leftGuarded rightGuarded
  | coalesce _ _ _ leftGuarded rightGuarded =>
      simp only [byLevel, guardNulls, leftGuarded, rightGuarded]
  | not _ _ operandGuarded | negate _ _ operandGuarded | isNull _ _ _ operandGuarded
  | convert _ _ operandGuarded =>
      simp only [byLevel, guardNulls, operandGuarded]
  | conditional test whenTrue whenFalse isGuard type testGuarded trueGuarded falseGuarded =>
      cases isGuard with
      | true => simp only [byLevel, guardNulls, falseGuarded, if_true]
      | false =>
          simp only [byLevel, guardNulls, testGuarded, trueGuarded, falseGuarded,
            Bool.false_eq_true, if_false]
  | call function arguments type argumentsGuarded =>
      have each : (arguments.map (·.byLevel names)).map guardNulls =
          (arguments.map guardNulls).map (·.byLevel names) := by
        rw [List.map_map, List.map_map]
        exact List.map_congr_left fun argument member => argumentsGuarded argument member names
      simp only [byLevel, guardNulls, byLevelAll_eq_map, guardNullsAll_eq_map, each,
        ← guardAbsence_byLevel]
  | quantified quantifier source item body type sourceGuarded bodyGuarded =>
      simp only [byLevel, guardNulls, sourceGuarded, bodyGuarded, unknownToFalse_byLevel,
        ← guardAbsence_byLevel]
  | countWhere source item condition type sourceGuarded conditionGuarded =>
      simp only [byLevel, guardNulls, sourceGuarded, conditionGuarded, unknownToFalse_byLevel,
        ← guardAbsence_byLevel]

theorem guardCondition_byLevel (condition : Expression) :
    (condition.byLevel names).guardCondition = condition.guardCondition.byLevel names := by
  rw [guardCondition, guardNulls_byLevel, unknownToFalse_byLevel, guardCondition]

end Expression

end ClauseBinding
