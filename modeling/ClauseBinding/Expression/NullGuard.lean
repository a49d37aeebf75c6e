import ClauseBinding.Expression.Tree

/-!
Contract: expressions that yield absent values where they would fail on them.

Owns:
- guards before member reads, calls, quantifiers and counts whose operands may be absent;
- the fold of an unknown condition to false.

Does not own: evaluation.

Operators pass absent values on by themselves and are left as they are. Guards
that are there already are taken away and built anew, so that guarding twice is
guarding once.
-/

namespace ClauseBinding.Expression

/-- The operands on whose absence the node itself would fail. -/
def dereferenced : Expression → List Expression
  | .read source _ _ => [source]
  | .quantified _ source _ _ _ => [source]
  | .count source _ => [source]
  | .countWhere source _ _ _ => [source]
  | .call _ arguments _ => arguments
  | _ => []

/-- The test for an absent operand among those that may be absent. -/
def absenceTest? (node : Expression) : Option Expression :=
  match (node.dereferenced.filter isNullable).map (absence · false) with
  | [] => none
  | first :: rest => some (rest.foldl (connect .or) first)

/-- Guard a node, if one of its operands may be absent. -/
def guardAbsence (node : Expression) : Expression :=
  match node.absenceTest? with
  | none => node
  | some test => guarded test node

/-- Let an unknown condition count as false. -/
def unknownToFalse (condition : Expression) : Expression :=
  if condition.type = .optional .bool then orElse condition (ofBool false) else condition

mutual

/-- Guard every node that would fail on an absent operand. -/
def guardNulls : Expression → Expression
  | .constant value type => .constant value type
  | .parameter name type => .parameter name type
  | .conditional test whenTrue whenFalse isGuard type =>
      if isGuard then guardNulls whenFalse
      else .conditional (guardNulls test) (guardNulls whenTrue) (guardNulls whenFalse) false type
  | .read source member type => guardAbsence (.read (guardNulls source) member type)
  | .call function arguments type =>
      guardAbsence (.call function (guardNullsAll arguments) type)
  | .quantified quantifier source item body type =>
      guardAbsence
        (.quantified quantifier (guardNulls source) item (unknownToFalse (guardNulls body)) type)
  | .count source type => guardAbsence (.count (guardNulls source) type)
  | .countWhere source item condition type =>
      guardAbsence
        (.countWhere (guardNulls source) item (unknownToFalse (guardNulls condition)) type)
  | .comparison operator left right type =>
      .comparison operator (guardNulls left) (guardNulls right) type
  | .logical operator left right type =>
      .logical operator (guardNulls left) (guardNulls right) type
  | .arithmetic operator left right type =>
      .arithmetic operator (guardNulls left) (guardNulls right) type
  | .has value flag type => .has (guardNulls value) (guardNulls flag) type
  | .not operand type => .not (guardNulls operand) type
  | .negate operand type => .negate (guardNulls operand) type
  | .isNull operand negated type => .isNull (guardNulls operand) negated type
  | .coalesce operand fallback type => .coalesce (guardNulls operand) (guardNulls fallback) type
  | .convert operand type => .convert (guardNulls operand) type
termination_by structural expression => expression

def guardNullsAll : List Expression → List Expression
  | [] => []
  | first :: rest => guardNulls first :: guardNullsAll rest
termination_by structural expressions => expressions

end

/-- Guard a condition; what stays unknown counts as false. -/
def guardCondition (condition : Expression) : Expression :=
  unknownToFalse (guardNulls condition)

end ClauseBinding.Expression
