import ClauseBinding.Clause.Operator
import ClauseBinding.Data.Value
import ClauseBinding.Expression.Function

/-!
Contract: typed expressions, which binding makes of clauses.

Owns:
- the trees, every node with the type recorded for its result;
- the nodes whose type follows from their operands;
- the shape of a node.

Does not own: whether the recorded types are right, or what an expression evaluates to.
-/

namespace ClauseBinding

structure Parameter where
  name : String
  type : ValueType
deriving DecidableEq

/-- A typed expression. The last field of each node is the type of its result.
A conditional is marked as a guard when it stands before an operation that
fails on absent values. -/
inductive Expression where
  | constant (value : Value) (type : ValueType)
  | parameter (name : String) (type : ValueType)
  | read (source : Expression) (member : String) (type : ValueType)
  | comparison (operator : Comparison) (left right : Expression) (type : ValueType)
  | logical (operator : Connective) (left right : Expression) (type : ValueType)
  | arithmetic (operator : Arithmetic) (left right : Expression) (type : ValueType)
  | has (value flag : Expression) (type : ValueType)
  | not (operand : Expression) (type : ValueType)
  | negate (operand : Expression) (type : ValueType)
  | isNull (operand : Expression) (negated : Bool) (type : ValueType)
  | coalesce (operand fallback : Expression) (type : ValueType)
  | convert (operand : Expression) (type : ValueType)
  | conditional (test whenTrue whenFalse : Expression) (isGuard : Bool) (type : ValueType)
  | call (function : Function) (arguments : List Expression) (type : ValueType)
  | quantified (quantifier : Quantifier) (source : Expression) (item : Parameter)
      (body : Expression) (type : ValueType)
  | count (source : Expression) (type : ValueType)
  | countWhere (source : Expression) (item : Parameter) (condition : Expression)
      (type : ValueType)

instance : Inhabited Expression := ⟨.constant .null .null⟩

structure Lambda where
  parameter : Parameter
  body : Expression

inductive Shape where
  | constant
  | parameter
  | memberRead
  | operator
  | convert
  | conditional
  | call
  | quantifier
  | count
deriving DecidableEq, Repr

def Shape.name : Shape → String
  | .constant => "constant"
  | .parameter => "parameter"
  | .memberRead => "member-read"
  | .operator => "operator"
  | .convert => "convert"
  | .conditional => "conditional"
  | .call => "call"
  | .quantifier => "quantifier"
  | .count => "count"

namespace Expression

def type : Expression → ValueType
  | .constant _ type => type
  | .parameter _ type => type
  | .read _ _ type => type
  | .comparison _ _ _ type => type
  | .logical _ _ _ type => type
  | .arithmetic _ _ _ type => type
  | .has _ _ type => type
  | .not _ type => type
  | .negate _ type => type
  | .isNull _ _ type => type
  | .coalesce _ _ type => type
  | .convert _ type => type
  | .conditional _ _ _ _ type => type
  | .call _ _ type => type
  | .quantified _ _ _ _ type => type
  | .count _ type => type
  | .countWhere _ _ _ type => type

def data (expression : Expression) : DataType :=
  expression.type.data

def isNullable (expression : Expression) : Bool :=
  expression.type.nullable

def shape : Expression → Shape
  | .constant .. => .constant
  | .parameter .. => .parameter
  | .read .. => .memberRead
  | .comparison .. | .logical .. | .arithmetic .. | .has .. | .not .. | .negate .. | .isNull ..
  | .coalesce .. => .operator
  | .convert .. => .convert
  | .conditional .. => .conditional
  | .call .. => .call
  | .quantified .. => .quantifier
  | .count .. | .countWhere .. => .count

def isNullConstant : Expression → Bool
  | .constant .null _ => true
  | _ => false

/-! ## Nodes whose type follows from their operands -/

def ofBool (value : Bool) : Expression :=
  .constant (.bool value) (.required .bool)

def nullOf (data : DataType) : Expression :=
  .constant .null (.optional data)

/-- A comparison; unknown when an operand is absent. -/
def compare
    (operator : Comparison)
    (left right : Expression) : Expression :=
  .comparison operator left right ⟨.bool, left.isNullable || right.isNullable⟩

/-- A connective; possibly unknown when an operand is. -/
def connect
    (operator : Connective)
    (left right : Expression) : Expression :=
  .logical operator left right ⟨.bool, left.isNullable || right.isNullable⟩

def negation (operand : Expression) : Expression :=
  .not operand operand.type

/-- A test for absence, or for presence when negated; never unknown. -/
def absence
    (operand : Expression)
    (negated : Bool) : Expression :=
  .isNull operand negated (.required .bool)

/-- The operand, or the fallback where it is absent. -/
def orElse
    (operand fallback : Expression) : Expression :=
  .coalesce operand fallback { operand.type with nullable := fallback.isNullable }

/-- A choice, typed after its second branch, possibly absent when either branch is. -/
def choice
    (test whenTrue whenFalse : Expression) : Expression :=
  .conditional test whenTrue whenFalse false
    { whenFalse.type with nullable := whenTrue.isNullable || whenFalse.isNullable }

/-- A guard: absent when the test holds, else the guarded node. -/
def guarded
    (test node : Expression) : Expression :=
  .conditional test (nullOf node.data) node true node.type.asOptional

end Expression

end ClauseBinding
