/-!
Contract: the operators of clauses.

Owns: comparisons, connectives, arithmetic, negations and quantifiers, with their keywords.

Does not own: their meaning on values, apart from what a comparison asks of an order.
-/

namespace ClauseBinding

inductive Comparison where
  | eq
  | ne
  | lt
  | le
  | gt
  | ge
deriving DecidableEq, Repr

inductive Connective where
  | and
  | or
deriving DecidableEq, Repr

inductive Arithmetic where
  | add
  | sub
  | mul
  | div
  | mod
deriving DecidableEq, Repr

/-- Operators of two operands. `has` tests for flags of an enumeration. -/
inductive BinaryOperator where
  | comparison (operator : Comparison)
  | connective (operator : Connective)
  | arithmetic (operator : Arithmetic)
  | has
deriving DecidableEq, Repr

inductive UnaryOperator where
  | not
  | negate
deriving DecidableEq, Repr

/-- Whether some item or every item of a collection has to satisfy a condition. -/
inductive Quantifier where
  | any
  | all
deriving DecidableEq, Repr

namespace Comparison

def keyword : Comparison → String
  | .eq => "eq"
  | .ne => "ne"
  | .lt => "lt"
  | .le => "le"
  | .gt => "gt"
  | .ge => "ge"

/-- Whether a comparison holds of operands in the given order. -/
def holds : Comparison → Ordering → Bool
  | .eq, ordering => ordering == .eq
  | .ne, ordering => ordering != .eq
  | .lt, ordering => ordering == .lt
  | .le, ordering => ordering != .gt
  | .gt, ordering => ordering == .gt
  | .ge, ordering => ordering != .lt

/-- Whether the comparison asks for an order and not just for equality. -/
def needsOrder : Comparison → Bool
  | .eq | .ne => false
  | .lt | .le | .gt | .ge => true

end Comparison

namespace Connective

def keyword : Connective → String
  | .and => "and"
  | .or => "or"

/-- The operand that decides the result by itself. -/
def deciding : Connective → Bool
  | .and => false
  | .or => true

end Connective

def Arithmetic.keyword : Arithmetic → String
  | .add => "add"
  | .sub => "sub"
  | .mul => "mul"
  | .div => "div"
  | .mod => "mod"

namespace BinaryOperator

def keyword : BinaryOperator → String
  | .comparison operator => operator.keyword
  | .connective operator => operator.keyword
  | .arithmetic operator => operator.keyword
  | .has => "has"

def all : List BinaryOperator := [
  .comparison .eq, .comparison .ne, .comparison .lt, .comparison .le, .comparison .gt,
  .comparison .ge, .connective .and, .connective .or, .arithmetic .add, .arithmetic .sub,
  .arithmetic .mul, .arithmetic .div, .arithmetic .mod, .has]

def ofKeyword? (keyword : String) : Option BinaryOperator :=
  all.find? (·.keyword == keyword)

end BinaryOperator

def UnaryOperator.keyword : UnaryOperator → String
  | .not => "not"
  | .negate => "-"

def Quantifier.keyword : Quantifier → String
  | .any => "any"
  | .all => "all"

end ClauseBinding
