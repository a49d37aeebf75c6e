import ClauseBinding.Expression.Tree
import ClauseBinding.Failure
import ClauseBinding.Schema.Catalog

/-!
Contract: operators over bound operands.

Owns:
- promotion of an operand to a type;
- the operand types that each operator accepts, and the type it works in;
- literals of enumerations, written as texts.

Does not own: the binding of the operands.
-/

namespace ClauseBinding.Expression

/-- Convert to a type without being asked to. An absent constant takes the type
itself; other expressions keep their nullability. -/
def promote
    (expression : Expression)
    (target : DataType) : Expression :=
  if expression.data = target then expression
  else if expression.isNullConstant then nullOf target
  else .convert expression ⟨target, expression.isNullable⟩

def mismatch
    (operation : String)
    (left right : Expression) : Failure :=
  .typeMismatch operation [left.type, right.type]

/-! ## Enumerations -/

def textConstant? : Expression → Option String
  | .constant (.string text) _ => some text
  | _ => none

/-- The constant of an enumeration that a text constant stands for; none for
what is no text constant, and a failure for a text that names nothing. -/
def enumerationConstant?
    (catalog : Catalog)
    (failure : Failure)
    (typeName : String)
    (literal : Expression) : Except Failure (Option Expression) :=
  match literal.textConstant? with
  | none => .ok none
  | some text =>
      match (catalog.enumeration? typeName).bind (·.valueOf? text) with
      | some value =>
          .ok (some
            (.constant (.enumeration typeName value) (.required (.enumeration typeName))))
      | none => .error failure

def enumerationName? (expression : Expression) : Option String :=
  match expression.data with
  | .enumeration name => some name
  | _ => none

/-- The constant that the second operand stands for beside a first one of an
enumeration type. -/
def besideEnumeration?
    (catalog : Catalog)
    (operation : String)
    (operand literal : Expression) : Except Failure (Option Expression) :=
  match operand.enumerationName? with
  | some typeName =>
      enumerationConstant? catalog (mismatch operation operand literal) typeName literal
  | none => .ok none

/-- Replace a text constant beside an operand of an enumeration type. The right
operand is looked at first. -/
def resolveEnumerations
    (catalog : Catalog)
    (operation : String)
    (left right : Expression) : Except Failure (Expression × Expression) := do
  match ← besideEnumeration? catalog operation left right with
  | some named => pure (left, named)
  | none =>
      match ← besideEnumeration? catalog operation right left with
      | some named => pure (named, right)
      | none => pure (left, right)

/-! ## Operators -/

/-- Whether a comparison works in a type: equality in every single-valued type,
order in numbers, dates, moments and enumerations. -/
def isComparable
    (operator : Comparison)
    (data : DataType) : Bool :=
  if operator.needsOrder then
    data.isNumeric || data == .date || data == .moment || data.isEnumeration
  else data.isOrderable

def comparisonType?
    (conversions : ConversionTable)
    (operator : Comparison)
    (left right : DataType) : Option DataType :=
  let target :=
    if left = .null ∧ right = .null then none
    else if left = .null then some right
    else if right = .null then some left
    else if left.isNumeric && right.isNumeric then conversions.commonType? left right
    else if left = right then some left
    else none
  target.filter (isComparable operator)

def bindOrdinaryComparison
    (catalog : Catalog)
    (operator : Comparison)
    (left right : Expression) : Except Failure Expression := do
  let (left, right) ← resolveEnumerations catalog operator.keyword left right
  match comparisonType? catalog.conversions operator left.data right.data with
  | some target => pure (compare operator (left.promote target) (right.promote target))
  | none => .error (mismatch operator.keyword left right)

/-- Bind a comparison. Equality with an absent constant is a test for absence. -/
def bindComparison
    (catalog : Catalog)
    (operator : Comparison)
    (left right : Expression) : Except Failure Expression :=
  if operator.needsOrder then bindOrdinaryComparison catalog operator left right
  else
    let negated := operator == .ne
    match left.isNullConstant, right.isNullConstant with
    | true, true => .ok (ofBool !negated)
    | true, false => .ok (absence right negated)
    | false, true => .ok (absence left negated)
    | false, false => bindOrdinaryComparison catalog operator left right

/-- Whether an operand can stand for a truth value. -/
def isTruthLike (expression : Expression) : Bool :=
  expression.data == .bool || expression.data == .null

def bindConnective
    (operator : Connective)
    (left right : Expression) : Except Failure Expression :=
  if left.isTruthLike && right.isTruthLike then
    .ok (connect operator (left.promote .bool) (right.promote .bool))
  else .error (mismatch operator.keyword left right)

def arithmeticType?
    (conversions : ConversionTable)
    (left right : DataType) : Option DataType :=
  if left = .null ∧ right.isNumeric then some right
  else if right = .null ∧ left.isNumeric then some left
  else if left.isNumeric && right.isNumeric then conversions.commonType? left right
  else none

def bindArithmetic
    (catalog : Catalog)
    (operator : Arithmetic)
    (left right : Expression) : Except Failure Expression :=
  match arithmeticType? catalog.conversions left.data right.data with
  | some target =>
      .ok (.arithmetic operator (left.promote target) (right.promote target)
        ⟨target, left.isNullable || right.isNullable⟩)
  | none => .error (mismatch operator.keyword left right)

def hasFlags
    (catalog : Catalog)
    (typeName : String) : Bool :=
  (catalog.enumeration? typeName).any (·.isFlags)

/-- Bind a test for flags: the value has an enumeration of flags for its type,
and the flag has the same type or is a text that names flags. -/
def bindHas
    (catalog : Catalog)
    (value flag : Expression) : Except Failure Expression := do
  let failure := mismatch "has" value flag
  let test (flag : Expression) : Expression :=
    .has value flag ⟨.bool, value.isNullable || flag.isNullable⟩
  match value.enumerationName? with
  | none => .error failure
  | some typeName =>
      if hasFlags catalog typeName then
        match ← enumerationConstant? catalog failure typeName flag with
        | some named => pure (test named)
        | none => if flag.data = value.data then pure (test flag) else .error failure
      else .error failure

def bindBinary
    (catalog : Catalog)
    (operator : BinaryOperator)
    (left right : Expression) : Except Failure Expression :=
  match operator with
  | .comparison operator => bindComparison catalog operator left right
  | .connective operator => bindConnective operator left right
  | .arithmetic operator => bindArithmetic catalog operator left right
  | .has => bindHas catalog left right

def bindUnary
    (operator : UnaryOperator)
    (operand : Expression) : Except Failure Expression :=
  match operator with
  | .not =>
      if operand.isTruthLike then .ok (negation (operand.promote .bool))
      else .error (.typeMismatch operator.keyword [operand.type])
  | .negate =>
      if operand.data.isNumeric then .ok (.negate operand operand.type)
      else .error (.typeMismatch operator.keyword [operand.type])

end ClauseBinding.Expression
