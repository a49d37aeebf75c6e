import ClauseBinding.Clause.Tree
import ClauseBinding.Proofs.Evaluation.WholeNumbers
import ClauseBinding.Schema.Catalog

/-!
Contract: what operators mean on values, by tables of their own.

Owns:
- comparisons, arithmetic, operators of one operand and tests for flags, whatever the
  types of the values;
- Kleene's connectives, quantifiers and counts, on what their operands come out as;
- members and items of values.

Does not own: the operators that clauses are evaluated with, or the proof that these
follow the tables.

The tables say what an operator gives. They ask for an order where a comparison is looked up
by its outcome, for single bits where flags are masked, and for the numbers themselves where
whole numbers are calculated in 64 bits and narrowed. A value that an operator has nothing to
say about makes the failure that names it.
-/

namespace ClauseBinding

open ClauseBinding.Number

/-! ## Comparisons -/

namespace Comparison

def relates
    {α : Type}
    [DecidableEq α]
    [LT α]
    [DecidableLT α]
    (operator : Comparison)
    (left right : α) : Bool :=
  match operator with
  | .eq => left = right
  | .ne => left ≠ right
  | .lt => left < right
  | .le => left < right ∨ left = right
  | .gt => right < left
  | .ge => right < left ∨ left = right

/-- A comparison of floating numbers, by their places in numeric order. Not-a-number has
none, and is unequal to all. -/
def onPatterns
    (operator : Comparison)
    (layout : Layout)
    (left right : Nat) : Bool :=
  match layout.place? left, layout.place? right with
  | some left, some right => operator.relates left right
  | _, _ => operator = .ne

/-- A comparison of present values. Days are compared by their number, moments by the
instant and then by the fraction of its second. Values of different types, records and
collections are unequal, and nothing else. -/
def onPresent (operator : Comparison) : Value → Value → Bool
  | .bool left, .bool right => operator.relates left right
  | .int32 left, .int32 right => operator.relates left.toInt right.toInt
  | .int64 left, .int64 right => operator.relates left.toInt right.toInt
  | .float32 left, .float32 right =>
      operator.onPatterns .single left.toBits.toNat right.toBits.toNat
  | .float64 left, .float64 right =>
      operator.onPatterns .double left.toBits.toNat right.toBits.toNat
  | .string left, .string right => operator.relates left right
  | .date left, .date right => operator.relates left.dayNumber right.dayNumber
  | .moment left, .moment right =>
      operator.relates [left.universalSecond, (left.fraction.val : Int)]
        [right.universalSecond, (right.fraction.val : Int)]
  | .enumeration leftType left, .enumeration rightType right =>
      if leftType = rightType then operator.relates left.toInt right.toInt else operator = .ne
  | _, _ => operator = .ne

/-- A comparison of two values, unknown beside an absent one. -/
def onOperands (operator : Comparison) : Value → Value → Value
  | .null, _ | _, .null => .null
  | left, right => .bool (operator.onPresent left right)

/-- Equality and inequality beside an absent literal, which test for absence. -/
def onAbsence (operator : Comparison) : Value → Value → Value
  | .null, .null => .bool (operator = .eq)
  | _, _ => .bool (operator = .ne)

end Comparison

/-! ## Arithmetic -/

namespace Arithmetic

/-- The number that an operator makes of two; a quotient is cut toward zero. -/
def number : Arithmetic → Int → Int → Int
  | .add, left, right => left + right
  | .sub, left, right => left - right
  | .mul, left, right => left * right
  | .div, left, right => left.tdiv right
  | .mod, left, right => left - right * left.tdiv right

/-- Arithmetic on whole numbers of a width. A remainder is given together with its quotient,
which has to fit 64 bits. -/
def inWidth
    (operator : Arithmetic)
    (width : Width)
    (left right : Int) : Except Failure Value :=
  if (operator = .div ∨ operator = .mod) ∧ right = 0 then .error .divisionByZero
  else if width.Holds (operator.number left right)
      ∧ (operator = .mod → Width.whole64.Holds (left.tdiv right)) then
    .ok (width.value (operator.number left right))
  else .error (.evaluation (.overflow operator.keyword))

def inFormat
    {α : Type}
    [Add α]
    [Sub α]
    [Mul α]
    [Div α]
    (remainder : α → α → α) : Arithmetic → α → α → α
  | .add, left, right => left + right
  | .sub, left, right => left - right
  | .mul, left, right => left * right
  | .div, left, right => left / right
  | .mod, left, right => remainder left right

/-- Arithmetic on two numbers of one type, absent beside an absent value. -/
def onOperands (operator : Arithmetic) : Value → Value → Except Failure Value
  | .null, _ | _, .null => .ok .null
  | .int32 left, .int32 right => operator.inWidth .whole32 left.toInt right.toInt
  | .int64 left, .int64 right => operator.inWidth .whole64 left.toInt right.toInt
  | .float32 left, .float32 right => .ok (.float32 (operator.inFormat Single.remainder left right))
  | .float64 left, .float64 right => .ok (.float64 (operator.inFormat Double.remainder left right))
  | left, right => .error (.evaluation (.notCalculable operator left right))

end Arithmetic

/-! ## Operators of one operand -/

/-- The opposite of a number, if it has one of its width. -/
def Width.opposite
    (width : Width)
    (number : Int) : Except Failure Value :=
  if width.Holds (-number) then .ok (width.value (-number))
  else .error (.evaluation (.overflow UnaryOperator.negate.keyword))

def UnaryOperator.onOperand : UnaryOperator → Value → Except Failure Value
  | _, .null => .ok .null
  | .not, .bool true => .ok (.bool false)
  | .not, .bool false => .ok (.bool true)
  | .not, operand => .error (.evaluation (.notApplicable UnaryOperator.not.keyword operand))
  | .negate, .int32 number => Width.whole32.opposite number.toInt
  | .negate, .int64 number => Width.whole64.opposite number.toInt
  | .negate, .float32 number => .ok (.float32 (-number))
  | .negate, .float64 number => .ok (.float64 (-number))
  | .negate, operand => .error (.evaluation (.notNegatable operand))

/-! ## Truth values -/

namespace Value

/-- What is known of a truth value; of an absent one nothing is. -/
def known : Value → Except Failure (Option Bool)
  | .bool truth => .ok (some truth)
  | .null => .ok none
  | other => .error (.evaluation (.notTruth other))

def ofKnown : Option Bool → Value
  | some truth => .bool truth
  | none => .null

/-- A truth value as a condition, in which unknown counts as false. -/
def condition : Value → Except Failure Bool
  | .bool truth => .ok truth
  | .null => .ok false
  | other => .error (.evaluation (.notTruth other))

end Value

namespace Connective

/-- The tables of Kleene's strong connectives; none is unknown. -/
def kleene : Connective → Option Bool → Option Bool → Option Bool
  | .and, some false, _ => some false
  | .and, _, some false => some false
  | .and, some true, some true => some true
  | .and, _, _ => none
  | .or, some true, _ => some true
  | .or, _, some true => some true
  | .or, some false, some false => some false
  | .or, _, _ => none

/-- Whether the table has one entry only beside a left operand. -/
def isDecidedBy : Connective → Option Bool → Bool
  | .and, some false => true
  | .or, some true => true
  | _, _ => false

/-- A connective by its table. A right operand that cannot change the outcome is left
alone. -/
def onOutcomes
    (operator : Connective)
    (left right : Except Failure Value) : Except Failure Value := do
  let left ← left
  let left ← left.known
  if operator.isDecidedBy left then pure (Value.ofKnown left)
  else do
    let right ← right
    let right ← right.known
    pure (Value.ofKnown (operator.kleene left right))

end Connective

/-! ## Flags -/

/-- Whether a value has every bit that some flags have. -/
def Value.includesFlags : Value → Value → Value
  | .enumeration _ number, .enumeration _ flags =>
      .bool ((List.range 64).all fun bit =>
        flags.toBitVec.getLsbD bit → number.toBitVec.getLsbD bit)
  | _, _ => .null

/-! ## Members and items -/

namespace Value

/-- A member of a record. One that is missing is absent, and so is that of an absent
record. -/
def readMember
    (name : String) : Value → Except Failure Value
  | .null => .ok .null
  | .record members => .ok ((members.lookup name).getD .null)
  | other => .error (.evaluation (.notReadable name other))

def overItems
    (operation : String)
    (next : List Value → Except Failure Value) : Value → Except Failure Value
  | .null => .ok .null
  | .collection items => next items
  | other => .error (.evaluation (.notApplicable operation other))

def itemCount (count : Nat) : Except Failure Value :=
  if Width.whole64.Holds count then .ok (Width.whole64.value count)
  else .error (.evaluation (.countTooLarge count))

end Value

/-- Whether a condition has come out as it must for a quantifier to go on. -/
def Quantifier.isOpenAfter : Quantifier → Except Failure Bool → Bool
  | .any, .ok held => !held
  | .all, .ok held => held
  | _, .error _ => false

/-- A quantifier over what a condition comes out as for each item. The first that is not as
it must be to go on settles the matter, be it a failure. -/
def Quantifier.onOutcomes
    (quantifier : Quantifier)
    (outcomes : List (Except Failure Bool)) : Except Failure Value :=
  match outcomes.find? (!quantifier.isOpenAfter ·) with
  | some (.ok held) => .ok (.bool held)
  | some (.error failure) => .error failure
  | none => .ok (.bool (quantifier = .all))

/-- The number of items for which a condition holds, of what it comes out as for each. -/
def Value.countOf (outcomes : List (Except Failure Bool)) : Except Failure Value := do
  let held ← Outcome.all outcomes
  itemCount (held.count true)

/-! ## Operands of any types -/

namespace Value

/-- Two numbers in the common type of their types; other values as they are. -/
def inCommonType
    (conversions : ConversionTable)
    (left right : Value) : Value × Value :=
  match left.dataType?, right.dataType? with
  | some leftType, some rightType =>
      if leftType.isNumeric && rightType.isNumeric then
        match conversions.commonType? leftType rightType with
        | some common => (left.convert common, right.convert common)
        | none => (left, right)
      else (left, right)
  | _, _ => (left, right)

/-- What an operand stands for beside a value: a text literal beside an
enumeration for the value that the enumeration gives it, all else for itself. -/
def standsFor
    (catalog : Catalog)
    (beside : Value)
    (literal? : Option String)
    (operand : Value) : Value :=
  match beside, literal? with
  | .enumeration typeName _, some text =>
      match (catalog.enumeration? typeName).bind (·.valueOf? text) with
      | some value => .enumeration typeName value
      | none => operand
  | _, _ => operand

def castTo
    (target : DataType) : Value → Value
  | .null => .null
  | value => value.convert target

end Value

/-- A comparison of two operands, either of which may be a text literal. -/
def Comparison.onValues
    (operator : Comparison)
    (catalog : Catalog)
    (leftLiteral? rightLiteral? : Option String)
    (left right : Value) : Value :=
  let operands := Value.inCommonType catalog.conversions
    (Value.standsFor catalog right leftLiteral? left)
    (Value.standsFor catalog left rightLiteral? right)
  operator.onOperands operands.1 operands.2

def Arithmetic.onValues
    (operator : Arithmetic)
    (catalog : Catalog)
    (left right : Value) : Except Failure Value :=
  let operands := Value.inCommonType catalog.conversions left right
  operator.onOperands operands.1 operands.2

end ClauseBinding
