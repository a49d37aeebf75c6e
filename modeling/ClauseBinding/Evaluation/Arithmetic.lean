import ClauseBinding.Data.Comparison
import ClauseBinding.Failure

/-!
Contract: operators on values.

Owns:
- arithmetic and negation, which fail on overflow and on division by zero;
- comparisons and flag tests, which are unknown beside an absent value;
- the three truth values of connectives.

Does not own: the evaluation of operands.
-/

namespace ClauseBinding

open ClauseBinding.Number

namespace Arithmetic

/-- The exact result on whole numbers; divisions truncate toward zero. -/
def exact : Arithmetic → Int → Int → Int
  | .add, left, right => left + right
  | .sub, left, right => left - right
  | .mul, left, right => left * right
  | .div, left, right => left.tdiv right
  | .mod, left, right => left.tmod right

/-- The number that has to fit for a result to be given: the result itself, and
for a remainder the quotient that it belongs to. -/
def witness : Arithmetic → Int → Int → Int
  | .mod, left, right => left.tdiv right
  | operator, left, right => operator.exact left right

/-- Whether a divisor is needed and is zero. -/
def dividesByZero
    (operator : Arithmetic)
    (divisor : Int) : Bool :=
  (operator == .div || operator == .mod) && divisor == 0

def onWhole
    (operator : Arithmetic)
    (left right : Int64) : Except Failure Int64 :=
  let witness := operator.witness left.toInt right.toInt
  if operator.dividesByZero right.toInt then .error .divisionByZero
  else if Int64.minValue.toInt ≤ witness ∧ witness ≤ Int64.maxValue.toInt then
    .ok (Int64.ofInt (operator.exact left.toInt right.toInt))
  else .error (.evaluation (.overflow operator.keyword))

def narrow
    (operator : Arithmetic)
    (result : Int64) : Except Failure Int32 :=
  if Int32.minValue.toInt ≤ result.toInt ∧ result.toInt ≤ Int32.maxValue.toInt then
    .ok result.toInt32
  else .error (.evaluation (.overflow operator.keyword))

def onDouble
    (operator : Arithmetic)
    (left right : Float) : Float :=
  match operator with
  | .add => left + right
  | .sub => left - right
  | .mul => left * right
  | .div => left / right
  | .mod => Double.remainder left right

def onSingle
    (operator : Arithmetic)
    (left right : Float32) : Float32 :=
  match operator with
  | .add => left + right
  | .sub => left - right
  | .mul => left * right
  | .div => left / right
  | .mod => Single.remainder left right

/-- Arithmetic on values: absent beside an absent value, else on two numbers of one type. -/
def apply
    (operator : Arithmetic)
    (left right : Value) : Except Failure Value :=
  match left, right with
  | .null, _ => .ok .null
  | _, .null => .ok .null
  | .int32 left, .int32 right => do
      let result ← operator.onWhole left.toInt64 right.toInt64
      let narrowed ← operator.narrow result
      pure (.int32 narrowed)
  | .int64 left, .int64 right => do
      let result ← operator.onWhole left right
      pure (.int64 result)
  | .float32 left, .float32 right => .ok (.float32 (operator.onSingle left right))
  | .float64 left, .float64 right => .ok (.float64 (operator.onDouble left right))
  | left, right => .error (.evaluation (.notCalculable operator left right))

end Arithmetic

namespace Value

/-- Negation of a number; absent for an absent value. -/
def negate : Value → Except Failure Value
  | .null => .ok .null
  | .int32 value =>
      if value = Int32.minValue then .error (.evaluation (.overflow UnaryOperator.negate.keyword))
      else .ok (.int32 (-value))
  | .int64 value =>
      if value = Int64.minValue then .error (.evaluation (.overflow UnaryOperator.negate.keyword))
      else .ok (.int64 (-value))
  | .float32 value => .ok (.float32 (-value))
  | .float64 value => .ok (.float64 (-value))
  | value => .error (.evaluation (.notNegatable value))

/-- Negation of a truth value; unknown stays unknown. -/
def complement : Value → Except Failure Value
  | .null => .ok .null
  | .bool value => .ok (.bool !value)
  | value => .error (.evaluation (.notApplicable UnaryOperator.not.keyword value))

def truth? : Value → Except Failure (Option Bool)
  | .bool value => .ok (some value)
  | .null => .ok none
  | value => .error (.evaluation (.notTruth value))

/-- A truth value, unknown counting as false. -/
def truth (value : Value) : Except Failure Bool := do
  let known ← value.truth?
  pure (known.getD false)

def ofTruth? : Option Bool → Value
  | some value => .bool value
  | none => .null

/-- Whether all flags of the second value are set in the first; unknown unless
both hold whole numbers. -/
def hasFlags
    (value flags : Value) : Value :=
  match value.toInt64?, flags.toInt64? with
  | some value, some flags => .bool (value &&& flags == flags)
  | _, _ => .null

end Value

namespace Comparison

/-- A comparison of values: unknown beside an absent value. Values without an
order are unequal, and nothing else holds of them. -/
def apply
    (operator : Comparison)
    (left right : Value) : Value :=
  if left.isNull || right.isNull then .null
  else
    match left.compare? right with
    | some ordering => .bool (operator.holds ordering)
    | none => .bool (operator == .ne)

end Comparison

namespace Connective

/-- The result of a connective whose left operand did not decide it. -/
def combine
    (operator : Connective)
    (left right : Option Bool) : Option Bool :=
  if right = some operator.deciding then some operator.deciding
  else if left.isSome && right.isSome then some (!operator.deciding)
  else none

end Connective

end ClauseBinding
