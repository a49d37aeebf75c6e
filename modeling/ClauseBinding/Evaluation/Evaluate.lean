import ClauseBinding.Evaluation.Arithmetic
import ClauseBinding.Evaluation.Call
import ClauseBinding.Evaluation.Conversion
import ClauseBinding.Expression.Tree

/-!
Contract: the evaluation of typed expressions.

Owns:
- the values bound to parameters;
- the value of each node, the order in which operands are evaluated and what is
  left unevaluated;
- the items of a collection for which a condition holds.

Does not own: operators and functions on values. Recorded types are not looked
at, apart from the target of a conversion.
-/

namespace ClauseBinding

/-- Values bound to parameters, innermost first. -/
abbrev Bindings := List (String × Value)

namespace Bindings

def push
    (bindings : Bindings)
    (name : String)
    (value : Value) : Bindings :=
  (name, value) :: bindings

def pop (bindings : Bindings) : Bindings :=
  bindings.tail

def lookup
    (bindings : Bindings)
    (name : String) : Option Value :=
  Table.find? bindings name

end Bindings

namespace Value

def items
    (operation : String)
    (source : Value) : Except Failure (List Value) :=
  match source with
  | .collection items => .ok items
  | .null => .error (.absentSource operation)
  | other => .error (.evaluation (.notApplicable operation other))

def member
    (name : String)
    (source : Value) : Except Failure Value :=
  match source with
  | .record members => .ok (Record.read members name)
  | .null => .error (.absentSource name)
  | other => .error (.evaluation (.notReadable name other))

def ofCount (count : Nat) : Except Failure Value :=
  if count ≤ Int64.maxValue.toInt.toNat then .ok (.int64 (Int64.ofNat count))
  else .error (.evaluation (.countTooLarge count))

end Value

namespace Quantifier

/-- Whether a condition holds of some item, or of every item. The first item
that settles the matter is the last one looked at. -/
def test
    (quantifier : Quantifier)
    (holds : Value → Except Failure Bool) : List Value → Except Failure Bool
  | [] => .ok (quantifier == .all)
  | item :: rest => do
      let held ← holds item
      if held == (quantifier == .any) then pure held else test quantifier holds rest

end Quantifier

def countHolding
    (holds : Value → Except Failure Bool) : List Value → Except Failure Nat
  | [] => .ok 0
  | item :: rest => do
      let held ← holds item
      let count ← countHolding holds rest
      pure (if held then count + 1 else count)

namespace Expression

mutual

def evaluate : Expression → Bindings → Except Failure Value
  | .constant value _, _ => .ok value
  | .parameter name _, bindings =>
      match bindings.lookup name with
      | some value => .ok value
      | none => .error (.evaluation (.unboundParameter name))
  | .read source member _, bindings => do
      let source ← evaluate source bindings
      source.member member
  | .comparison operator left right _, bindings => do
      let left ← evaluate left bindings
      let right ← evaluate right bindings
      pure (operator.apply left right)
  | .logical operator left right _, bindings => do
      let left ← evaluate left bindings
      let left ← left.truth?
      if left = some operator.deciding then pure (.bool operator.deciding)
      else do
        let right ← evaluate right bindings
        let right ← right.truth?
        pure (Value.ofTruth? (operator.combine left right))
  | .arithmetic operator left right _, bindings => do
      let left ← evaluate left bindings
      let right ← evaluate right bindings
      operator.apply left right
  | .has value flag _, bindings => do
      let value ← evaluate value bindings
      let flag ← evaluate flag bindings
      pure (value.hasFlags flag)
  | .not operand _, bindings => do
      let operand ← evaluate operand bindings
      operand.complement
  | .negate operand _, bindings => do
      let operand ← evaluate operand bindings
      operand.negate
  | .isNull operand negated _, bindings => do
      let operand ← evaluate operand bindings
      pure (.bool (operand.isNull != negated))
  | .coalesce operand fallback _, bindings => do
      let operand ← evaluate operand bindings
      if operand.isNull then evaluate fallback bindings else pure operand
  | .convert operand type, bindings => do
      let operand ← evaluate operand bindings
      pure (operand.convert type.data)
  | .conditional test whenTrue whenFalse _ _, bindings => do
      let test ← evaluate test bindings
      if test.isTrue then evaluate whenTrue bindings else evaluate whenFalse bindings
  | .call function arguments _, bindings => do
      let arguments ← evaluateAll arguments bindings
      if arguments.any Value.isNull then .error (.absentArgument function)
      else function.apply arguments
  | .quantified quantifier source item body _, bindings => do
      let source ← evaluate source bindings
      let items ← source.items quantifier.keyword
      let held ← quantifier.test
        (fun value => do
          let result ← evaluate body (bindings.push item.name value)
          result.truth)
        items
      pure (.bool held)
  | .count source _, bindings => do
      let source ← evaluate source bindings
      let items ← source.items "$count"
      Value.ofCount items.length
  | .countWhere source item condition _, bindings => do
      let source ← evaluate source bindings
      let items ← source.items "$count"
      let count ← countHolding
        (fun value => do
          let result ← evaluate condition (bindings.push item.name value)
          result.truth)
        items
      Value.ofCount count
termination_by structural expression => expression

def evaluateAll : List Expression → Bindings → Except Failure (List Value)
  | [], _ => .ok []
  | first :: rest, bindings => do
      let first ← evaluate first bindings
      let rest ← evaluateAll rest bindings
      pure (first :: rest)
termination_by structural expressions => expressions

end

end Expression

def Lambda.apply
    (lambda : Lambda)
    (argument : Value) : Except Failure Value :=
  lambda.body.evaluate (Bindings.push [] lambda.parameter.name argument)

end ClauseBinding
