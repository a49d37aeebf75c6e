import ClauseBinding.Binding.Overload
import ClauseBinding.Proofs.Meaning.Functions

/-!
Contract: the meaning of clauses, read off the trees without binding them.

Owns:
- environments of range variables, and the types that clauses declare in them;
- calls, by the overload for the types of the arguments;
- the meaning of a clause and of a filter.

Does not own: operators and functions on values, or the proof that bound clauses have this
meaning.

What a clause declares is the type of its literals, variables and members, carried up the
tree. Values alone decide what operators do. The declared types tell what items a variable
ranges over, and which arguments of a call are looked at first: of several arguments that
fail or are absent the first to be looked at settles the call, and those are looked at first
that are declared to be absent possibly.
-/

namespace ClauseBinding

/-! ## Literals -/

namespace Clause

/-- Whether a clause is the absent literal, or a cast of it. -/
def isNullLiteral : Clause → Bool
  | .literal .null _ => true
  | .cast _ operand => isNullLiteral operand
  | _ => false

def textLiteral? : Clause → Option String
  | .literal (.string text) _ => some text
  | _ => none

end Clause

/-! ## Environments -/

/-- A range variable, with the type of what it ranges over and the value that it has. -/
structure RangeVariable where
  name : String
  type : ValueType
  value : Value

/-- Range variables, innermost first. -/
abbrev Environment := List RangeVariable

def Environment.innermost?
    (environment : Environment)
    (name : String) : Option RangeVariable :=
  environment.find? (·.name == name)

/-! ## Declared types -/

/-- The type of a member. That of something that may be absent may be so too. -/
def ValueType.ofMember
    (catalog : Catalog)
    (name : String)
    (source : ValueType) : ValueType :=
  match source.data with
  | .structured typeName =>
      match catalog.member? typeName name with
      | some definition => ⟨definition.data, definition.nullable || source.nullable⟩
      | none => .null
  | _ => .null

def ValueType.ofItem (source : ValueType) : ValueType :=
  source.data.element?.getD .null

def ValueType.ofNumbers
    (conversions : ConversionTable)
    (left right : ValueType) : ValueType :=
  let data :=
    if left.data = .null then right.data
    else if right.data = .null then left.data
    else (conversions.commonType? left.data right.data).getD .null
  ⟨data, left.nullable || right.nullable⟩

def ValueType.ofCall
    (conversions : ConversionTable)
    (name : String)
    (arguments : List ValueType) : ValueType :=
  match Signature.resolve conversions name arguments with
  | .ok (_, signature) => ⟨signature.result, arguments.any (·.nullable)⟩
  | .error _ => .null

namespace Clause

/-- Whether an operand may be absent beside another. A text that names a member of the
enumeration beside it is not. -/
def mayBeAbsent
    (operand : Clause)
    (type beside : ValueType) : Bool :=
  type.nullable && !(operand.textLiteral?.isSome && beside.data.isEnumeration)

mutual

/-- The type that a clause declares in an environment. -/
def declared
    (catalog : Catalog) : Clause → Environment → ValueType
  | .literal _ type, _ => type
  | .reference name, environment =>
      match environment.innermost? name with
      | some bound => bound.type
      | none => .null
  | .member source name, environment =>
      (declared catalog source environment).ofMember catalog name
  | .binary (.comparison operator) left right, environment =>
      let leftType := declared catalog left environment
      let rightType := declared catalog right environment
      if !operator.needsOrder && (left.isNullLiteral || right.isNullLiteral) then .required .bool
      else ⟨.bool, left.mayBeAbsent leftType rightType || right.mayBeAbsent rightType leftType⟩
  | .binary (.connective _) left right, environment =>
      ⟨.bool, (declared catalog left environment).nullable
        || (declared catalog right environment).nullable⟩
  | .binary (.arithmetic _) left right, environment =>
      (declared catalog left environment).ofNumbers catalog.conversions
        (declared catalog right environment)
  | .binary .has left right, environment =>
      let leftType := declared catalog left environment
      ⟨.bool, leftType.nullable
        || right.mayBeAbsent (declared catalog right environment) leftType⟩
  | .unary .not operand, environment => ⟨.bool, (declared catalog operand environment).nullable⟩
  | .unary .negate operand, environment => declared catalog operand environment
  | .call name arguments, environment =>
      .ofCall catalog.conversions name (allDeclared catalog arguments environment)
  | .cast target _, _ => .optional target
  | .quantified _ source _ _, environment =>
      ⟨.bool, (declared catalog source environment).nullable⟩
  | .count source, environment => ⟨.int64, (declared catalog source environment).nullable⟩
  | .countWhere source _ _, environment =>
      ⟨.int64, (declared catalog source environment).nullable⟩
termination_by structural clause => clause

def allDeclared
    (catalog : Catalog) : List Clause → Environment → List ValueType
  | [], _ => []
  | first :: rest, environment =>
      declared catalog first environment :: allDeclared catalog rest environment
termination_by structural clauses => clauses

end

end Clause

/-! ## Calls -/

/-- The function of a name on present values, by the overload for the types that
the values show. -/
def Function.onValues
    (catalog : Catalog)
    (name : String)
    (values : List Value) : Except Failure Value :=
  match values.mapM Value.dataType? with
  | some types => do
      let (function, signature) ←
        Signature.resolve catalog.conversions name (types.map ValueType.required)
      function.onPresent (values.zipWith Value.convert signature.parameters)
  | none => .error (.typeMismatch name [])

def Outcome.isPresent : Except Failure Value → Bool
  | .ok .null => false
  | .ok _ => true
  | .error _ => false

/-- A call on what its arguments come out as, of which some are looked at first. The first
that is no present value settles the call: it is absent, or fails, as the argument. -/
def Function.onOutcomes
    (catalog : Catalog)
    (name : String)
    (first outcomes : List (Except Failure Value)) : Except Failure Value :=
  match (first ++ outcomes).find? (!Outcome.isPresent ·) with
  | some settled => settled
  | none => do
      let values ← Outcome.all outcomes
      Function.onValues catalog name values

/-! ## Clauses -/

namespace Clause

mutual

/-- The meaning of a clause in an environment. Operands are taken from left to right. A
counted condition sees no range variable but its own. -/
def meaning
    (catalog : Catalog) : Clause → Environment → Except Failure Value
  | .literal value _, _ => .ok value
  | .reference name, environment =>
      match environment.innermost? name with
      | some bound => .ok bound.value
      | none => .error (.unboundVariable name)
  | .member source name, environment => do
      let source ← meaning catalog source environment
      source.readMember name
  | .binary (.comparison operator) left right, environment => do
      let leftValue ← meaning catalog left environment
      let rightValue ← meaning catalog right environment
      if !operator.needsOrder && (left.isNullLiteral || right.isNullLiteral) then
        pure (operator.onAbsence leftValue rightValue)
      else
        pure (operator.onValues catalog left.textLiteral? right.textLiteral? leftValue rightValue)
  | .binary (.connective operator) left right, environment =>
      operator.onOutcomes (meaning catalog left environment) (meaning catalog right environment)
  | .binary (.arithmetic operator) left right, environment => do
      let left ← meaning catalog left environment
      let right ← meaning catalog right environment
      operator.onValues catalog left right
  | .binary .has left right, environment => do
      let leftValue ← meaning catalog left environment
      let rightValue ← meaning catalog right environment
      pure (leftValue.includesFlags
        (Value.standsFor catalog leftValue right.textLiteral? rightValue))
  | .unary operator operand, environment => do
      let operand ← meaning catalog operand environment
      operator.onOperand operand
  | .call name arguments, environment =>
      let types := allDeclared catalog arguments environment
      let outcomes := meanings catalog arguments environment
      let first := ((types.zip outcomes).filter (·.1.nullable)).map Prod.snd
      Function.onOutcomes catalog name first outcomes
  | .cast target operand, environment => do
      let operand ← meaning catalog operand environment
      pure (operand.castTo target)
  | .quantified quantifier source name body, environment => do
      let item := (source.declared catalog environment).ofItem
      let source ← meaning catalog source environment
      source.overItems quantifier.keyword fun items =>
        quantifier.onOutcomes (items.map fun value => do
          let result ← meaning catalog body (⟨name, item, value⟩ :: environment)
          result.condition)
  | .count source, environment => do
      let source ← meaning catalog source environment
      source.overItems "$count" fun items => Value.itemCount items.length
  | .countWhere source name condition, environment => do
      let item := (source.declared catalog environment).ofItem
      let source ← meaning catalog source environment
      source.overItems "$count" fun items =>
        Value.countOf (items.map fun value => do
          let result ← meaning catalog condition [⟨name, item, value⟩]
          result.condition)
termination_by structural clause => clause

def meanings
    (catalog : Catalog) : List Clause → Environment → List (Except Failure Value)
  | [], _ => []
  | first :: rest, environment =>
      meaning catalog first environment :: meanings catalog rest environment
termination_by structural clauses => clauses

end

end Clause

/-- The meaning of a filter for an element: that of its condition, with the element for the
range variable. -/
def FilterClause.meaning
    (filter : FilterClause)
    (catalog : Catalog)
    (elementType : DataType)
    (element : Value) : Except Failure Bool := do
  let result ←
    filter.condition.meaning catalog [⟨filter.rangeVariable, .required elementType, element⟩]
  result.condition

end ClauseBinding
