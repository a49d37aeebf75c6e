import ClauseBinding.Failure
import ClauseBinding.Schema.Conversion

/-!
Contract: the choice of an overload for the types of some arguments.

Owns: exact and promoted matching, and their order.

Does not own: the overloads, or the promotion of arguments.
-/

namespace ClauseBinding.Signature

/-- Whether the arguments have exactly the types of the parameters. -/
def isExactFor
    (signature : Signature)
    (arguments : List ValueType) : Bool :=
  signature.parameters == arguments.map ValueType.data

/-- Whether an argument can stand for a parameter: a literal null can stand for
any, others for what they promote to. -/
def acceptsArgument
    (conversions : ConversionTable)
    (parameter : DataType)
    (argument : ValueType) : Bool :=
  argument.isNull || conversions.canPromote argument.data parameter

def accepts
    (conversions : ConversionTable)
    (signature : Signature)
    (arguments : List ValueType) : Bool :=
  signature.parameters.length == arguments.length
    && (signature.parameters.zip arguments).all fun (parameter, argument) =>
      acceptsArgument conversions parameter argument

/-- The function of a name and the overload for some arguments: one with exactly
their types, else the first that accepts them. -/
def resolve
    (conversions : ConversionTable)
    (name : String)
    (arguments : List ValueType) : Except Failure (Function × Signature) :=
  match Function.ofName? name with
  | none => .error (.unknownFunction name)
  | some function =>
      match function.signatures.find? (·.isExactFor arguments) with
      | some signature => .ok (function, signature)
      | none =>
          match function.signatures.find? (accepts conversions · arguments) with
          | some signature => .ok (function, signature)
          | none => .error (.typeMismatch name arguments)

end ClauseBinding.Signature
