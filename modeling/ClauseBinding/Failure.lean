import ClauseBinding.Clause.Operator
import ClauseBinding.Data.Message
import ClauseBinding.Expression.Function
import ClauseBinding.Schema.Definition

/-!
Contract: why binding, evaluation or registration fails.

Owns:
- the causes, with what they are about;
- the text of each cause.

Does not own: when a cause arises.
-/

namespace ClauseBinding

/-- Why an evaluation fails, apart from absent values and division by zero. -/
inductive EvaluationFault where
  | unboundParameter (name : String)
  | notReadable (member : String) (source : Value)
  | notApplicable (operation : String) (operand : Value)
  | notTruth (value : Value)
  | notCalculable (operator : Arithmetic) (left right : Value)
  | notNegatable (operand : Value)
  | overflow (operation : String)
  | countTooLarge (count : Nat)
  | lengthTooLarge (length : Nat)
  | notAccepted (function : Function) (arguments : List Value)

inductive Failure where
  | missingClause
  | missingContext
  | unboundVariable (name : String)
  | unknownMember (typeName member : String)
  | unknownFunction (name : String)
  | typeMismatch (operation : String) (operands : List ValueType)
  | invalidCast (source target : DataType)
  | filterNotTruth (actual : ValueType)
  | tooDeep (limit : UInt64)
  | schema (fault : SchemaFault)
  | unreadableCatalog
  | unreadableConfiguration
  | absentSource (operation : String)
  | absentArgument (function : Function)
  | divisionByZero
  | evaluation (fault : EvaluationFault)

namespace SchemaFault

def message : SchemaFault → String
  | .nameTaken name => "Type '" ++ name ++ "' already exists"
  | .emptyMemberName => "Member name cannot be empty"
  | .noMembers typeName => "Type '" ++ typeName ++ "' must have at least one member"
  | .repeatedMember member => "Duplicate member name '" ++ member ++ "'"
  | .unknownKey key typeName => "Key member '" ++ key ++ "' not found in type '" ++ typeName ++ "'"
  | .optionalKey key => "Key member '" ++ key ++ "' must not be nullable"
  | .noEnumerationMembers typeName => "Enum '" ++ typeName ++ "' must have at least one member"
  | .repeatedEnumerationMember member typeName =>
      "Duplicate enum member '" ++ member ++ "' in '" ++ typeName ++ "'"

end SchemaFault

namespace EvaluationFault

def message : EvaluationFault → String
  | .unboundParameter name => "Unbound parameter '" ++ name ++ "'"
  | .notReadable member source =>
      "Cannot read member '" ++ member ++ "' of " ++ source.messageText
  | .notApplicable operation operand =>
      "Cannot apply '" ++ operation ++ "' to " ++ operand.messageText
  | .notTruth value => "Expected a boolean, got " ++ value.messageText
  | .notCalculable operator left right =>
      "Cannot apply '" ++ operator.keyword ++ "' to " ++ left.messageText ++ " and "
        ++ right.messageText
  | .notNegatable operand => "Cannot negate " ++ operand.messageText
  | .overflow operation => "Arithmetic overflow in '" ++ operation ++ "'"
  | .countTooLarge count => "Count " ++ toString count ++ " out of range"
  | .lengthTooLarge length => "Value " ++ toString length ++ " out of range for Int32"
  | .notAccepted function arguments =>
      "Invalid arguments for '" ++ function.name ++ "': " ++ Value.listText arguments

end EvaluationFault

namespace Failure

def message : Failure → String
  | .missingClause => "Missing clause: a filter or order-by clause is required"
  | .missingContext => "Missing context: a binder context is required"
  | .unboundVariable name => "Unbound variable: " ++ name
  | .unknownMember typeName member =>
      "Unknown member '" ++ member ++ "' on type '" ++ typeName ++ "'"
  | .unknownFunction name => "Unknown function: " ++ name
  | .typeMismatch operation operands =>
      "Type mismatch: cannot apply '" ++ operation ++ "' to ("
        ++ ", ".intercalate (operands.map ValueType.name) ++ ")"
  | .invalidCast source target => "Invalid cast from " ++ source.name ++ " to " ++ target.name
  | .filterNotTruth actual =>
      "Filter type mismatch: expected " ++ DataType.bool.name ++ ", got " ++ actual.name
  | .tooDeep limit => "Recursion limit exceeded: nesting deeper than " ++ toString limit
  | .schema fault => "Schema error: " ++ fault.message
  | .unreadableCatalog => "Catalog error: the bytes hold no catalog"
  | .unreadableConfiguration => "Config error: the text holds no configuration"
  | .absentSource operation => "Null dereference reading member '" ++ operation ++ "'"
  | .absentArgument function => "Null argument passed to '" ++ function.name ++ "'"
  | .divisionByZero => "Division by zero"
  | .evaluation fault => "Evaluation error: " ++ fault.message

end Failure

end ClauseBinding
