import ClauseBinding.Clause.Tree
import ClauseBinding.Interchange.Types
import ClauseBinding.Interchange.Values

/-!
Contract: clauses in JSON.

Owns: the names and fields of clause trees, filter clauses and order clauses,
written and decoded.

Does not own: the forms of types and values.
-/

namespace ClauseBinding.Interchange

/-! ## Operators -/

def binaryNames : List (String × BinaryOperator) := [
  ("Eq", .comparison .eq), ("Ne", .comparison .ne), ("Lt", .comparison .lt),
  ("Le", .comparison .le), ("Gt", .comparison .gt), ("Ge", .comparison .ge),
  ("And", .connective .and), ("Or", .connective .or), ("Add", .arithmetic .add),
  ("Sub", .arithmetic .sub), ("Mul", .arithmetic .mul), ("Div", .arithmetic .div),
  ("Mod", .arithmetic .mod), ("Has", .has)]

def unaryNames : List (String × UnaryOperator) := [("Not", .not), ("Negate", .negate)]

def quantifierNames : List (String × Quantifier) := [("Any", .any), ("All", .all)]

def directionNames : List (String × Direction) :=
  [("Ascending", .ascending), ("Descending", .descending)]

def nameJson
    {α : Type}
    [DecidableEq α]
    (names : List (String × α))
    (value : α) : Json :=
  match names.find? (·.2 == value) with
  | some (name, _) => .ofText name
  | none => .null

/-! ## Decoding -/

def filterOf (inner : Decoder Clause) : Decoder FilterClause := fun levels value => do
  let fields ← fields ["expression", "range_variable"] levels value
  let condition ← fields.required "expression" inner
  let rangeVariable ← fields.required "range_variable" string
  pure ⟨condition, rangeVariable⟩

def literal : Decoder Clause := fun levels content => do
  let fields ← fields ["value", "declared_type"] levels content
  let value ← fields.required "value" value
  let type ← fields.required "declared_type" valueType
  pure (.literal value type)

def memberOf (inner : Decoder Clause) : Decoder Clause := fun levels content => do
  let fields ← fields ["source", "member"] levels content
  let source ← fields.required "source" inner
  let name ← fields.required "member" string
  pure (.member source name)

def binaryOf (inner : Decoder Clause) : Decoder Clause := fun levels content => do
  let fields ← fields ["kind", "left", "right"] levels content
  let operator ← fields.required "kind" (named binaryNames)
  let left ← fields.required "left" inner
  let right ← fields.required "right" inner
  pure (.binary operator left right)

def unaryOf (inner : Decoder Clause) : Decoder Clause := fun levels content => do
  let fields ← fields ["kind", "operand"] levels content
  let operator ← fields.required "kind" (named unaryNames)
  let operand ← fields.required "operand" inner
  pure (.unary operator operand)

def callOf (inner : Decoder Clause) : Decoder Clause := fun levels content => do
  let fields ← fields ["name", "args"] levels content
  let name ← fields.required "name" string
  let arguments ← fields.required "args" (list inner)
  pure (.call name arguments)

def castOf (inner : Decoder Clause) : Decoder Clause := fun levels content => do
  let fields ← fields ["target", "operand"] levels content
  let target ← fields.required "target" dataType
  let operand ← fields.required "operand" inner
  pure (.cast target operand)

def quantifiedOf (inner : Decoder Clause) : Decoder Clause := fun levels content => do
  let fields ← fields ["kind", "source", "range_variable", "body"] levels content
  let quantifier ← fields.required "kind" (named quantifierNames)
  let source ← fields.required "source" inner
  let rangeVariable ← fields.required "range_variable" string
  let body ← fields.required "body" inner
  pure (.quantified quantifier source rangeVariable body)

/-- Counts, of all items or of those that a filter accepts. -/
def countOf (inner : Decoder Clause) : Decoder Clause := fun levels content => do
  let fields ← fields ["source", "filter"] levels content
  let source ← fields.required "source" inner
  match ← fields.optional "filter" (filterOf inner) with
  | some filter => pure (.countWhere source filter.rangeVariable filter.condition)
  | none => pure (.count source)

/-- Clause trees, given how the clauses inside them are decoded. -/
def clauseStep (inner : Decoder Clause) : Decoder Clause := fun levels value => do
  let choice ← choice levels value
  match choice.name with
  | "Literal" => choice.holding literal
  | "MemberAccess" => choice.holding (memberOf inner)
  | "RangeVariableRef" => (choice.holding string).map .reference
  | "BinaryOp" => choice.holding (binaryOf inner)
  | "UnaryOp" => choice.holding (unaryOf inner)
  | "FunctionCall" => choice.holding (callOf inner)
  | "Cast" => choice.holding (castOf inner)
  | "CollectionLambda" => choice.holding (quantifiedOf inner)
  | "CollectionCount" => choice.holding (countOf inner)
  | _ => none

def clause : Decoder Clause := recursive clauseStep

def filter : Decoder FilterClause := filterOf clause

def orderTerm : Decoder OrderTerm := fun levels value => do
  let fields ← fields ["expression", "direction"] levels value
  let key ← fields.required "expression" clause
  let direction ← fields.required "direction" (named directionNames)
  pure ⟨key, direction⟩

def order : Decoder OrderClause := fun levels value => do
  let fields ← fields ["terms", "range_variable"] levels value
  let terms ← fields.required "terms" (list orderTerm)
  let rangeVariable ← fields.required "range_variable" string
  pure ⟨terms, rangeVariable⟩

/-! ## Writing -/

def filterMembers
    (condition : Json)
    (rangeVariable : String) : Json :=
  .ofMembers [("expression", condition), ("range_variable", .ofText rangeVariable)]

mutual

def clauseJson : Clause → Json
  | .literal value type =>
      chosen "Literal"
        (.ofMembers [("value", valueJson value), ("declared_type", valueTypeJson type)])
  | .reference name => chosen "RangeVariableRef" (.ofText name)
  | .member source name =>
      chosen "MemberAccess" (.ofMembers [("source", clauseJson source), ("member", .ofText name)])
  | .binary operator left right =>
      chosen "BinaryOp"
        (.ofMembers [
          ("kind", nameJson binaryNames operator),
          ("left", clauseJson left),
          ("right", clauseJson right)])
  | .unary operator operand =>
      chosen "UnaryOp"
        (.ofMembers [("kind", nameJson unaryNames operator), ("operand", clauseJson operand)])
  | .call name arguments =>
      chosen "FunctionCall"
        (.ofMembers [("name", .ofText name), ("args", .array (clauseItems arguments))])
  | .cast target operand =>
      chosen "Cast"
        (.ofMembers [("target", dataTypeJson target), ("operand", clauseJson operand)])
  | .quantified quantifier source rangeVariable body =>
      chosen "CollectionLambda"
        (.ofMembers [
          ("kind", nameJson quantifierNames quantifier),
          ("source", clauseJson source),
          ("range_variable", .ofText rangeVariable),
          ("body", clauseJson body)])
  | .count source =>
      chosen "CollectionCount" (.ofMembers [("source", clauseJson source), ("filter", .null)])
  | .countWhere source rangeVariable condition =>
      chosen "CollectionCount"
        (.ofMembers [
          ("source", clauseJson source),
          ("filter", filterMembers (clauseJson condition) rangeVariable)])
termination_by structural clause => clause

def clauseItems : List Clause → List Json
  | [] => []
  | item :: rest => clauseJson item :: clauseItems rest
termination_by structural items => items

end

def filterJson (filter : FilterClause) : Json :=
  filterMembers (clauseJson filter.condition) filter.rangeVariable

def orderTermJson (term : OrderTerm) : Json :=
  .ofMembers [
    ("expression", clauseJson term.key),
    ("direction", nameJson directionNames term.direction)]

def orderJson (order : OrderClause) : Json :=
  .ofMembers [
    ("terms", .array (order.terms.map orderTermJson)),
    ("range_variable", .ofText order.rangeVariable)]

end ClauseBinding.Interchange
