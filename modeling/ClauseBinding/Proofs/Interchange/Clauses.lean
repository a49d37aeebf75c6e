import ClauseBinding.Interchange.Clauses
import ClauseBinding.Proofs.Clause.Derivation
import ClauseBinding.Proofs.Interchange.Catalogs
import ClauseBinding.Proofs.Interchange.Values

/-!
Contract: clauses are read however they are written.

Owns:
- the values that are literals of a clause;
- the layouts of clauses, and that these are read and have the compact writing of the clause;
- that clauses, types and settings survive being written, in every form of their records.

Does not own: the forms of types, values and settings.
-/

namespace ClauseBinding

namespace Clause

mutual

def literals : Clause → List Value
  | .literal value _ => [value]
  | .reference _ => []
  | .member source _ => source.literals
  | .binary _ left right => left.literals ++ right.literals
  | .unary _ operand => operand.literals
  | .call _ arguments => allLiterals arguments
  | .cast _ operand => operand.literals
  | .quantified _ source _ body => source.literals ++ body.literals
  | .count source => source.literals
  | .countWhere source _ condition => source.literals ++ condition.literals
termination_by structural clause => clause

def allLiterals : List Clause → List Value
  | [] => []
  | first :: rest => first.literals ++ allLiterals rest
termination_by structural clauses => clauses

end

/-- Whether the literals of a clause survive being written. -/
def Exact (clause : Clause) : Prop :=
  ∀ value ∈ clause.literals, value.Exact

private theorem exact_of_allLiterals
    {clauses : List Clause}
    (exact : ∀ value ∈ allLiterals clauses, value.Exact) : ∀ clause ∈ clauses, clause.Exact := by
  induction clauses with
  | nil => exact fun _ absurd => nomatch absurd
  | cons first rest inductionHypothesis =>
      obtain ⟨firstExact, restExact⟩ := List.forall_mem_append.mp exact
      exact List.forall_mem_cons.mpr ⟨firstExact, inductionHypothesis restExact⟩

end Clause

namespace Interchange

/-! ## Layouts -/

def nameLayout
    {α : Type}
    [DecidableEq α]
    (names : List (String × α))
    (value : α) : Layout :=
  match names.find? (·.2 == value) with
  | some (name, _) => .text name
  | none => .null

def conditionLayout
    (condition : Layout)
    (rangeVariable : String) : Layout :=
  .record [("expression", condition), ("range_variable", .text rangeVariable)]

mutual

def clauseLayout : Clause → Layout
  | .literal value type =>
      .table [("Literal",
        .record [("value", valueLayout value), ("declared_type", valueTypeLayout type)])]
  | .reference name => .table [("RangeVariableRef", .text name)]
  | .member source name =>
      .table [("MemberAccess", .record [("source", clauseLayout source), ("member", .text name)])]
  | .binary operator left right =>
      .table [("BinaryOp",
        .record [
          ("kind", nameLayout binaryNames operator),
          ("left", clauseLayout left),
          ("right", clauseLayout right)])]
  | .unary operator operand =>
      .table [("UnaryOp",
        .record [("kind", nameLayout unaryNames operator), ("operand", clauseLayout operand)])]
  | .call name arguments =>
      .table [("FunctionCall",
        .record [("name", .text name), ("args", .list (argumentsLayout arguments))])]
  | .cast target operand =>
      .table [("Cast",
        .record [("target", dataTypeLayout target), ("operand", clauseLayout operand)])]
  | .quantified quantifier source rangeVariable body =>
      .table [("CollectionLambda",
        .record [
          ("kind", nameLayout quantifierNames quantifier),
          ("source", clauseLayout source),
          ("range_variable", .text rangeVariable),
          ("body", clauseLayout body)])]
  | .count source =>
      .table [("CollectionCount", .record [("source", clauseLayout source), ("filter", .null)])]
  | .countWhere source rangeVariable condition =>
      .table [("CollectionCount",
        .record [
          ("source", clauseLayout source),
          ("filter", conditionLayout (clauseLayout condition) rangeVariable)])]
termination_by structural clause => clause

def argumentsLayout : List Clause → List Layout
  | [] => []
  | first :: rest => clauseLayout first :: argumentsLayout rest
termination_by structural clauses => clauses

end

def filterLayout (filter : FilterClause) : Layout :=
  conditionLayout (clauseLayout filter.condition) filter.rangeVariable

def orderTermLayout (term : OrderTerm) : Layout :=
  .record [
    ("expression", clauseLayout term.key),
    ("direction", nameLayout directionNames term.direction)]

def orderLayout (order : OrderClause) : Layout :=
  .record [
    ("terms", .list (order.terms.map orderTermLayout)),
    ("range_variable", .text order.rangeVariable)]

private theorem argumentsLayout_eq_map (clauses : List Clause) :
    argumentsLayout clauses = clauses.map clauseLayout := by
  induction clauses with
  | nil => rfl
  | cons first rest inductionHypothesis =>
      rw [argumentsLayout, inductionHypothesis, List.map_cons]

/-! ## Compact writings -/

private theorem nameLayout_json
    {α : Type}
    [DecidableEq α]
    (names : List (String × α))
    (value : α) : (nameLayout names value).json = nameJson names value := by
  unfold nameLayout nameJson
  cases names.find? (·.2 == value) <;> rfl

private theorem clauseItems_eq_map (clauses : List Clause) :
    clauseItems clauses = clauses.map clauseJson := by
  induction clauses with
  | nil => rfl
  | cons first rest inductionHypothesis => rw [clauseItems, inductionHypothesis, List.map_cons]

theorem clauseLayout_json
    {clause : Clause}
    (exact : clause.Exact) : (clauseLayout clause).json = clauseJson clause := by
  induction clause with
  | literal value type =>
      rw [clauseJson, ← valueLayout_json (exact value (List.mem_singleton_self _)),
        ← valueTypeLayout_json]
      rfl
  | reference name => rfl
  | member source name sourceWritten =>
      rw [clauseJson, ← sourceWritten exact]
      rfl
  | binary operator left right leftWritten rightWritten =>
      obtain ⟨leftExact, rightExact⟩ := List.forall_mem_append.mp exact
      rw [clauseJson, ← nameLayout_json, ← leftWritten leftExact, ← rightWritten rightExact]
      rfl
  | unary operator operand operandWritten =>
      rw [clauseJson, ← nameLayout_json, ← operandWritten exact]
      rfl
  | call name arguments argumentsWritten =>
      have written : (Layout.list (arguments.map clauseLayout)).json
          = .array (arguments.map clauseJson) :=
        Layout.list_map_json fun argument isArgument =>
          argumentsWritten argument isArgument
            (Clause.exact_of_allLiterals exact argument isArgument)
      rw [clauseJson, clauseItems_eq_map, ← written, ← argumentsLayout_eq_map]
      rfl
  | cast target operand operandWritten =>
      rw [clauseJson, ← dataTypeLayout_json, ← operandWritten exact]
      rfl
  | quantified quantifier source name body sourceWritten bodyWritten =>
      obtain ⟨sourceExact, bodyExact⟩ := List.forall_mem_append.mp exact
      rw [clauseJson, ← nameLayout_json, ← sourceWritten sourceExact, ← bodyWritten bodyExact]
      rfl
  | count source sourceWritten =>
      rw [clauseJson, ← sourceWritten exact]
      rfl
  | countWhere source name condition sourceWritten conditionWritten =>
      obtain ⟨sourceExact, conditionExact⟩ := List.forall_mem_append.mp exact
      rw [clauseJson, ← sourceWritten sourceExact, ← conditionWritten conditionExact]
      rfl

theorem filterLayout_json
    {filter : FilterClause}
    (exact : filter.condition.Exact) : (filterLayout filter).json = filterJson filter := by
  rw [filterJson, ← clauseLayout_json exact]
  rfl

private theorem orderTermLayout_json
    {term : OrderTerm}
    (exact : term.key.Exact) : (orderTermLayout term).json = orderTermJson term := by
  rw [orderTermJson, ← clauseLayout_json exact, ← nameLayout_json]
  rfl

theorem orderLayout_json
    {order : OrderClause}
    (exact : ∀ term ∈ order.terms, term.key.Exact) :
    (orderLayout order).json = orderJson order := by
  have terms : (Layout.list (order.terms.map orderTermLayout)).json
      = .array (order.terms.map orderTermJson) :=
    Layout.list_map_json fun term isTerm => orderTermLayout_json (exact term isTerm)
  rw [orderJson, ← terms]
  rfl

/-! ## Reading -/

variable {limit : Nat}

private theorem reads_binaryName (operator : BinaryOperator) :
    Reads limit (named binaryNames) (nameLayout binaryNames operator) operator := by
  cases operator with
  | comparison operator => cases operator <;> exact reads_name rfl
  | connective operator => cases operator <;> exact reads_name rfl
  | arithmetic operator => cases operator <;> exact reads_name rfl
  | has => exact reads_name rfl

private theorem reads_unaryName (operator : UnaryOperator) :
    Reads limit (named unaryNames) (nameLayout unaryNames operator) operator := by
  cases operator <;> exact reads_name rfl

private theorem reads_quantifierName (quantifier : Quantifier) :
    Reads limit (named quantifierNames) (nameLayout quantifierNames quantifier) quantifier := by
  cases quantifier <;> exact reads_name rfl

private theorem reads_directionName (direction : Direction) :
    Reads limit (named directionNames) (nameLayout directionNames direction) direction := by
  cases direction <;> exact reads_name rfl

private theorem reads_literal
    {data : Value}
    (exact : data.Exact)
    (type : ValueType) :
    Reads limit literal
      (.record [("value", valueLayout data), ("declared_type", valueTypeLayout type)])
      (.literal data type) := by
  refine Reads.record rfl (by decide) ?_
  intro fields gives
  rw [gives.required (by simp) (reads_value exact), gives.required (by simp) (reads_valueType type)]
  rfl

section Inner

variable
  {inner : Decoder Clause}
  {source left right operand condition body : Clause}

private theorem reads_filterOf
    (readsCondition : Reads limit inner (clauseLayout condition) condition)
    (rangeVariable : String) :
    Reads limit (filterOf inner) (conditionLayout (clauseLayout condition) rangeVariable)
      ⟨condition, rangeVariable⟩ := by
  refine Reads.record rfl (by decide) ?_
  intro fields gives
  rw [gives.required (by simp) readsCondition,
    gives.required (by simp) (reads_string rangeVariable)]
  rfl

private theorem reads_memberOf
    (readsSource : Reads limit inner (clauseLayout source) source)
    (name : String) :
    Reads limit (memberOf inner) (.record [("source", clauseLayout source), ("member", .text name)])
      (.member source name) := by
  refine Reads.record rfl (by decide) ?_
  intro fields gives
  rw [gives.required (by simp) readsSource, gives.required (by simp) (reads_string name)]
  rfl

private theorem reads_binaryOf
    (readsLeft : Reads limit inner (clauseLayout left) left)
    (readsRight : Reads limit inner (clauseLayout right) right)
    (operator : BinaryOperator) :
    Reads limit (binaryOf inner)
      (.record [
        ("kind", nameLayout binaryNames operator),
        ("left", clauseLayout left),
        ("right", clauseLayout right)])
      (.binary operator left right) := by
  refine Reads.record rfl (by decide) ?_
  intro fields gives
  rw [gives.required (by simp) (reads_binaryName operator), gives.required (by simp) readsLeft,
    gives.required (by simp) readsRight]
  rfl

private theorem reads_unaryOf
    (readsOperand : Reads limit inner (clauseLayout operand) operand)
    (operator : UnaryOperator) :
    Reads limit (unaryOf inner)
      (.record [("kind", nameLayout unaryNames operator), ("operand", clauseLayout operand)])
      (.unary operator operand) := by
  refine Reads.record rfl (by decide) ?_
  intro fields gives
  rw [gives.required (by simp) (reads_unaryName operator), gives.required (by simp) readsOperand]
  rfl

private theorem reads_callOf
    {arguments : List Clause}
    (readsEach : ∀ argument ∈ arguments, Reads limit inner (clauseLayout argument) argument)
    (name : String) :
    Reads limit (callOf inner)
      (.record [("name", .text name), ("args", .list (argumentsLayout arguments))])
      (.call name arguments) := by
  have readsArguments := Reads.list readsEach
  rw [← argumentsLayout_eq_map] at readsArguments
  refine Reads.record rfl (by decide) ?_
  intro fields gives
  rw [gives.required (by simp) (reads_string name), gives.required (by simp) readsArguments]
  rfl

private theorem reads_castOf
    (readsOperand : Reads limit inner (clauseLayout operand) operand)
    (target : DataType) :
    Reads limit (castOf inner)
      (.record [("target", dataTypeLayout target), ("operand", clauseLayout operand)])
      (.cast target operand) := by
  refine Reads.record rfl (by decide) ?_
  intro fields gives
  rw [gives.required (by simp) (reads_dataType target), gives.required (by simp) readsOperand]
  rfl

private theorem reads_quantifiedOf
    (readsSource : Reads limit inner (clauseLayout source) source)
    (readsBody : Reads limit inner (clauseLayout body) body)
    (quantifier : Quantifier)
    (rangeVariable : String) :
    Reads limit (quantifiedOf inner)
      (.record [
        ("kind", nameLayout quantifierNames quantifier),
        ("source", clauseLayout source),
        ("range_variable", .text rangeVariable),
        ("body", clauseLayout body)])
      (.quantified quantifier source rangeVariable body) := by
  refine Reads.record rfl (by decide) ?_
  intro fields gives
  rw [gives.required (by simp) (reads_quantifierName quantifier),
    gives.required (by simp) readsSource,
    gives.required (by simp) (reads_string rangeVariable),
    gives.required (by simp) readsBody]
  rfl

private theorem reads_countOf
    (readsSource : Reads limit inner (clauseLayout source) source) :
    Reads limit (countOf inner) (.record [("source", clauseLayout source), ("filter", .null)])
      (.count source) := by
  refine Reads.record rfl (by decide) ?_
  intro fields gives
  rw [gives.required (by simp) readsSource, gives.optional_of_null (by simp)]
  rfl

private theorem reads_countOf_filter
    (readsSource : Reads limit inner (clauseLayout source) source)
    (readsCondition : Reads limit inner (clauseLayout condition) condition)
    (rangeVariable : String) :
    Reads limit (countOf inner)
      (.record [
        ("source", clauseLayout source),
        ("filter", conditionLayout (clauseLayout condition) rangeVariable)])
      (.countWhere source rangeVariable condition) := by
  have readsFilter := reads_filterOf readsCondition rangeVariable
  refine Reads.record rfl (by decide) ?_
  intro fields gives
  rw [gives.required (by simp) readsSource,
    gives.optional_of_record (List.mem_cons_of_mem _ (List.mem_singleton_self _)) readsFilter]
  rfl

end Inner

private theorem readsUnfolded_clause
    {clause : Clause}
    (exact : clause.Exact) : ReadsUnfolded clauseStep (clauseLayout clause) clause := by
  apply ReadsUnfolded.of_step
  intro times
  induction clause generalizing times with
  | literal value type =>
      exact reads_chosen (reads_literal (exact value (List.mem_singleton_self _)) type)
  | reference name => exact reads_chosen ((reads_string name).map Clause.reference)
  | member source name sourceRead =>
      have readsSource := ReadsUnfolded.of_step (sourceRead exact) times
      exact reads_chosen (reads_memberOf readsSource name)
  | binary operator left right leftRead rightRead =>
      obtain ⟨leftExact, rightExact⟩ := List.forall_mem_append.mp exact
      have readsLeft := ReadsUnfolded.of_step (leftRead leftExact) times
      have readsRight := ReadsUnfolded.of_step (rightRead rightExact) times
      exact reads_chosen (reads_binaryOf readsLeft readsRight operator)
  | unary operator operand operandRead =>
      have readsOperand := ReadsUnfolded.of_step (operandRead exact) times
      exact reads_chosen (reads_unaryOf readsOperand operator)
  | call name arguments argumentsRead =>
      have readsEach : ∀ argument ∈ arguments,
          Reads times (unfolded clauseStep times) (clauseLayout argument) argument :=
        fun argument isArgument => ReadsUnfolded.of_step
          (argumentsRead argument isArgument
            (Clause.exact_of_allLiterals exact argument isArgument)) times
      exact reads_chosen (reads_callOf readsEach name)
  | cast target operand operandRead =>
      have readsOperand := ReadsUnfolded.of_step (operandRead exact) times
      exact reads_chosen (reads_castOf readsOperand target)
  | quantified quantifier source name body sourceRead bodyRead =>
      obtain ⟨sourceExact, bodyExact⟩ := List.forall_mem_append.mp exact
      have readsSource := ReadsUnfolded.of_step (sourceRead sourceExact) times
      have readsBody := ReadsUnfolded.of_step (bodyRead bodyExact) times
      exact reads_chosen (reads_quantifiedOf readsSource readsBody quantifier name)
  | count source sourceRead =>
      have readsSource := ReadsUnfolded.of_step (sourceRead exact) times
      exact reads_chosen (reads_countOf readsSource)
  | countWhere source name condition sourceRead conditionRead =>
      obtain ⟨sourceExact, conditionExact⟩ := List.forall_mem_append.mp exact
      have readsSource := ReadsUnfolded.of_step (sourceRead sourceExact) times
      have readsCondition := ReadsUnfolded.of_step (conditionRead conditionExact) times
      exact reads_chosen (reads_countOf_filter readsSource readsCondition name)

theorem reads_clause
    {tree : Clause}
    (exact : tree.Exact) : Reads limit clause (clauseLayout tree) tree :=
  (readsUnfolded_clause exact).recursive limit

theorem reads_filter
    {data : FilterClause}
    (exact : data.condition.Exact) : Reads limit filter (filterLayout data) data :=
  reads_filterOf (reads_clause exact) data.rangeVariable

private theorem reads_orderTerm
    {term : OrderTerm}
    (exact : term.key.Exact) : Reads limit orderTerm (orderTermLayout term) term := by
  refine Reads.record rfl (by decide) ?_
  intro fields gives
  rw [gives.required (by simp) (reads_clause exact),
    gives.required (by simp) (reads_directionName term.direction)]
  rfl

theorem reads_order
    {data : OrderClause}
    (exact : ∀ term ∈ data.terms, term.key.Exact) : Reads limit order (orderLayout data) data := by
  have readsTerms : Reads limit (list orderTerm) (.list (data.terms.map orderTermLayout))
      data.terms :=
    Reads.list fun term isTerm => reads_orderTerm (exact term isTerm)
  refine Reads.record rfl (by decide) ?_
  intro fields gives
  rw [gives.required (by simp) readsTerms,
    gives.required (by simp) (reads_string data.rangeVariable)]
  rfl

end Interchange

end ClauseBinding
