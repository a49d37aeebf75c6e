import ClauseBinding.Proofs.Clause.Condition
import ClauseBinding.Proofs.Meaning.Operators
import ClauseBinding.Proofs.Soundness.Clause

/-!
Contract: negations of connectives, and of negations.

Owns:
- the connective that negation makes of another one, and its table;
- operands that stand for truth values, bound and promoted;
- that negation moves inwards, and that two negations cancel, for filters on conforming
  elements.

Does not own: the operands.

Negation moves inwards past a right operand that is not looked at, because what decides a
connective decides its dual negated. Unknown is the negation of unknown, so it has to survive
every node: were it folded to false inside, one of the two sides would have it as true.
-/

namespace ClauseBinding

open ClauseBinding.Outcome

/-! ## Truth values -/

namespace Value

@[simp] theorem truth?_ofTruth? (known : Option Bool) : (ofTruth? known).truth? = .ok known := by
  cases known <;> rfl

@[simp] theorem complement_ofTruth? (known : Option Bool) :
    (ofTruth? known).complement = .ok (ofTruth? (known.map not)) := by
  cases known <;> rfl

end Value

/-- Truth values, known or not, are all that an outcome has for a value. -/
def Outcome.OfTruth (outcome : Except Failure Value) : Prop :=
  ∀ value, outcome = .ok value → ∃ known, value = .ofTruth? known

/-- Two negations cancel. -/
theorem Outcome.OfTruth.complement_complement
    {outcome : Except Failure Value}
    (truth : OfTruth outcome) :
    outcome >>= Value.complement >>= Value.complement = outcome := by
  cases outcome with
  | error failure => rfl
  | ok value =>
      obtain ⟨known, rfl⟩ := truth value rfl
      cases known <;> simp

namespace Connective

/-- The connective of the negated operands. -/
def dual : Connective → Connective
  | .and => .or
  | .or => .and

variable (operator : Connective)

@[simp] theorem deciding_dual : operator.dual.deciding = !operator.deciding := by
  cases operator <;> rfl

private theorem kleene_dual (left right : Option Bool) :
    operator.dual.kleene (left.map not) (right.map not) =
      (operator.kleene left right).map not := by
  cases operator <;> rcases left with _ | _ | _ <;> rcases right with _ | _ | _ <;> rfl

/-- The negated operand decides the dual where the operand decides the connective. -/
theorem map_not_eq_deciding (known : Option Bool) :
    known.map not = some operator.dual.deciding ↔ known = some operator.deciding := by
  cases operator <;> rcases known with _ | _ | _ <;> decide

/-- Negation moves inwards. The right operand is left alone on both sides or on neither, so
failures are the same. -/
theorem complement_onOutcomes
    {left right : Except Failure Value}
    (leftTruth : OfTruth left)
    (rightTruth : OfTruth right) :
    operator.onOutcomes left right >>= Value.complement =
      operator.dual.onOutcomes (left >>= Value.complement) (right >>= Value.complement) := by
  rw [onOutcomes_eq, onOutcomes_eq, bind_assoc, bind_assoc]
  apply bind_congr_of_ok
  intro leftValue leftIs
  obtain ⟨leftKnown, rfl⟩ := leftTruth leftValue leftIs
  simp only [Value.truth?_ofTruth?, Value.complement_ofTruth?, ok_bind, map_not_eq_deciding]
  split
  case isTrue => simp [Value.complement]
  case isFalse =>
    simp only [bind_assoc]
    apply bind_congr_of_ok
    intro rightValue rightIs
    obtain ⟨rightKnown, rfl⟩ := rightTruth rightValue rightIs
    simp only [Value.truth?_ofTruth?, Value.complement_ofTruth?, ok_bind, pure_eq_ok, kleene_dual]

end Connective

namespace Expression

variable {left right operand : Expression} {bindings : Bindings}

private theorem evaluate_negation :
    (negation operand).guardNulls.evaluate bindings =
      operand.guardNulls.evaluate bindings >>= Value.complement :=
  rfl

/-- Negation moves inwards in guarded expressions, as guarding passes through operators. -/
theorem evaluate_negation_connect
    {operator : Connective}
    (leftTruth : OfTruth (left.guardNulls.evaluate bindings))
    (rightTruth : OfTruth (right.guardNulls.evaluate bindings)) :
    (negation (connect operator left right)).guardNulls.evaluate bindings =
      (connect operator.dual (negation left) (negation right)).guardNulls.evaluate bindings := by
  rw [evaluate_negation, evaluate_connect, evaluate_connect, evaluate_negation, evaluate_negation,
    operator.complement_onOutcomes leftTruth rightTruth]

end Expression

/-! ## Operands -/

namespace Clause

variable {catalog : Catalog} {scope : List Parameter} {clause left right : Clause}
variable {expression : Expression}

/-- What a clause becomes as the operand of a connective or a negation: what it is bound to,
promoted to a truth value. -/
inductive BindsTruth
    (catalog : Catalog)
    (scope : List Parameter)
    (clause : Clause) : Expression → Prop where
  | promoted {expression : Expression}
      (binds : Binds catalog scope clause expression)
      (truthLike : expression.isTruthLike = true) :
      BindsTruth catalog scope clause (expression.promote .bool)

namespace BindsTruth

variable {operand : Expression}

private theorem of_truth
    (binds : Binds catalog scope clause expression)
    (isTruth : expression.data = .bool) : BindsTruth catalog scope clause expression := by
  have promoted := BindsTruth.promoted binds (Expression.isTruthLike_of_truth isTruth)
  rwa [Expression.promote_of_truth isTruth] at promoted

theorem data (binds : BindsTruth catalog scope clause operand) : operand.data = .bool := by
  cases binds with
  | @promoted expression _ _ =>
      unfold Expression.promote
      split
      case isTrue isTruth => exact isTruth
      case isFalse => split <;> rfl

theorem sound
    (conservative : catalog.conversions.Conservative)
    (literals : clause.LiteralsConform catalog)
    (binds : BindsTruth catalog scope clause operand) :
    Expression.Sound catalog scope operand := by
  cases binds with
  | promoted binds truthLike =>
      exact (binds.sound conservative literals).promote conservative
        (Expression.isTruthLike_accepts truthLike)

/-- Operands have truth values on conforming data. -/
theorem ofTruth
    {bindings : Bindings}
    (conservative : catalog.conversions.Conservative)
    (literals : clause.LiteralsConform catalog)
    (binds : BindsTruth catalog scope clause operand)
    (conform : Bindings.Conform catalog scope bindings) :
    OfTruth (operand.guardNulls.evaluate bindings) := by
  intro value isValue
  have conforms := ((binds.sound conservative literals).conforms bindings conform).of_ok isValue
  rcases conforms.bool_cases binds.data with ⟨rfl, -⟩ | ⟨known, rfl⟩
  · exact ⟨none, rfl⟩
  · exact ⟨some known, rfl⟩

end BindsTruth

/-- A connective is bound to the connective of its operands. -/
theorem binds_connective_iff {operator : Connective} :
    Binds catalog scope (.binary (.connective operator) left right) expression ↔
      ∃ leftOperand rightOperand, BindsTruth catalog scope left leftOperand
        ∧ BindsTruth catalog scope right rightOperand
        ∧ expression = .connect operator leftOperand rightOperand := by
  constructor
  · intro binds
    cases binds with
    | binary leftBinds rightBinds bound =>
        cases Expression.binaryRule_of_bind bound with
        | connected leftTruth rightTruth =>
            exact ⟨_, _, .promoted leftBinds leftTruth, .promoted rightBinds rightTruth, rfl⟩
  · rintro ⟨_, _, ⟨leftBinds, leftTruthLike⟩, ⟨rightBinds, rightTruthLike⟩, rfl⟩
    apply Binds.binary leftBinds rightBinds
    simp only [Expression.bindBinary, Expression.bindConnective, leftTruthLike, rightTruthLike,
      Bool.and_self, if_true]

/-- A negation is bound to the negation of its operand. -/
theorem binds_not_iff :
    Binds catalog scope (.unary .not clause) expression ↔
      ∃ operand, BindsTruth catalog scope clause operand ∧ expression = .negation operand := by
  constructor
  · intro binds
    cases binds with
    | unary operandBinds bound =>
        cases Expression.unaryRule_of_bind bound with
        | not truthLike => exact ⟨_, .promoted operandBinds truthLike, rfl⟩
  · rintro ⟨_, ⟨operandBinds, truthLike⟩, rfl⟩
    apply Binds.unary operandBinds
    simp only [Expression.bindUnary, truthLike, if_true]

/-- A connective is a truth value, which needs no promotion. -/
theorem bindsTruth_connective_iff {operator : Connective} :
    BindsTruth catalog scope (.binary (.connective operator) left right) expression ↔
      ∃ leftOperand rightOperand, BindsTruth catalog scope left leftOperand
        ∧ BindsTruth catalog scope right rightOperand
        ∧ expression = .connect operator leftOperand rightOperand := by
  constructor
  · rintro ⟨binds, _⟩
    obtain ⟨leftOperand, rightOperand, leftBinds, rightBinds, rfl⟩ := binds_connective_iff.mp binds
    exact ⟨leftOperand, rightOperand, leftBinds, rightBinds, Expression.promote_of_truth rfl⟩
  · rintro ⟨leftOperand, rightOperand, leftBinds, rightBinds, rfl⟩
    exact .of_truth (binds_connective_iff.mpr ⟨_, _, leftBinds, rightBinds, rfl⟩) rfl

/-- A negation is a truth value as well. -/
theorem bindsTruth_not_iff :
    BindsTruth catalog scope (.unary .not clause) expression ↔
      ∃ operand, BindsTruth catalog scope clause operand ∧ expression = .negation operand := by
  constructor
  · rintro ⟨binds, _⟩
    obtain ⟨operand, operandBinds, rfl⟩ := binds_not_iff.mp binds
    exact ⟨operand, operandBinds, Expression.promote_of_truth operandBinds.data⟩
  · rintro ⟨operand, operandBinds, rfl⟩
    exact .of_truth (binds_not_iff.mpr ⟨_, operandBinds, rfl⟩) operandBinds.data

end Clause

/-! ## Filters -/

namespace FilterClause

def negating
    (operator : Connective)
    (left right : Clause)
    (rangeVariable : String) : FilterClause :=
  ⟨.unary .not (.binary (.connective operator) left right), rangeVariable⟩

def connectingNegated
    (operator : Connective)
    (left right : Clause)
    (rangeVariable : String) : FilterClause :=
  ⟨.binary (.connective operator) (.unary .not left) (.unary .not right), rangeVariable⟩

def negatingTwice
    (clause : Clause)
    (rangeVariable : String) : FilterClause :=
  ⟨.unary .not (.unary .not clause), rangeVariable⟩

variable {operator : Connective} {left right : Clause} {rangeVariable : String}

/-- Both sides of the law are bound to the same operands, and to one type. -/
theorem bindsIn_negating_iff {context : Context} :
    BindsIn (negating operator left right rangeVariable) context ↔
      BindsIn (connectingNegated operator.dual left right rangeVariable) context := by
  constructor
  · intro bound
    apply bound.alike
    · simp only [Clause.need]
      omega
    · intro expression binds
      obtain ⟨_, connected, rfl⟩ := Clause.binds_not_iff.mp binds
      obtain ⟨leftOperand, rightOperand, leftBinds, rightBinds, rfl⟩ :=
        Clause.bindsTruth_connective_iff.mp connected
      have leftNegated := Clause.bindsTruth_not_iff.mpr ⟨leftOperand, leftBinds, rfl⟩
      have rightNegated := Clause.bindsTruth_not_iff.mpr ⟨rightOperand, rightBinds, rfl⟩
      exact ⟨_, Clause.binds_connective_iff.mpr ⟨_, _, leftNegated, rightNegated, rfl⟩, rfl⟩
  · intro bound
    apply bound.alike
    · simp only [Clause.need]
      omega
    · intro expression binds
      obtain ⟨_, _, leftNegated, rightNegated, rfl⟩ := Clause.binds_connective_iff.mp binds
      obtain ⟨leftOperand, leftBinds, rfl⟩ := Clause.bindsTruth_not_iff.mp leftNegated
      obtain ⟨rightOperand, rightBinds, rfl⟩ := Clause.bindsTruth_not_iff.mp rightNegated
      have connected : Clause.BindsTruth _ _ (.binary (.connective operator) left right) _ :=
        Clause.bindsTruth_connective_iff.mpr ⟨_, _, leftBinds, rightBinds, rfl⟩
      exact ⟨_, Clause.binds_not_iff.mpr ⟨_, connected, rfl⟩, rfl⟩

variable {catalog : Catalog} {elementType : DataType} {configuration : Configuration}
variable {value : Value}

private theorem accepts_negating
    {negated connected : Predicate}
    (conservative : catalog.conversions.Conservative)
    (leftLiterals : left.LiteralsConform catalog)
    (rightLiterals : right.LiteralsConform catalog)
    (negatedBound : (negating operator left right rangeVariable).bindIn
      (.start catalog elementType configuration) = .ok negated)
    (connectedBound : (connectingNegated operator.dual left right rangeVariable).bindIn
      (.start catalog elementType configuration) = .ok connected)
    (conforms : value.Conforms catalog (.required elementType)) :
    negated.accepts value = connected.accepts value := by
  have conform : Bindings.Conform catalog [⟨rangeVariable, .required elementType⟩]
      (Bindings.push [] rangeVariable value) :=
    (Bindings.Conform.of_empty []).push conforms
  obtain ⟨_, negatedBinds, _⟩ := bindIn_eq_ok negatedBound
  obtain ⟨_, inside, rfl⟩ := Clause.binds_not_iff.mp negatedBinds
  obtain ⟨leftOperand, rightOperand, leftBinds, rightBinds, rfl⟩ :=
    Clause.bindsTruth_connective_iff.mp inside
  have leftNegated := Clause.bindsTruth_not_iff.mpr ⟨leftOperand, leftBinds, rfl⟩
  have rightNegated := Clause.bindsTruth_not_iff.mpr ⟨rightOperand, rightBinds, rfl⟩
  have connectedBinds : Clause.Binds _ _
      (.binary (.connective operator.dual) (.unary .not left) (.unary .not right)) _ :=
    Clause.binds_connective_iff.mpr ⟨_, _, leftNegated, rightNegated, rfl⟩
  rw [(accepts_of_binds negatedBound negatedBinds).2 value,
    (accepts_of_binds connectedBound connectedBinds).2 value]
  have leftTruth := leftBinds.ofTruth conservative leftLiterals conform
  have rightTruth := rightBinds.ofTruth conservative rightLiterals conform
  exact congrArg (· >>= Value.truth) (Expression.evaluate_negation_connect leftTruth rightTruth)

private theorem accepts_negatingTwice
    {plain twice : Predicate}
    (conservative : catalog.conversions.Conservative)
    (leftLiterals : left.LiteralsConform catalog)
    (plainBound :
      bindIn ⟨left, rangeVariable⟩ (.start catalog elementType configuration) = .ok plain)
    (twiceBound : (negatingTwice left rangeVariable).bindIn
      (.start catalog elementType configuration) = .ok twice)
    (conforms : value.Conforms catalog (.required elementType)) :
    twice.accepts value = plain.accepts value := by
  have conform : Bindings.Conform catalog [⟨rangeVariable, .required elementType⟩]
      (Bindings.push [] rangeVariable value) :=
    (Bindings.Conform.of_empty []).push conforms
  obtain ⟨condition, binds, _, isTruth⟩ := bindIn_eq_ok plainBound
  have operandBinds := Clause.BindsTruth.of_truth binds (binds.data_of_truth isTruth)
  have negated := Clause.bindsTruth_not_iff.mpr ⟨_, operandBinds, rfl⟩
  have twiceBinds : Clause.Binds _ _ (.unary .not (.unary .not left)) _ :=
    Clause.binds_not_iff.mpr ⟨_, negated, rfl⟩
  rw [(accepts_of_binds twiceBound twiceBinds).2 value,
    (accepts_of_binds plainBound binds).2 value]
  have cancelled := (operandBinds.ofTruth conservative leftLiterals conform).complement_complement
  exact congrArg (· >>= Value.truth) cancelled

/-- De Morgan's laws and double negation. A negated connective is bound where the dual of the
negated operands is, at any depth, and the two do the same with every conforming element,
failures included; so do a condition and the condition negated twice. -/
theorem negation_laws
    (conservative : catalog.conversions.Conservative)
    (leftLiterals : left.LiteralsConform catalog)
    (rightLiterals : right.LiteralsConform catalog) :
    (∀ operator : Connective,
        (BindsIn (negating operator left right rangeVariable)
            (.start catalog elementType configuration) ↔
          BindsIn (connectingNegated operator.dual left right rangeVariable)
            (.start catalog elementType configuration))
        ∧ ∀ negated connected,
          (negating operator left right rangeVariable).bindIn
            (.start catalog elementType configuration) = .ok negated →
          (connectingNegated operator.dual left right rangeVariable).bindIn
            (.start catalog elementType configuration) = .ok connected →
            ∀ value : Value, value.Conforms catalog (.required elementType) →
              negated.accepts value = connected.accepts value)
      ∧ ∀ plain twice,
        bindIn ⟨left, rangeVariable⟩ (.start catalog elementType configuration) = .ok plain →
        (negatingTwice left rangeVariable).bindIn
          (.start catalog elementType configuration) = .ok twice →
          ∀ value : Value, value.Conforms catalog (.required elementType) →
            twice.accepts value = plain.accepts value := by
  refine ⟨fun operator => ⟨bindsIn_negating_iff, ?answers⟩, ?twice⟩
  case answers =>
    intro negated connected negatedBound connectedBound value conforms
    exact accepts_negating conservative leftLiterals rightLiterals negatedBound connectedBound
      conforms
  case twice =>
    intro plain twice plainBound twiceBound value conforms
    exact accepts_negatingTwice conservative leftLiterals plainBound twiceBound conforms

def withoutPrice : Clause :=
  .binary (.comparison .eq) (.member (.reference "item") "price") (.literal .null .null)

/-- Where twice the price is too large a number, the laws hold of the failure. -/
theorem negation_laws_pairOverTen :
    productCatalog.conversions.Conservative
      ∧ pairOverTen.condition.LiteralsConform productCatalog
      ∧ withoutPrice.LiteralsConform productCatalog
      ∧ (Value.record [("price", .int32 Int32.maxValue)]).Conforms productCatalog
        (.required (.structured "Product"))
      ∧ ∃ negated connected plain twice,
        (negating .and pairOverTen.condition withoutPrice "item").bindIn
            (.start productCatalog (.structured "Product") {}) = .ok negated
          ∧ (connectingNegated .or pairOverTen.condition withoutPrice "item").bindIn
            (.start productCatalog (.structured "Product") {}) = .ok connected
          ∧ bindIn ⟨pairOverTen.condition, "item"⟩
            (.start productCatalog (.structured "Product") {}) = .ok plain
          ∧ (negatingTwice pairOverTen.condition "item").bindIn
            (.start productCatalog (.structured "Product") {}) = .ok twice
          ∧ negated.accepts (.record [("price", .int32 Int32.maxValue)]) =
            connected.accepts (.record [("price", .int32 Int32.maxValue)])
          ∧ negated.accepts (.record [("price", .int32 Int32.maxValue)]) =
            .error (.evaluation (.overflow "add"))
          ∧ twice.accepts (.record [("price", .int32 Int32.maxValue)]) =
            plain.accepts (.record [("price", .int32 Int32.maxValue)]) := by
  have conservative : productCatalog.conversions.Conservative :=
    ConversionTable.standard_conservative
  have withoutPriceLiterals : withoutPrice.LiteralsConform productCatalog := ⟨trivial, .absent⟩
  have conforms : (Value.record [("price", .int32 Int32.maxValue)]).Conforms productCatalog
      (.required (.structured "Product")) := product_conforms (.single rfl)
  obtain ⟨laws, cancels⟩ := @negation_laws pairOverTen.condition withoutPrice "item" productCatalog
    (.structured "Product") {} conservative pairOverTen_literals withoutPriceLiterals
  refine ⟨conservative, pairOverTen_literals, withoutPriceLiterals, conforms, _, _, _, _,
    rfl, rfl, rfl, rfl, ?_, rfl, ?_⟩
  · exact (laws .and).2 _ _ rfl rfl _ conforms
  · exact cancels _ _ rfl rfl _ conforms

end FilterClause

end ClauseBinding
