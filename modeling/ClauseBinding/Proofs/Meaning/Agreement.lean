import ClauseBinding.Evaluation.Rows
import ClauseBinding.Proofs.Meaning.Call
import ClauseBinding.Proofs.Meaning.Collections
import ClauseBinding.Proofs.Meaning.Declared

/-!
Contract: bound clauses compute their meaning.

Owns:
- that a bound clause comes out as the clause does in an environment that agrees with its
  bindings;
- that a predicate decides an element, or fails, as the meaning of the filter does.

Does not own: the meaning, operators on values, or the soundness of bound clauses.
-/

namespace ClauseBinding

open ClauseBinding.Outcome

variable {catalog : Catalog} {scope : List Parameter} {bindings : Bindings}
  {environment : Environment}

namespace Clause

/-! ## Operators and calls -/

private theorem binary_evaluates
    {operator : BinaryOperator}
    {left right : Clause}
    {boundLeft boundRight expression : Expression}
    (conservative : catalog.conversions.Conservative)
    (leftBinds : Binds catalog scope left boundLeft)
    (rightBinds : Binds catalog scope right boundRight)
    (bound : Expression.bindBinary catalog operator boundLeft boundRight = .ok expression)
    (leftLiterals : left.LiteralsConform catalog)
    (rightLiterals : right.LiteralsConform catalog)
    (conform : Bindings.Conform catalog scope bindings)
    (leftEvaluates : boundLeft.guardNulls.evaluate bindings = left.meaning catalog environment)
    (rightEvaluates : boundRight.guardNulls.evaluate bindings =
      right.meaning catalog environment) :
    expression.guardNulls.evaluate bindings =
      (binary operator left right).meaning catalog environment := by
  have leftSound := leftBinds.sound conservative leftLiterals
  have rightSound := rightBinds.sound conservative rightLiterals
  cases operator with
  | comparison operator =>
      rw [Expression.bindComparison_evaluate conservative leftSound rightSound bound conform,
        leftEvaluates, rightEvaluates, leftBinds.literals.1, leftBinds.literals.2,
        rightBinds.literals.1, rightBinds.literals.2, meaning]
      apply bind_congr_of_ok
      intro leftValue _
      apply bind_congr_of_ok
      intro rightValue _
      split <;> rfl
  | connective operator =>
      rw [Expression.bindConnective_evaluate leftSound rightSound bound conform, leftEvaluates,
        rightEvaluates, meaning]
  | arithmetic operator =>
      rw [Expression.bindArithmetic_evaluate conservative leftSound rightSound bound conform,
        leftEvaluates, rightEvaluates, meaning]
  | has =>
      rw [Expression.bindHas_evaluate leftSound rightSound bound conform, leftEvaluates,
        rightEvaluates, rightBinds.literals.2, meaning]
      rfl

private theorem meanings_eq_map
    (clauses : List Clause)
    (environment : Environment) :
    meanings catalog clauses environment = clauses.map (·.meaning catalog environment) := by
  induction clauses with
  | nil => rfl
  | cons first rest inductionHypothesis => rw [meanings, inductionHypothesis, List.map_cons]

/-- The arguments that are declared to be absent possibly are those that the guard of a call
looks at. -/
private theorem call_evaluates
    {name : String}
    {arguments : List Clause}
    {boundArguments : List Expression}
    {expression : Expression}
    (conservative : catalog.conversions.Conservative)
    (sound : ∀ argument ∈ boundArguments, Expression.Sound catalog scope argument)
    (bound : Expression.bindCall catalog name boundArguments = .ok expression)
    (conform : Bindings.Conform catalog scope bindings)
    (types : allDeclared catalog arguments environment = boundArguments.map Expression.type)
    (outcomes : meanings catalog arguments environment =
      boundArguments.map (·.guardNulls.evaluate bindings)) :
    expression.guardNulls.evaluate bindings =
      (call name arguments).meaning catalog environment := by
  rw [Expression.bindCall_evaluate conservative sound bound conform, meaning]
  simp only [types, outcomes, List.zip_map', List.filter_map, List.map_map]
  rfl

/-! ## Clauses -/

/-- A bound clause comes out as its meaning, in any environment that agrees with the bindings
on the scope. Both are general, as bodies see one more variable, and as a counted condition
forgets all but its own in the environment only. -/
theorem Binds.evaluates
    {clause : Clause}
    {expression : Expression}
    (conservative : catalog.conversions.Conservative)
    (binds : Binds catalog scope clause expression)
    (literals : clause.LiteralsConform catalog)
    (conform : Bindings.Conform catalog scope bindings)
    (agrees : environment.Agrees scope bindings) :
    expression.guardNulls.evaluate bindings = clause.meaning catalog environment := by
  induction binds generalizing environment bindings with
  | literal value type => rfl
  | @reference scope name parameter found =>
      obtain ⟨innermost, isInnermost, _, isBound⟩ := agrees name parameter found
      simp only [meaning, isInnermost, Expression.guardNulls, Expression.evaluate, isBound]
  | member sourceBinds bound sourceEvaluates =>
      have sound := sourceBinds.sound conservative literals
      obtain ⟨_, _, _, _, rfl⟩ := Expression.bindMember_eq_ok bound
      rw [sound.evaluate_read _ conform, sourceEvaluates literals conform agrees, meaning]
  | binary leftBinds rightBinds bound leftEvaluates rightEvaluates =>
      exact binary_evaluates conservative leftBinds rightBinds bound literals.1 literals.2 conform
        (leftEvaluates literals.1 conform agrees) (rightEvaluates literals.2 conform agrees)
  | unary operandBinds bound operandEvaluates =>
      have sound := operandBinds.sound conservative literals
      rw [Expression.bindUnary_evaluate sound bound conform,
        operandEvaluates literals conform agrees, meaning]
  | @call scope name arguments boundArguments expression paired argumentsBind bound
      argumentsEvaluate =>
      have each := AllLiteralsConform.each literals
      apply call_evaluates conservative _ bound conform
      case types =>
        rw [allDeclared_eq_map]
        apply map_eq_of_paired paired
        intro argument boundArgument isPaired
        exact ((argumentsBind argument boundArgument isPaired).type_eq_declared conservative
          (each argument (List.of_mem_zip isPaired).1) agrees).symm
      case outcomes =>
        rw [meanings_eq_map]
        apply map_eq_of_paired paired
        intro argument boundArgument isPaired
        exact (argumentsEvaluate argument boundArgument isPaired
          (each argument (List.of_mem_zip isPaired).1) conform agrees).symm
      intro boundArgument isBound
      obtain ⟨argument, isArgument, isPaired⟩ := exists_paired paired isBound
      exact (argumentsBind argument boundArgument isPaired).sound conservative
        (each argument isArgument)
  | cast operandBinds bound operandEvaluates =>
      rw [Expression.bindCast_evaluate bound, operandEvaluates literals conform agrees, meaning]
      rfl
  | @quantified scope quantifier source body name item boundSource boundBody expression
      sourceBinds collected bodyBinds bound sourceEvaluates bodyEvaluates =>
      have sound := sourceBinds.sound conservative literals.1
      have bodySound := bodyBinds.sound conservative literals.2
      obtain ⟨truthLike, rfl⟩ := Expression.bindQuantified_eq_ok bound
      rw [sound.evaluate_quantified quantifier collected bodySound truthLike conform
        fun value conforms => bodyEvaluates literals.2 (conform.push conforms)
          (agrees.push ⟨name, item⟩ value), sourceEvaluates literals.1 conform agrees, meaning,
        sourceBinds.ofItem_declared conservative literals.1 agrees collected]
  | count sourceBinds collected sourceEvaluates =>
      have sound := sourceBinds.sound conservative literals
      rw [sound.evaluate_count collected conform, sourceEvaluates literals conform agrees, meaning]
  | @countWhere scope source condition name item boundSource boundCondition sourceBinds collected
      conditionBinds isTruth sourceEvaluates conditionEvaluates =>
      have sound := sourceBinds.sound conservative literals.1
      -- The bindings keep the outer variables, which the scope of the condition hides.
      have empty : Bindings.Conform catalog [] bindings := .of_empty bindings
      have emptyAgrees : Environment.Agrees [] bindings [] := .of_empty bindings []
      rw [sound.evaluate_countWhere collected conform
        fun value conforms => conditionEvaluates literals.2 (empty.push conforms)
          (emptyAgrees.push ⟨name, item⟩ value), sourceEvaluates literals.1 conform agrees,
        meaning, sourceBinds.ofItem_declared conservative literals.1 agrees collected]

end Clause

/-! ## Filters -/

/-- Of what can only be a truth value or a failure nothing is lost where it counts as a
condition. -/
private theorem Value.map_truth
    {outcome : Except Failure Value}
    (decides : Meets (fun value => ∃ known, value = .bool known) outcome) :
    outcome = (outcome >>= Value.truth).map Value.bool := by
  cases outcome with
  | error failure => rfl
  | ok value =>
      obtain ⟨known, rfl⟩ := decides
      rfl

namespace FilterClause

/-- A filter that binds in a fresh context has a predicate that decides each conforming
element as the filter means it: it comes out true or false where the meaning does, and fails
where the meaning does and as it does. -/
theorem predicate_computes_meaning
    {filter : FilterClause}
    {elementType : DataType}
    {configuration : Configuration}
    {predicate : Predicate}
    {value : Value}
    (conservative : catalog.conversions.Conservative)
    (literals : filter.condition.LiteralsConform catalog)
    (bound : filter.bindIn (.start catalog elementType configuration) = .ok predicate)
    (conforms : value.Conforms catalog (.required elementType)) :
    predicate.lambda.apply value = (filter.meaning catalog elementType value).map Value.bool := by
  obtain ⟨condition, binds, isGuarded, isTruth⟩ := bindIn_eq_ok bound
  let item : Parameter := ⟨filter.rangeVariable, .required elementType⟩
  have sound := binds.sound conservative literals
  have conform : Bindings.Conform catalog [item] (Bindings.push [] item.name value) :=
    (Bindings.Conform.of_empty []).push conforms
  have agrees : Environment.Agrees [item] (Bindings.push [] item.name value)
      [⟨item.name, item.type, value⟩] :=
    (Environment.Agrees.of_empty [] []).push item value
  have decides := sound.guardCondition isTruth conform
  rw [Lambda.apply, isGuarded, Value.map_truth decides, Expression.guardCondition,
    Expression.truth_unknownToFalse, binds.evaluates conservative literals conform agrees]
  exact congrArg (fun use => Except.map Value.bool (_ >>= use)) (funext Value.truth_eq_condition)

/-- Baskets, with the prices of their items, some of them missing. -/
def basketCatalog : Catalog where
  types := [("Basket", ⟨"Basket",
    [⟨"prices", .collection .int32 true, false⟩, ⟨"owner", .string, true⟩], []⟩)]
  enumerations := []
  conversions := .standard

/-- Baskets with no price above ten, of owners whose names begin with an A. -/
def modestBasket : FilterClause where
  condition :=
    .binary (.connective .and)
      (.unary .not
        (.quantified .any (.member (.reference "basket") "prices") "price"
          (.binary (.comparison .gt) (.reference "price")
            (.literal (.int64 10) (.required .int64)))))
      (.call "startswith"
        [.member (.reference "basket") "owner", .literal (.string "A") (.required .string)])
  rangeVariable := "basket"

/-- A basket of two items, of which one has no price. -/
def adasBasket : Value :=
  .record [("prices", .collection [.int32 7, .null]), ("owner", .string "Ada")]

private theorem adasBasket_conforms :
    adasBasket.Conforms basketCatalog (.required (.structured "Basket")) := by
  apply Value.Conforms.record
  intro member definition declared
  by_cases isPrices : member = "prices"
  · subst isPrices
    obtain rfl := Option.some.inj declared
    apply Value.Conforms.collection (by decide)
    intro price isPrice
    simp only [List.mem_cons, List.not_mem_nil, or_false] at isPrice
    rcases isPrice with rfl | rfl
    · exact .single rfl
    · exact .absent
  · by_cases isOwner : member = "owner"
    · subst isOwner
      obtain rfl := Option.some.inj declared
      exact .single rfl
    · simp [Catalog.member?, Catalog.type?, basketCatalog, Table.find?, StructuredType.member?,
        Ne.symm isPrices, Ne.symm isOwner] at declared

/-- A missing price is not above ten. -/
theorem predicate_computes_meaning_modestBasket :
    basketCatalog.conversions.Conservative
      ∧ modestBasket.condition.LiteralsConform basketCatalog
      ∧ adasBasket.Conforms basketCatalog (.required (.structured "Basket"))
      ∧ ∃ predicate,
        modestBasket.bindIn (.start basketCatalog (.structured "Basket") {}) = .ok predicate
          ∧ predicate.lambda.apply adasBasket = .ok (.bool true) := by
  have conservative : basketCatalog.conversions.Conservative :=
    ConversionTable.standard_conservative
  have literals : modestBasket.condition.LiteralsConform basketCatalog :=
    ⟨⟨trivial, trivial, .single rfl⟩, trivial, .single rfl, trivial⟩
  obtain ⟨predicate, bound⟩ : ∃ predicate,
      modestBasket.bindIn (.start basketCatalog (.structured "Basket") {}) = .ok predicate :=
    ⟨_, rfl⟩
  have means : modestBasket.meaning basketCatalog (.structured "Basket") adasBasket = .ok true :=
    rfl
  have decides := predicate_computes_meaning conservative literals bound adasBasket_conforms
  rw [means] at decides
  exact ⟨conservative, literals, adasBasket_conforms, predicate, bound, decides⟩

end FilterClause

end ClauseBinding
