import ClauseBinding.Proofs.Absence.Value
import ClauseBinding.Proofs.Evaluation.Operations
import ClauseBinding.Proofs.Soundness.Guard

/-!
Contract: evaluation does not tell absent members from missing ones.

Owns:
- failures of one kind, which differ at most in the values they tell of;
- outcomes that are alike: related values, or failures of one kind;
- that operations and functions are alike on null-equivalent values;
- that an expression has null-equivalent values, or fails alike, under bindings to
  null-equivalent values.

Does not own: predicates and selectors.

Only reads, conversions and the items of collections hand on anything of a record or a
collection. Everything else looks at single values, and treats all records alike.
-/

namespace ClauseBinding

open ClauseBinding.Outcome

/-! ## Outcomes -/

/-- A fault, without the values that it tells of. -/
def EvaluationFault.kind : EvaluationFault → EvaluationFault
  | .notReadable member _ => .notReadable member .null
  | .notApplicable operation _ => .notApplicable operation .null
  | .notTruth _ => .notTruth .null
  | .notCalculable operator _ _ => .notCalculable operator .null .null
  | .notNegatable _ => .notNegatable .null
  | .notAccepted function _ => .notAccepted function []
  | fault => fault

/-- A failure, without the values that it tells of. -/
def Failure.kind : Failure → Failure
  | .evaluation fault => .evaluation fault.kind
  | failure => failure

/-- Outcomes that have related values, or fail with failures of one kind. -/
inductive Outcome.Alike {α β : Type} (related : α → β → Prop) :
    Except Failure α → Except Failure β → Prop where
  | ok {left : α} {right : β} (values : related left right) : Alike related (.ok left) (.ok right)
  | error {left right : Failure} (sameKind : left.kind = right.kind) :
      Alike related (.error left) (.error right)

namespace Outcome.Alike

variable {α β γ δ : Type} {related : α → β → Prop}

private theorem of_eq
    {related : α → α → Prop}
    (reflexive : ∀ value, related value value)
    (outcome : Except Failure α) : Alike related outcome outcome := by
  cases outcome with
  | ok value => exact .ok (reflexive value)
  | error failure => exact .error rfl

theorem exists_ok
    {left : Except Failure α}
    {right : Except Failure β}
    {leftValue : α}
    (alike : Alike related left right)
    (isLeft : left = .ok leftValue) :
    ∃ rightValue, right = .ok rightValue ∧ related leftValue rightValue := by
  cases alike with
  | ok values =>
      obtain rfl := Except.ok.inj isLeft
      exact ⟨_, rfl, values⟩
  | error => cases isLeft

theorem bind
    {left : Except Failure α}
    {right : Except Failure β}
    {leftNext : α → Except Failure γ}
    {rightNext : β → Except Failure δ}
    {relatedNext : γ → δ → Prop}
    (first : Alike related left right)
    (rest : ∀ leftValue rightValue, related leftValue rightValue →
      Alike relatedNext (leftNext leftValue) (rightNext rightValue)) :
    Alike relatedNext (left >>= leftNext) (right >>= rightNext) := by
  cases first with
  | ok values => exact rest _ _ values
  | error sameKind => exact .error sameKind

variable {leftHolds rightHolds : Value → Except Failure Bool}
variable {alike : Value → Value → Prop} {leftItems rightItems : List Value}

theorem test
    (quantifier : Quantifier)
    (each : ∀ left right, alike left right → Alike Eq (leftHolds left) (rightHolds right))
    (items : List.Forall₂ alike leftItems rightItems) :
    Alike Eq (quantifier.test leftHolds leftItems) (quantifier.test rightHolds rightItems) := by
  induction items with
  | nil => exact .ok rfl
  | cons itemsAlike _ inductionHypothesis =>
      apply (each _ _ itemsAlike).bind
      rintro held _ rfl
      split
      · exact .ok rfl
      · exact inductionHypothesis

theorem countHolding
    (each : ∀ left right, alike left right → Alike Eq (leftHolds left) (rightHolds right))
    (items : List.Forall₂ alike leftItems rightItems) :
    Alike Eq (ClauseBinding.countHolding leftHolds leftItems)
      (ClauseBinding.countHolding rightHolds rightItems) := by
  induction items with
  | nil => exact .ok rfl
  | cons itemsAlike _ inductionHypothesis =>
      apply (each _ _ itemsAlike).bind
      rintro held _ rfl
      apply inductionHypothesis.bind
      rintro count _ rfl
      exact .ok rfl

theorem all
    {left : List (Except Failure α)}
    {right : List (Except Failure β)}
    (each : List.Forall₂ (Alike related) left right) :
    Alike (List.Forall₂ related) (Outcome.all left) (Outcome.all right) := by
  induction each with
  | nil => exact .ok .nil
  | cons firstAlike _ inductionHypothesis =>
      apply firstAlike.bind
      intro leftValue rightValue values
      apply inductionHypothesis.bind
      intro leftValues rightValues others
      exact .ok (.cons values others)

end Outcome.Alike

/-! ## Operations -/

namespace Value.NullEquivalent

variable {left right otherLeft otherRight : Value}

/-- Values on which something is calculated are null-equivalent only if they are the same. -/
theorem eq_or_structured (equivalent : NullEquivalent left right) :
    left = right ∨ left.IsStructured ∧ right.IsStructured := by
  cases equivalent.readAlike with
  | same => exact .inl rfl
  | record => exact .inr ⟨trivial, trivial⟩
  | collection => exact .inr ⟨trivial, trivial⟩

theorem isNull (equivalent : NullEquivalent left right) : left.isNull = right.isNull := by
  cases equivalent.readAlike <;> rfl

theorem isTrue (equivalent : NullEquivalent left right) : left.isTrue = right.isTrue := by
  cases equivalent.readAlike <;> rfl

theorem toInt64? (equivalent : NullEquivalent left right) : left.toInt64? = right.toInt64? := by
  cases equivalent.readAlike <;> rfl

theorem member
    (equivalent : NullEquivalent left right)
    (name : String) : Alike NullEquivalent (left.member name) (right.member name) := by
  cases equivalent.readAlike with
  | same value => exact .of_eq .refl _
  | record reads => exact .ok (reads name)
  | collection => exact .error rfl

theorem items
    (equivalent : NullEquivalent left right)
    (operation : String) :
    Alike (List.Forall₂ NullEquivalent) (left.items operation) (right.items operation) := by
  cases equivalent.readAlike with
  | same value => exact .of_eq (fun items => List.forall₂_same.mpr fun item _ => .refl item) _
  | record => exact .error rfl
  | collection items => exact .ok items

theorem truth? (equivalent : NullEquivalent left right) : Alike Eq left.truth? right.truth? := by
  cases equivalent.readAlike with
  | same value => exact .of_eq (fun _ => rfl) _
  | record | collection => exact .error rfl

theorem truth (equivalent : NullEquivalent left right) : Alike Eq left.truth right.truth := by
  apply equivalent.truth?.bind
  rintro known _ rfl
  exact .ok rfl

theorem complement (equivalent : NullEquivalent left right) :
    Alike NullEquivalent left.complement right.complement := by
  cases equivalent.readAlike with
  | same value => exact .of_eq .refl _
  | record | collection => exact .error rfl

theorem negate (equivalent : NullEquivalent left right) :
    Alike NullEquivalent left.negate right.negate := by
  cases equivalent.readAlike with
  | same value => exact .of_eq .refl _
  | record | collection => exact .error rfl

/-- Records and collections are kept or become absent, whatever they hold. -/
theorem convert
    (equivalent : NullEquivalent left right)
    (target : DataType) : NullEquivalent (left.convert target) (right.convert target) := by
  cases equivalent.readAlike with
  | same value => exact .refl _
  | record =>
      cases target with
      | structured => exact equivalent
      | _ => exact .refl _
  | collection =>
      cases target with
      | collection => exact equivalent
      | _ => exact .refl _

/-- Two operands are the same on both sides, or something is structured on both. -/
theorem pair_eq_or_structured
    (lefts : NullEquivalent left otherLeft)
    (rights : NullEquivalent right otherRight) :
    (left = otherLeft ∧ right = otherRight)
      ∨ (left.IsStructured ∨ right.IsStructured)
        ∧ (otherLeft.IsStructured ∨ otherRight.IsStructured) := by
  rcases lefts.eq_or_structured with leftSame | ⟨leftStructured, otherStructured⟩
  · rcases rights.eq_or_structured with rightSame | ⟨rightStructured, otherStructured⟩
    · exact .inl ⟨leftSame, rightSame⟩
    · exact .inr ⟨.inr rightStructured, .inr otherStructured⟩
  · exact .inr ⟨.inl leftStructured, .inl otherStructured⟩

theorem compare?
    (lefts : NullEquivalent left otherLeft)
    (rights : NullEquivalent right otherRight) :
    left.compare? right = otherLeft.compare? otherRight := by
  rcases lefts.pair_eq_or_structured rights with ⟨rfl, rfl⟩ | ⟨structured, otherStructured⟩
  · rfl
  · rw [compare?_of_structured structured, compare?_of_structured otherStructured]

theorem comparison
    (lefts : NullEquivalent left otherLeft)
    (rights : NullEquivalent right otherRight)
    (operator : Comparison) :
    operator.apply left right = operator.apply otherLeft otherRight := by
  rw [Comparison.apply, Comparison.apply, lefts.isNull, rights.isNull, lefts.compare? rights]

theorem hasFlags
    (lefts : NullEquivalent left otherLeft)
    (rights : NullEquivalent right otherRight) :
    left.hasFlags right = otherLeft.hasFlags otherRight := by
  rw [Value.hasFlags, Value.hasFlags, lefts.toInt64?, rights.toInt64?]

theorem arithmetic
    (lefts : NullEquivalent left otherLeft)
    (rights : NullEquivalent right otherRight)
    (operator : Arithmetic) :
    Alike NullEquivalent (operator.apply left right) (operator.apply otherLeft otherRight) := by
  rcases lefts.pair_eq_or_structured rights with ⟨rfl, rfl⟩ | ⟨structured, otherStructured⟩
  · exact .of_eq .refl _
  · rw [operator.apply_of_structured structured, operator.apply_of_structured otherStructured,
      lefts.isNull, rights.isNull]
    split
    · exact .ok (.refl _)
    · exact .error rfl

end Value.NullEquivalent

/-! ## Functions -/

namespace Function

variable {left right : List Value}

private theorem arguments_eq_or_structured
    (arguments : List.Forall₂ Value.NullEquivalent left right) :
    left = right
      ∨ (∃ argument ∈ left, argument.IsStructured) ∧ ∃ argument ∈ right, argument.IsStructured := by
  induction arguments with
  | nil => exact .inl rfl
  | @cons leftFirst rightFirst leftRest rightRest first _ inductionHypothesis =>
      rcases first.eq_or_structured with rfl | ⟨leftStructured, rightStructured⟩
      · rcases inductionHypothesis with rfl | ⟨leftStructured, rightStructured⟩
        · exact .inl rfl
        · exact .inr ⟨leftStructured.imp fun _ => .imp_left (List.mem_cons_of_mem _),
            rightStructured.imp fun _ => .imp_left (List.mem_cons_of_mem _)⟩
      · exact .inr ⟨⟨_, List.mem_cons_self, leftStructured⟩,
          ⟨_, List.mem_cons_self, rightStructured⟩⟩

theorem apply_alike
    (function : Function)
    (arguments : List.Forall₂ Value.NullEquivalent left right) :
    Alike Value.NullEquivalent (function.apply left) (function.apply right) := by
  rcases arguments_eq_or_structured arguments with rfl | ⟨leftStructured, rightStructured⟩
  · exact .of_eq .refl _
  · rw [function.apply_of_structured leftStructured, function.apply_of_structured rightStructured]
    exact .error rfl

private theorem any_isNull
    (arguments : List.Forall₂ Value.NullEquivalent left right) :
    left.any Value.isNull = right.any Value.isNull := by
  induction arguments with
  | nil => rfl
  | cons first _ inductionHypothesis =>
      rw [List.any_cons, List.any_cons, first.isNull, inductionHypothesis]

end Function

/-! ## Expressions -/

namespace Bindings

/-- Bindings of the same names to null-equivalent values. -/
def NullEquivalent (left right : Bindings) : Prop :=
  ∀ name, Option.Rel Value.NullEquivalent (left.lookup name) (right.lookup name)

theorem NullEquivalent.refl (bindings : Bindings) : NullEquivalent bindings bindings := by
  intro name
  cases bindings.lookup name with
  | none => exact .none
  | some value => exact .some (.refl value)

theorem NullEquivalent.push
    {left right : Bindings}
    {leftValue rightValue : Value}
    (equivalent : NullEquivalent left right)
    (name : String)
    (values : Value.NullEquivalent leftValue rightValue) :
    NullEquivalent (left.push name leftValue) (right.push name rightValue) := by
  intro other
  by_cases same : name = other
  · simpa [lookup, Bindings.push, Table.find?, same] using Option.Rel.some values
  · simpa [lookup, Bindings.push, Table.find?, same] using equivalent other

end Bindings

namespace Expression

/-- Under bindings to null-equivalent values an expression has null-equivalent values, or
fails alike. -/
def EvaluatesAlike (expression : Expression) : Prop :=
  ∀ ⦃left right : Bindings⦄, left.NullEquivalent right →
    Alike Value.NullEquivalent (expression.evaluate left) (expression.evaluate right)

namespace EvaluatesAlike

variable {source first second body : Expression} {type : ValueType} {item : Parameter}

private theorem parameter (name : String) : EvaluatesAlike (.parameter name type) := by
  intro left right equivalent
  simp only [evaluate]
  have found := equivalent name
  generalize left.lookup name = leftFound at found
  generalize right.lookup name = rightFound at found
  cases found with
  | none => exact .error rfl
  | some values => exact .ok values

private theorem logical
    (operator : Connective)
    (firstAlike : first.EvaluatesAlike)
    (secondAlike : second.EvaluatesAlike) :
    EvaluatesAlike (.logical operator first second type) := by
  intro left right equivalent
  apply (firstAlike equivalent).bind
  intro firstLeft firstRight firsts
  apply firsts.truth?.bind
  rintro known _ rfl
  split
  · exact .ok (.refl _)
  · apply (secondAlike equivalent).bind
    intro secondLeft secondRight seconds
    apply seconds.truth?.bind
    rintro secondKnown _ rfl
    exact .ok (.refl _)

private theorem call
    {arguments : List Expression}
    (function : Function)
    (each : ∀ argument ∈ arguments, argument.EvaluatesAlike) :
    EvaluatesAlike (.call function arguments type) := by
  intro left right equivalent
  have together : Alike (List.Forall₂ Value.NullEquivalent) (evaluateAll arguments left)
      (evaluateAll arguments right) := by
    rw [evaluateAll_eq_all, evaluateAll_eq_all]
    apply Outcome.Alike.all
    rw [List.forall₂_map_left_iff, List.forall₂_map_right_iff, List.forall₂_same]
    exact fun argument member => each argument member equivalent
  apply together.bind
  intro leftValues rightValues values
  rw [Function.any_isNull values]
  split
  · exact .error rfl
  · exact function.apply_alike values

/-- A condition on items comes out alike for null-equivalent items. -/
private theorem truth_push
    {left right : Bindings}
    {itemLeft itemRight : Value}
    (bodyAlike : body.EvaluatesAlike)
    (item : Parameter)
    (equivalent : left.NullEquivalent right)
    (items : itemLeft.NullEquivalent itemRight) :
    Alike Eq (body.evaluate (left.push item.name itemLeft) >>= Value.truth)
      (body.evaluate (right.push item.name itemRight) >>= Value.truth) :=
  (bodyAlike (equivalent.push item.name items)).bind fun _ _ values => values.truth

private theorem quantified
    (quantifier : Quantifier)
    (sourceAlike : source.EvaluatesAlike)
    (bodyAlike : body.EvaluatesAlike) :
    EvaluatesAlike (.quantified quantifier source item body type) := by
  intro left right equivalent
  apply (sourceAlike equivalent).bind
  intro sourceLeft sourceRight sources
  apply (sources.items quantifier.keyword).bind
  intro leftItems rightItems items
  have tests := Outcome.Alike.test quantifier
    (fun _ _ itemValues => bodyAlike.truth_push item equivalent itemValues) items
  apply tests.bind
  rintro held _ rfl
  exact .ok (.refl _)

private theorem count (sourceAlike : source.EvaluatesAlike) :
    EvaluatesAlike (.count source type) := by
  intro left right equivalent
  apply (sourceAlike equivalent).bind
  intro sourceLeft sourceRight sources
  apply (sources.items "$count").bind
  intro leftItems rightItems items
  rw [items.length_eq]
  exact .of_eq .refl _

private theorem countWhere
    (sourceAlike : source.EvaluatesAlike)
    (conditionAlike : body.EvaluatesAlike) :
    EvaluatesAlike (.countWhere source item body type) := by
  intro left right equivalent
  apply (sourceAlike equivalent).bind
  intro sourceLeft sourceRight sources
  apply (sources.items "$count").bind
  intro leftItems rightItems items
  have counts := Outcome.Alike.countHolding
    (fun _ _ itemValues => conditionAlike.truth_push item equivalent itemValues) items
  apply counts.bind
  rintro count _ rfl
  exact .of_eq .refl _

end EvaluatesAlike

theorem evaluate_alike (expression : Expression) : expression.EvaluatesAlike := by
  induction expression with
  | constant value type => exact fun _ _ _ => .ok (.refl value)
  | parameter name type => exact .parameter name
  | read source member type sourceAlike =>
      intro left right equivalent
      exact (sourceAlike equivalent).bind fun _ _ values => values.member member
  | comparison operator first second type firstAlike secondAlike =>
      intro left right equivalent
      apply (firstAlike equivalent).bind
      intro firstLeft firstRight firsts
      apply (secondAlike equivalent).bind
      intro secondLeft secondRight seconds
      rw [firsts.comparison seconds]
      exact .ok (.refl _)
  | logical operator first second type firstAlike secondAlike =>
      exact firstAlike.logical operator secondAlike
  | arithmetic operator first second type firstAlike secondAlike =>
      intro left right equivalent
      apply (firstAlike equivalent).bind
      intro firstLeft firstRight firsts
      apply (secondAlike equivalent).bind
      intro secondLeft secondRight seconds
      exact firsts.arithmetic seconds operator
  | has value flag type valueAlike flagAlike =>
      intro left right equivalent
      apply (valueAlike equivalent).bind
      intro valueLeft valueRight values
      apply (flagAlike equivalent).bind
      intro flagLeft flagRight flags
      rw [values.hasFlags flags]
      exact .ok (.refl _)
  | not operand type operandAlike =>
      intro left right equivalent
      exact (operandAlike equivalent).bind fun _ _ values => values.complement
  | negate operand type operandAlike =>
      intro left right equivalent
      exact (operandAlike equivalent).bind fun _ _ values => values.negate
  | isNull operand negated type operandAlike =>
      intro left right equivalent
      apply (operandAlike equivalent).bind
      intro operandLeft operandRight values
      rw [values.isNull]
      exact .ok (.refl _)
  | coalesce operand fallback type operandAlike fallbackAlike =>
      intro left right equivalent
      apply (operandAlike equivalent).bind
      intro operandLeft operandRight values
      rw [values.isNull]
      split
      · exact fallbackAlike equivalent
      · exact .ok values
  | convert operand type operandAlike =>
      intro left right equivalent
      exact (operandAlike equivalent).bind fun _ _ values => .ok (values.convert type.data)
  | conditional test whenTrue whenFalse isGuard type testAlike trueAlike falseAlike =>
      intro left right equivalent
      apply (testAlike equivalent).bind
      intro testLeft testRight tests
      rw [tests.isTrue]
      split
      · exact trueAlike equivalent
      · exact falseAlike equivalent
  | call function arguments type argumentsAlike => exact .call function argumentsAlike
  | quantified quantifier source item body type sourceAlike bodyAlike =>
      exact sourceAlike.quantified quantifier bodyAlike
  | count source type sourceAlike => exact sourceAlike.count
  | countWhere source item condition type sourceAlike conditionAlike =>
      exact sourceAlike.countWhere conditionAlike

end Expression

theorem Lambda.apply_alike
    {left right : Value}
    (lambda : Lambda)
    (equivalent : left.NullEquivalent right) :
    Alike Value.NullEquivalent (lambda.apply left) (lambda.apply right) :=
  lambda.body.evaluate_alike ((Bindings.NullEquivalent.refl []).push lambda.parameter.name equivalent)

end ClauseBinding
