import ClauseBinding.Proofs.Renaming.ByLevel
import ClauseBinding.Proofs.Renaming.Nodes

/-!
Contract: clauses that differ in the names of range variables alone.

Owns:
- alpha-equivalence of clauses, where every name resolves to the same binder in both, or to
  none;
- contexts whose scopes correspond, and outcomes of which the same is made;
- that equivalent clauses are bound in corresponding scopes to the same, once variables are
  named by level, or fail alike.

Does not own: the rules of binding, or filters.
-/

namespace ClauseBinding

open ClauseBinding.Outcome

/-! ## Equivalent clauses -/

/-- Whether names resolve to the same binder, below binders that are given with both of
their names, innermost first. Names that resolve to none are the same. -/
inductive Paired : List (String × String) → String → String → Prop where
  | unbound (name : String) : Paired [] name name
  | innermost (left right : String) (outside : List (String × String)) :
      Paired ((left, right) :: outside) left right
  | outside {first first' left right : String} {outside : List (String × String)}
      (otherLeft : first ≠ left) (otherRight : first' ≠ right)
      (paired : Paired outside left right) : Paired ((first, first') :: outside) left right

/-- Whether clauses differ in the names of range variables alone, below binders that are
given with both of their names. A nested filter starts from its own variable. -/
inductive Clause.AlphaEquivalent : List (String × String) → Clause → Clause → Prop where
  | literal {names : List (String × String)} (value : Value) (type : ValueType) :
      AlphaEquivalent names (.literal value type) (.literal value type)
  | reference {names : List (String × String)} {left right : String}
      (paired : Paired names left right) :
      AlphaEquivalent names (.reference left) (.reference right)
  | member {names : List (String × String)} {source source' : Clause} (name : String)
      (sources : AlphaEquivalent names source source') :
      AlphaEquivalent names (.member source name) (.member source' name)
  | binary {names : List (String × String)} {left left' right right' : Clause}
      (operator : BinaryOperator) (lefts : AlphaEquivalent names left left')
      (rights : AlphaEquivalent names right right') :
      AlphaEquivalent names (.binary operator left right) (.binary operator left' right')
  | unary {names : List (String × String)} {operand operand' : Clause}
      (operator : UnaryOperator) (operands : AlphaEquivalent names operand operand') :
      AlphaEquivalent names (.unary operator operand) (.unary operator operand')
  | call {names : List (String × String)} {arguments arguments' : List Clause} (name : String)
      (sameNumber : arguments.length = arguments'.length)
      (each : ∀ argument argument', (argument, argument') ∈ arguments.zip arguments' →
        AlphaEquivalent names argument argument') :
      AlphaEquivalent names (.call name arguments) (.call name arguments')
  | cast {names : List (String × String)} {operand operand' : Clause} (target : DataType)
      (operands : AlphaEquivalent names operand operand') :
      AlphaEquivalent names (.cast target operand) (.cast target operand')
  | quantified {names : List (String × String)} {source source' body body' : Clause}
      (quantifier : Quantifier) (name name' : String)
      (sources : AlphaEquivalent names source source')
      (bodies : AlphaEquivalent ((name, name') :: names) body body') :
      AlphaEquivalent names (.quantified quantifier source name body)
        (.quantified quantifier source' name' body')
  | count {names : List (String × String)} {source source' : Clause}
      (sources : AlphaEquivalent names source source') :
      AlphaEquivalent names (.count source) (.count source')
  | countWhere {names : List (String × String)} {source source' condition condition' : Clause}
      (name name' : String) (sources : AlphaEquivalent names source source')
      (conditions : AlphaEquivalent [(name, name')] condition condition') :
      AlphaEquivalent names (.countWhere source name condition)
        (.countWhere source' name' condition')

/-- Names that resolve to the same binder stand at the same level. -/
theorem Paired.standIn
    {names : List (String × String)}
    {left right : String}
    (paired : Paired names left right) :
    standIn (names.map Prod.fst) left = standIn (names.map Prod.snd) right := by
  induction paired with
  | unbound name => rfl
  | innermost left right outside =>
      simp only [List.map_cons, ClauseBinding.standIn, if_true, List.length_map]
  | outside otherLeft otherRight _ inductionHypothesis =>
      simp only [List.map_cons, ClauseBinding.standIn, if_neg otherLeft, if_neg otherRight,
        inductionHypothesis]

/-! ## Corresponding scopes -/

/-- Scopes that declare variables of the same types, with the names given. -/
inductive Corresponding : List (String × String) → List Parameter → List Parameter → Prop where
  | outermost : Corresponding [] [] []
  | declare {names : List (String × String)} {scope scope' : List Parameter}
      (left right : String) (type : ValueType) (outside : Corresponding names scope scope') :
      Corresponding ((left, right) :: names) (⟨left, type⟩ :: scope) (⟨right, type⟩ :: scope')

structure Context.Renamed
    (names : List (String × String))
    (left right : Context) : Prop where
  catalog : left.catalog = right.catalog
  maxDepth : left.configuration.maxDepth = right.configuration.maxDepth
  depth : left.depth = right.depth
  scope : Corresponding names left.scope right.scope

/-- Outcomes of which the same is made, be it a failure. -/
def Outcome.SameUnder
    {α β γ : Type}
    (make : α → γ)
    (make' : β → γ)
    (left : Except Failure α)
    (right : Except Failure β) : Prop :=
  left.map make = right.map make'

namespace Outcome.SameUnder

variable {α α' β β' γ δ : Type}

theorem refl (outcome : Except Failure α) : SameUnder id id outcome outcome :=
  rfl

theorem values_or_failure
    {make : α → γ}
    {make' : α' → γ}
    {left : Except Failure α}
    {right : Except Failure α'}
    (same : SameUnder make make' left right) :
    (∃ value value', left = .ok value ∧ right = .ok value' ∧ make value = make' value')
      ∨ ∃ failure, left = .error failure ∧ right = .error failure := by
  cases left with
  | error failure =>
      cases right with
      | error failure' =>
          obtain rfl := Except.error.inj same
          exact .inr ⟨failure, rfl, rfl⟩
      | ok value' => cases same
  | ok value =>
      cases right with
      | error failure' => cases same
      | ok value' => exact .inl ⟨value, value', rfl, rfl, Except.ok.inj same⟩

/-- Chains are the same if their first steps are, and then the rest. -/
theorem bind
    {make : α → γ}
    {make' : α' → γ}
    {left : Except Failure α}
    {right : Except Failure α'}
    {made : β → δ}
    {made' : β' → δ}
    {next : α → Except Failure β}
    {next' : α' → Except Failure β'}
    (first : SameUnder make make' left right)
    (rest : ∀ value value', make value = make' value' →
      SameUnder made made' (next value) (next' value')) :
    SameUnder made made' (left >>= next) (right >>= next') := by
  rcases first.values_or_failure with ⟨value, value', rfl, rfl, same⟩ | ⟨failure, rfl, rfl⟩
  · exact rest value value' same
  · rfl

end Outcome.SameUnder

namespace Context.Renamed

variable {α α' γ : Type} {names : List (String × String)} {left right : Context}
variable {made : α → γ} {made' : α' → γ}
variable {next : Context → Except Failure α} {next' : Context → Except Failure α'}

/-- Names that resolve to the same binder have the same type, and names that resolve to
none fail alike. -/
theorem resolve
    (renamed : Renamed names left right)
    {name name' : String}
    (paired : Paired names name name') : left.resolve name = right.resolve name' := by
  obtain ⟨-, -, -, corresponding⟩ := renamed
  unfold Context.resolve
  generalize left.scope = scope at corresponding
  generalize right.scope = scope' at corresponding
  induction paired generalizing scope scope' with
  | unbound name =>
      cases corresponding
      rfl
  | innermost name name' outside =>
      cases corresponding
      simp
  | outside otherLeft otherRight _ inductionHypothesis =>
      cases corresponding with
      | declare _ _ _ outside =>
          rw [List.find?_cons_of_neg (by simpa using otherLeft),
            List.find?_cons_of_neg (by simpa using otherRight)]
          exact inductionHypothesis _ _ outside

theorem descend_bind
    (renamed : Renamed names left right)
    (rest : ∀ {inner inner' : Context}, Renamed names inner inner' →
      SameUnder made made' (next inner) (next' inner')) :
    SameUnder made made' (left.descend >>= next) (right.descend >>= next') := by
  have sameDepth : left.depth = right.depth := renamed.depth
  have sameLimit : left.configuration.maxDepth = right.configuration.maxDepth := renamed.maxDepth
  unfold SameUnder
  by_cases allowed : left.depth < left.configuration.maxDepth.toNat
  · have allowed' : right.depth < right.configuration.maxDepth.toNat := by
      rwa [← sameDepth, ← sameLimit]
    simp only [descend, if_pos allowed, if_pos allowed', ok_bind]
    exact rest ⟨renamed.catalog, sameLimit, congrArg (· + 1) sameDepth, renamed.scope⟩
  · have refused : ¬ right.depth < right.configuration.maxDepth.toNat := by
      rwa [← sameDepth, ← sameLimit]
    rw [descend, descend, if_neg allowed, if_neg refused, sameLimit]
    rfl

/-- Below a binder, its names are paired innermost. -/
theorem declare_bind
    (renamed : Renamed names left right)
    (name name' : String)
    (type : ValueType)
    (rest : ∀ {inner inner' : Context}, Renamed ((name, name') :: names) inner inner' →
      SameUnder made made' (next inner) (next' inner')) :
    SameUnder made made' (left.declare ⟨name, type⟩ >>= next)
      (right.declare ⟨name', type⟩ >>= next') := by
  simp only [declare, bind_assoc, pure_eq_ok, ok_bind]
  apply renamed.descend_bind
  intro inner inner' innerRenamed
  exact rest ⟨innerRenamed.catalog, innerRenamed.maxDepth, innerRenamed.depth,
    .declare name name' type innerRenamed.scope⟩

/-- An isolated scope has no names. -/
theorem isolate_bind
    (renamed : Renamed names left right)
    (rest : ∀ {inner inner' : Context}, Renamed [] inner inner' →
      SameUnder made made' (next inner) (next' inner')) :
    SameUnder made made' (left.isolate >>= next) (right.isolate >>= next') := by
  simp only [isolate, bind_assoc, pure_eq_ok, ok_bind]
  apply renamed.descend_bind
  intro inner inner' innerRenamed
  exact rest ⟨innerRenamed.catalog, innerRenamed.maxDepth, innerRenamed.depth, .outermost⟩

end Context.Renamed

/-! ## Binding -/

/-- Conditions that are the same by level make the same predicate, or fail alike. -/
theorem Predicate.ofCondition_sameUnder
    {names names' : List String}
    {condition condition' : Expression}
    (parameter parameter' : Parameter)
    (same : condition.byLevel names = condition'.byLevel names') :
    SameUnder (·.lambda.body.byLevel names) (·.lambda.body.byLevel names')
      (ofCondition parameter condition) (ofCondition parameter' condition') := by
  have sameBody : condition.guardCondition.byLevel names =
      condition'.guardCondition.byLevel names' := by
    rw [← Expression.guardCondition_byLevel, same, Expression.guardCondition_byLevel]
  have sameType : condition.guardCondition.type = condition'.guardCondition.type := by
    rw [← Expression.type_byLevel names, sameBody, Expression.type_byLevel]
  unfold SameUnder ofCondition
  by_cases isTruth : condition.guardCondition.type = .required .bool
  · have isTruth' : condition'.guardCondition.type = .required .bool := sameType ▸ isTruth
    simp only [dif_pos isTruth, dif_pos isTruth']
    exact congrArg Except.ok sameBody
  · have isTruth' : ¬ condition'.guardCondition.type = .required .bool := sameType ▸ isTruth
    rw [dif_neg isTruth, dif_neg isTruth', sameType]
    rfl

namespace Clause

variable {names : List (String × String)}

/-- What is read of a pair of names by level on the left, and on the right. -/
theorem bindAll_sameUnder
    {arguments arguments' : List Clause}
    {context context' : Context}
    (sameNumber : arguments.length = arguments'.length)
    (each : ∀ argument argument', (argument, argument') ∈ arguments.zip arguments' →
      SameUnder (·.byLevel (names.map Prod.fst)) (·.byLevel (names.map Prod.snd))
        (argument.bind context) (argument'.bind context')) :
    SameUnder (Expression.byLevelAll · (names.map Prod.fst))
      (Expression.byLevelAll · (names.map Prod.snd))
      (bindAll arguments context) (bindAll arguments' context') := by
  induction arguments generalizing arguments' with
  | nil =>
      obtain rfl := List.eq_nil_of_length_eq_zero sameNumber.symm
      rfl
  | cons first rest inductionHypothesis =>
      cases arguments' with
      | nil => cases sameNumber
      | cons first' rest' =>
          rw [List.zip_cons_cons] at each
          apply (each first first' List.mem_cons_self).bind
          intro boundFirst boundFirst' sameFirst
          have restSame := inductionHypothesis (Nat.succ.inj sameNumber) fun argument argument'
            paired => each argument argument' (List.mem_cons_of_mem _ paired)
          apply restSame.bind
          intro boundRest boundRest' sameRest
          have together : Expression.byLevelAll (boundFirst :: boundRest) (names.map Prod.fst) =
              Expression.byLevelAll (boundFirst' :: boundRest') (names.map Prod.snd) := by
            simp only [Expression.byLevelAll, sameFirst, sameRest]
          exact congrArg Except.ok together

/-- Clauses are bound alike in scopes that correspond by some names. -/
def BindAlike
    (names : List (String × String))
    (clause clause' : Clause) : Prop :=
  ∀ ⦃context context' : Context⦄, context.Renamed names context' →
    SameUnder (·.byLevel (names.map Prod.fst)) (·.byLevel (names.map Prod.snd))
      (clause.bind context) (clause'.bind context')

namespace BindAlike

variable {source source' body body' : Clause}

private theorem call
    {arguments arguments' : List Clause}
    (name : String)
    (sameNumber : arguments.length = arguments'.length)
    (each : ∀ argument argument', (argument, argument') ∈ arguments.zip arguments' →
      BindAlike names argument argument') :
    BindAlike names (.call name arguments) (.call name arguments') := by
  intro context context' renamed
  apply renamed.descend_bind
  intro inner inner' innerRenamed
  have arguments := bindAll_sameUnder sameNumber fun argument argument' paired =>
    each argument argument' paired innerRenamed
  apply arguments.bind
  intro bound bound' same
  rw [SameUnder, ← Expression.bindCall_byLevel, ← Expression.bindCall_byLevel, same,
    renamed.catalog]

private theorem quantified
    (quantifier : Quantifier)
    (name name' : String)
    (sources : BindAlike names source source')
    (bodies : BindAlike ((name, name') :: names) body body') :
    BindAlike names (.quantified quantifier source name body)
      (.quantified quantifier source' name' body') := by
  intro context context' renamed
  apply renamed.descend_bind
  intro inner inner' innerRenamed
  apply (sources innerRenamed).bind
  intro source source' sameSource
  rw [Expression.itemType_of_byLevel quantifier.keyword sameSource]
  apply (SameUnder.refl _).bind
  rintro item _ rfl
  apply innerRenamed.declare_bind name name' item
  intro inside inside' insideRenamed
  apply (bodies insideRenamed).bind
  intro body body' sameBody
  rw [SameUnder, ← Expression.bindQuantified_byLevel, ← Expression.bindQuantified_byLevel,
    sameSource, List.length_map, List.length_map]
  exact congrArg (Expression.bindQuantified quantifier _ _) sameBody

private theorem count (sources : BindAlike names source source') :
    BindAlike names (.count source) (.count source') := by
  intro context context' renamed
  apply renamed.descend_bind
  intro inner inner' innerRenamed
  apply (sources innerRenamed).bind
  intro source source' sameSource
  rw [Expression.itemType_of_byLevel "$count" sameSource]
  apply (SameUnder.refl _).bind
  rintro item _ rfl
  have sameNullable := Expression.isNullable_of_byLevel sameSource
  refine congrArg Except.ok ?_
  simp only [Expression.byLevel, sameSource, sameNullable]

private theorem countWhere
    (name name' : String)
    (sources : BindAlike names source source')
    (conditions : BindAlike [(name, name')] body body') :
    BindAlike names (.countWhere source name body) (.countWhere source' name' body') := by
  intro context context' renamed
  apply renamed.descend_bind
  intro inner inner' innerRenamed
  apply (sources innerRenamed).bind
  intro source source' sameSource
  rw [Expression.itemType_of_byLevel "$count" sameSource]
  apply (SameUnder.refl _).bind
  rintro item _ rfl
  apply innerRenamed.isolate_bind
  intro isolated isolated' isolatedRenamed
  apply isolatedRenamed.declare_bind name name' item
  intro inside inside' insideRenamed
  apply (conditions insideRenamed).bind
  intro condition condition' sameCondition
  apply (Predicate.ofCondition_sameUnder ⟨name, item⟩ ⟨name', item⟩ sameCondition).bind
  intro predicate predicate' sameBody
  have sameNullable := Expression.isNullable_of_byLevel sameSource
  replace sameBody : predicate.lambda.body.byLevel [name] =
    predicate'.lambda.body.byLevel [name'] := sameBody
  refine congrArg Except.ok ?_
  simp only [Expression.byLevel, sameSource, sameNullable, sameBody, id]

end BindAlike

/-- Equivalent clauses are bound alike in corresponding scopes. -/
theorem bind_sameUnder
    {clause clause' : Clause}
    (equivalent : AlphaEquivalent names clause clause') : BindAlike names clause clause' := by
  induction equivalent with
  | literal value type =>
      intro context context' renamed
      apply renamed.descend_bind
      intro inner inner' _
      rfl
  | reference paired =>
      intro context context' renamed
      apply renamed.descend_bind
      intro inner inner' innerRenamed
      rw [innerRenamed.resolve paired]
      apply (SameUnder.refl _).bind
      rintro type _ rfl
      exact congrArg (fun name => Except.ok (Expression.parameter name type)) paired.standIn
  | member name _ sources =>
      intro context context' renamed
      apply renamed.descend_bind
      intro inner inner' innerRenamed
      apply (sources innerRenamed).bind
      intro source source' same
      rw [SameUnder, ← Expression.bindMember_byLevel, ← Expression.bindMember_byLevel, same,
        renamed.catalog]
  | binary operator _ _ lefts rights =>
      intro context context' renamed
      apply renamed.descend_bind
      intro inner inner' innerRenamed
      apply (lefts innerRenamed).bind
      intro left left' sameLeft
      apply (rights innerRenamed).bind
      intro right right' sameRight
      rw [SameUnder, ← Expression.bindBinary_byLevel, ← Expression.bindBinary_byLevel, sameLeft,
        sameRight, renamed.catalog]
  | unary operator _ operands =>
      intro context context' renamed
      apply renamed.descend_bind
      intro inner inner' innerRenamed
      apply (operands innerRenamed).bind
      intro operand operand' same
      rw [SameUnder, ← Expression.bindUnary_byLevel, ← Expression.bindUnary_byLevel, same]
  | call name sameNumber _ each => exact .call name sameNumber each
  | cast target _ operands =>
      intro context context' renamed
      apply renamed.descend_bind
      intro inner inner' innerRenamed
      apply (operands innerRenamed).bind
      intro operand operand' same
      rw [SameUnder, ← Expression.bindCast_byLevel, ← Expression.bindCast_byLevel, same,
        renamed.catalog]
  | quantified quantifier name name' _ _ sources bodies =>
      exact sources.quantified quantifier name name' bodies
  | count _ sources => exact sources.count
  | countWhere name name' _ _ sources conditions =>
      exact sources.countWhere name name' conditions

end Clause

end ClauseBinding
