import ClauseBinding.Binding.Session
import ClauseBinding.Proofs.Clause.Derivation

/-!
Contract: binding in place is binding.

Owns:
- the outcome of a use that leaves its context as it was;
- that a use under a guard is one, if it is one inside, as each guard gives back what it
  took;
- that clauses, filters and orders are bound in place to what they are bound to in the
  context as it stands, and leave it as it stands, whether or not they are bound.

Does not own: runs of requests.
-/

namespace ClauseBinding

open ClauseBinding.Outcome

/-! ## Uses that leave their context as it was -/

namespace Use

variable {α β : Type} {context : Context}

/-- In a context, a use has an outcome and leaves the context as it was. -/
def Yields
    (use : Use α)
    (context : Context)
    (outcome : Except Failure α) : Prop :=
  use.run.run context = (outcome, context)

/-- A guard is released whether or not the use fails. -/
theorem run_finally
    (use : Use α)
    (guard : Guard)
    (context : Context) :
    (tryFinally use (modify guard.release) : Use α).run.run context =
      ((use.run.run context).1, guard.release (use.run.run context).2) := by
  unfold ExceptT.run StateT.run
  simp only [tryFinally, tryFinally', ExceptT.mk, Functor.map, ExceptT.map, Bind.bind, StateT.bind]
  rcases use context with ⟨outcome, after⟩
  cases outcome <;> rfl

private theorem run_under
    (hold : Use Guard)
    (use : Use α)
    (context : Context) :
    (under hold use).run.run context =
      match hold.run.run context with
      | (.ok guard, inside) => ((use.run.run inside).1, guard.release (use.run.run inside).2)
      | (.error failure, after) => (.error failure, after) := by
  rw [under, run_bind]
  rcases hold.run.run context with ⟨failure | guard, after⟩
  · rfl
  · exact run_finally use guard after

private theorem yields_pure
    (value : α)
    (context : Context) : (Pure.pure value : Use α).Yields context (.ok value) :=
  rfl

private theorem yields_lift
    (outcome : Except Failure α)
    (context : Context) : (liftM outcome : Use α).Yields context outcome :=
  rfl

theorem yields_reading
    (read : Context → Except Failure α)
    (context : Context) : (reading read).Yields context (read context) :=
  rfl

private theorem Yields.of_get
    {next : Context → Use α}
    {outcome : Except Failure α}
    (yields : (next context).Yields context outcome) :
    (get >>= next).Yields context outcome :=
  yields

theorem Yields.bind
    {use : Use α}
    {outcome : Except Failure α}
    {next : α → Use β}
    {next' : α → Except Failure β}
    (first : use.Yields context outcome)
    (rest : ∀ value, (next value).Yields context (next' value)) :
    (use >>= next).Yields context (outcome >>= next') := by
  unfold Yields at first ⊢
  rw [run_bind, first]
  cases outcome with
  | error failure => rfl
  | ok value => exact rest value

/-! ## Guards -/

/-- In a context, a guard is held and the context is entered. Without room the context is
left as it was. -/
def Holds
    (hold : Use Guard)
    (context : Context)
    (guard : Guard)
    (entered : Except Failure Context) : Prop :=
  hold.run.run context =
    match entered with
    | .ok inside => (.ok guard, inside)
    | .error failure => (.error failure, context)

private theorem run_enter (context : Context) :
    enter.run.run context =
      match context.descend with
      | .ok inside => (.ok (), inside)
      | .error failure => (.error failure, context) := by
  have entered : enter.run.run context =
    (if context.depth < context.configuration.maxDepth.toNat then
      set { context with depth := context.depth + 1 }
    else throw (.tooDeep context.configuration.maxDepth) : Use Unit).run.run context := rfl
  rw [entered, Context.descend]
  by_cases room : context.depth < context.configuration.maxDepth.toNat
  · rw [if_pos room, if_pos room]
    rfl
  · rw [if_neg room, if_neg room]
    rfl

private theorem holdLevel_holds (context : Context) :
    holdLevel.Holds context .level context.descend := by
  unfold Holds holdLevel
  rw [run_bind, run_enter]
  cases context.descend <;> rfl

theorem holdVariable_holds
    (parameter : Parameter)
    (context : Context) :
    (holdVariable parameter).Holds context .frame (context.declare parameter) := by
  unfold Holds holdVariable Context.declare
  rw [run_bind, run_enter]
  cases context.descend <;> rfl

theorem holdIsolated_holds (context : Context) :
    holdIsolated.Holds context (.isolation context.scope) context.isolate := by
  unfold Holds holdIsolated Context.isolate
  rw [run_bind, run_enter]
  cases descends : context.descend with
  | error failure => rfl
  | ok inside =>
      rw [Context.eq_of_descend descends]
      rfl

/-- A use under a guard leaves the context as it was, if it does so inside and the guard
gives back what it took. -/
theorem Yields.held
    {hold : Use Guard}
    {guard : Guard}
    {entered : Except Failure Context}
    {use : Use α}
    {outcome : Context → Except Failure α}
    (holds : hold.Holds context guard entered)
    (restores : ∀ inside, entered = .ok inside → guard.release inside = context)
    (within : ∀ inside, entered = .ok inside → use.Yields inside (outcome inside)) :
    (under hold use).Yields context (entered >>= outcome) := by
  unfold Yields
  rw [run_under, holds]
  cases entered with
  | error failure => rfl
  | ok inside =>
      have yields := within inside rfl
      have restored := restores inside rfl
      dsimp only [ok_bind]
      rw [yields, restored]

theorem Yields.level
    {use : Use α}
    {outcome : Context → Except Failure α}
    (within : ∀ inside, context.descend = .ok inside → use.Yields inside (outcome inside)) :
    (under holdLevel use).Yields context (context.descend >>= outcome) := by
  refine Yields.held (holdLevel_holds context) ?_ within
  intro inside descends
  rw [Context.eq_of_descend descends]
  rfl

/-- What follows a use under a guard follows in the context as it was. -/
theorem Yields.variable_bind
    {parameter : Parameter}
    {use : Use α}
    {outcome : Context → Except Failure α}
    {next : α → Use β}
    {next' : α → Except Failure β}
    (within : ∀ inside, context.declare parameter = .ok inside →
      use.Yields inside (outcome inside))
    (rest : ∀ value, (next value).Yields context (next' value)) :
    (under (holdVariable parameter) use >>= next).Yields context
      (context.declare parameter >>= fun inside => outcome inside >>= next') := by
  rw [← bind_assoc]
  refine (Yields.held (holdVariable_holds parameter context) ?_ within).bind rest
  intro inside declares
  rw [Context.eq_of_declare declares]
  rfl

theorem Yields.isolated
    {use : Use α}
    {outcome : Context → Except Failure α}
    (within : ∀ inside, context.isolate = .ok inside → use.Yields inside (outcome inside)) :
    (under holdIsolated use).Yields context (context.isolate >>= outcome) := by
  refine Yields.held (holdIsolated_holds context) ?_ within
  intro inside isolates
  rw [Context.eq_of_isolate isolates]
  rfl

end Use

open Use

/-! ## Clauses -/

namespace Clause

private theorem bindAllInPlace_yields
    {clauses : List Clause}
    {context : Context}
    (each : ∀ clause ∈ clauses, clause.bindInPlace.Yields context (clause.bind context)) :
    (bindAllInPlace clauses).Yields context (bindAll clauses context) := by
  induction clauses with
  | nil => exact yields_pure _ _
  | cons first rest inductionHypothesis =>
      obtain ⟨firstYields, restYields⟩ := List.forall_mem_cons.mp each
      apply firstYields.bind
      intro boundFirst
      apply (inductionHypothesis restYields).bind
      intro boundRest
      exact yields_pure _ _

private theorem condition_yields
    {condition : Clause}
    (conditionYields : ∀ context, condition.bindInPlace.Yields context (condition.bind context))
    (parameter : Parameter)
    (context : Context) :
    (under (holdVariable parameter) condition.bindInPlace >>= fun bound =>
        liftM (Predicate.ofCondition parameter bound)).Yields context
      (context.declare parameter >>= fun inside =>
        condition.bind inside >>= Predicate.ofCondition parameter) :=
  Yields.variable_bind (fun inside _ => conditionYields inside) fun _ => yields_lift _ _

/-- A clause is bound in place to what it is bound to in the context as it stands, and
leaves it as it stands. -/
theorem bindInPlace_yields
    (clause : Clause)
    (context : Context) : clause.bindInPlace.Yields context (clause.bind context) := by
  induction clause generalizing context with
  | literal value type => exact Yields.level fun inner _ => yields_pure _ _
  | reference name =>
      apply Yields.level
      intro inner _
      exact (yields_reading _ inner).bind fun _ => yields_pure _ _
  | member source name sourceYields =>
      apply Yields.level
      intro inner descends
      obtain rfl := Context.eq_of_descend descends
      exact (sourceYields _).bind fun _ => yields_reading _ _
  | binary operator left right leftYields rightYields =>
      apply Yields.level
      intro inner descends
      obtain rfl := Context.eq_of_descend descends
      exact (leftYields _).bind fun _ => (rightYields _).bind fun _ => yields_reading _ _
  | unary operator operand operandYields =>
      apply Yields.level
      intro inner _
      exact (operandYields inner).bind fun _ => yields_lift _ _
  | call name arguments argumentsYield =>
      apply Yields.level
      intro inner descends
      obtain rfl := Context.eq_of_descend descends
      apply (bindAllInPlace_yields fun argument member => argumentsYield argument member _).bind
      intro boundArguments
      exact yields_reading _ _
  | cast target operand operandYields =>
      apply Yields.level
      intro inner descends
      obtain rfl := Context.eq_of_descend descends
      exact (operandYields _).bind fun _ => yields_reading _ _
  | quantified quantifier source name body sourceYields bodyYields =>
      apply Yields.level
      intro inner _
      apply (sourceYields inner).bind
      intro boundSource
      apply (yields_lift _ inner).bind
      intro item
      exact Yields.variable_bind (fun inside _ => bodyYields inside) fun _ => yields_lift _ _
  | count source sourceYields =>
      apply Yields.level
      intro inner _
      apply (sourceYields inner).bind
      intro boundSource
      exact (yields_lift _ inner).bind fun _ => yields_pure _ _
  | countWhere source name condition sourceYields conditionYields =>
      apply Yields.level
      intro inner _
      apply (sourceYields inner).bind
      intro boundSource
      apply (yields_lift _ inner).bind
      intro item
      have predicateYields := Yields.isolated fun isolated (_ : inner.isolate = .ok isolated) =>
        condition_yields conditionYields ⟨name, item⟩ isolated
      have countYields := predicateYields.bind fun predicate => yields_pure
        (Expression.countWhere boundSource ⟨name, item⟩ predicate.lambda.body
          ⟨.int64, boundSource.isNullable⟩) inner
      simp only [bind_assoc] at countYields
      exact countYields

end Clause

/-! ## Filters and orders -/

namespace FilterClause

private theorem bindOverInPlace_yields
    (filter : FilterClause)
    (type : ValueType)
    (context : Context) :
    (filter.bindOverInPlace type).Yields context (filter.bindOver type context) :=
  Clause.condition_yields filter.condition.bindInPlace_yields ⟨filter.rangeVariable, type⟩ context

theorem bindNestedInPlace_yields
    (filter : FilterClause)
    (type : ValueType)
    (context : Context) :
    (filter.bindNestedInPlace type).Yields context (filter.bindNested type context) :=
  Yields.isolated fun isolated _ => filter.bindOverInPlace_yields type isolated

def noted
    (filter? : Option FilterClause)
    (context : Context) : Context :=
  { context with filterSeen := context.filterSeen || filter?.isSome }

/-- A filter is bound in place as it is bound in the context as it stands. It leaves
nothing behind but the note that it was given. -/
theorem run_bindInPlace
    (filter? : Option FilterClause)
    (context : Context) :
    (bindInPlace filter?).run.run context =
      (bind? filter? (some (noted filter? context)), noted filter? context) := by
  cases filter? with
  | none =>
      have unnoted : noted none context = context := by simp [noted]
      rw [unnoted]
      rfl
  | some filter =>
      have isNoted : noted (some filter) context = { context with filterSeen := true } := by
        simp [noted]
      rw [isNoted]
      exact filter.bindOverInPlace_yields (.required context.elementType)
        { context with filterSeen := true }

end FilterClause

theorem Selector.bindInPlace_yields
    (key : Clause)
    (direction : Direction)
    (rangeVariable : String)
    (context : Context) :
    (Selector.bindInPlace key direction rangeVariable).Yields context
      (Selector.bind key direction rangeVariable context) := by
  unfold Selector.bindInPlace
  apply Yields.of_get
  refine Yields.variable_bind (fun inside _ => key.bindInPlace_yields inside) ?_
  intro body
  by_cases orderable : body.data.isOrderable = true
  · rw [if_pos orderable, if_pos orderable]
    exact yields_pure _ _
  · rw [if_neg orderable, if_neg orderable]
    rfl

namespace OrderClause

variable {rangeVariable : String} {context : Context}

private theorem bindTermsInPlace_yields (terms : List OrderTerm) :
    (bindTermsInPlace rangeVariable terms).Yields context
      (bindTerms rangeVariable context terms) := by
  induction terms with
  | nil => exact yields_pure _ _
  | cons term rest inductionHypothesis =>
      apply (Selector.bindInPlace_yields term.key term.direction rangeVariable context).bind
      intro selector
      exact inductionHypothesis.bind fun _ => yields_pure _ _

private theorem appendKeyInPlace_yields
    (selectors : List Selector)
    (members : List String) :
    (appendKeyInPlace rangeVariable selectors members).Yields context
      (appendKey rangeVariable context selectors members) := by
  induction members generalizing selectors with
  | nil => exact yields_pure _ _
  | cons member rest inductionHypothesis =>
      unfold appendKeyInPlace appendKey
      by_cases isRead : selectors.any (·.directMember? == some member) = true
      · rw [if_pos isRead, if_pos isRead]
        exact inductionHypothesis selectors
      · rw [if_neg isRead, if_neg isRead]
        apply (Selector.bindInPlace_yields _ .ascending rangeVariable context).bind
        intro added
        exact inductionHypothesis (selectors ++ [added])

/-- An order is bound in place as it is bound in the context as it stands, and leaves
nothing behind. -/
theorem bindInPlace_yields
    (order? : Option OrderClause)
    (context : Context) : (bindInPlace order?).Yields context (bind? order? (some context)) := by
  cases order? with
  | none => rfl
  | some order =>
      apply (bindTermsInPlace_yields order.terms).bind
      intro selectors
      apply Yields.of_get
      by_cases stable : context.configuration.stableOrder = true
      · rw [if_pos stable, if_pos stable]
        exact appendKeyInPlace_yields selectors (elementKey context)
      · rw [if_neg stable, if_neg stable]
        exact yields_pure _ _

end OrderClause

end ClauseBinding
