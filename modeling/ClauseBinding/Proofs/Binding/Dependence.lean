import ClauseBinding.Binding.Filter
import ClauseBinding.Binding.Order
import ClauseBinding.Proofs.Clause.Derivation

/-!
Contract: what the binding of clauses depends on.

Owns:
- catalogs that answer every lookup alike;
- contexts that are alike in all that a clause can see of them: the catalog, the
  depth and its limit, and the range variables in scope;
- that clauses, filters and orders have the same result in such contexts, failures
  included.

Does not own: what the result is.
-/

namespace ClauseBinding

open ClauseBinding.Outcome

/-- Catalogs with the same answer to every lookup, in whatever order they hold
their types. -/
structure Catalog.Alike (left right : Catalog) : Prop where
  type? : ∀ name, left.type? name = right.type? name
  enumeration? : ∀ name, left.enumeration? name = right.enumeration? name
  conversions : left.conversions = right.conversions

/-- Contexts in which a clause sees the same. The element type, the completion of
orders and whether a filter was seen before play no part. -/
structure Context.Alike (left right : Context) : Prop where
  catalog : left.catalog.Alike right.catalog
  maxDepth : left.configuration.maxDepth = right.configuration.maxDepth
  depth : left.depth = right.depth
  scope : left.scope = right.scope

namespace Catalog.Alike

variable {left right : Catalog}

theorem refl (catalog : Catalog) : catalog.Alike catalog :=
  ⟨fun _ => rfl, fun _ => rfl, rfl⟩

theorem member?
    (alike : left.Alike right)
    (typeName member : String) : left.member? typeName member = right.member? typeName member := by
  rw [Catalog.member?, Catalog.member?, alike.type?]

theorem keyMembers
    (alike : left.Alike right)
    (typeName : String) : left.keyMembers typeName = right.keyMembers typeName := by
  rw [Catalog.keyMembers, Catalog.keyMembers, alike.type?]

end Catalog.Alike

/-! ## Nodes -/

namespace Expression

variable {left right : Catalog}

private theorem bindMember_of_alike (alike : left.Alike right) :
    bindMember left = bindMember right := by
  funext source member
  simp only [bindMember, alike.member?]

private theorem resolveEnumerations_of_alike (alike : left.Alike right) :
    resolveEnumerations left = resolveEnumerations right := by
  funext operation first second
  simp only [resolveEnumerations, besideEnumeration?, enumerationConstant?, alike.enumeration?]

private theorem bindComparison_of_alike (alike : left.Alike right) :
    bindComparison left = bindComparison right := by
  funext operator first second
  simp only [bindComparison, bindOrdinaryComparison, resolveEnumerations_of_alike alike,
    alike.conversions]

private theorem bindHas_of_alike (alike : left.Alike right) : bindHas left = bindHas right := by
  funext value flag
  simp only [bindHas, hasFlags, enumerationConstant?, alike.enumeration?]

private theorem bindBinary_of_alike (alike : left.Alike right) :
    bindBinary left = bindBinary right := by
  funext operator first second
  simp only [bindBinary, bindArithmetic, bindComparison_of_alike alike, bindHas_of_alike alike,
    alike.conversions]

private theorem bindCall_of_alike (alike : left.Alike right) : bindCall left = bindCall right := by
  funext name arguments
  simp only [bindCall, alike.conversions]

private theorem canCast_of_alike (alike : left.Alike right) : canCast left = canCast right := by
  funext source target
  unfold canCast
  rw [alike.conversions]

private theorem bindCast_of_alike (alike : left.Alike right) : bindCast left = bindCast right := by
  funext target operand
  simp only [bindCast, canCast_of_alike alike]

end Expression

/-! ## Places in a clause -/

namespace Context.Alike

variable {α : Type} {left right : Context} {next next' : Context → Except Failure α}

theorem resolve
    (alike : left.Alike right)
    (name : String) : left.resolve name = right.resolve name := by
  rw [Context.resolve, Context.resolve, alike.scope]

/-- What goes on alike in alike contexts goes on alike one level deeper. -/
theorem descend_bind
    (alike : left.Alike right)
    (rest : ∀ {inner inner' : Context}, inner.Alike inner' → next inner = next' inner') :
    left.descend >>= next = right.descend >>= next' := by
  have sameDepth : left.depth = right.depth := alike.depth
  have sameLimit : left.configuration.maxDepth = right.configuration.maxDepth := alike.maxDepth
  by_cases allowed : left.depth < left.configuration.maxDepth.toNat
  · have allowed' : right.depth < right.configuration.maxDepth.toNat := by
      rwa [← sameDepth, ← sameLimit]
    simp only [descend, if_pos allowed, if_pos allowed', ok_bind]
    exact rest ⟨alike.catalog, sameLimit, congrArg (· + 1) sameDepth, alike.scope⟩
  · have refused : ¬ right.depth < right.configuration.maxDepth.toNat := by
      rwa [← sameDepth, ← sameLimit]
    have limit : Failure.tooDeep left.configuration.maxDepth =
        .tooDeep right.configuration.maxDepth := congrArg _ sameLimit
    simp only [descend, if_neg allowed, if_neg refused, error_bind, limit]

theorem declare_bind
    {parameter : Parameter}
    (alike : left.Alike right)
    (rest : ∀ {inner inner' : Context}, inner.Alike inner' → next inner = next' inner') :
    left.declare parameter >>= next = right.declare parameter >>= next' := by
  simp only [declare, bind_assoc, pure_eq_ok, ok_bind]
  apply alike.descend_bind
  intro inner inner' innerAlike
  exact rest ⟨innerAlike.catalog, innerAlike.maxDepth, innerAlike.depth,
    congrArg (parameter :: ·) innerAlike.scope⟩

/-- An isolated scope is empty, so the contexts need not have their scopes in common. -/
theorem isolate_bind
    (catalog : left.catalog.Alike right.catalog)
    (maxDepth : left.configuration.maxDepth = right.configuration.maxDepth)
    (depth : left.depth = right.depth)
    (rest : ∀ {inner inner' : Context}, inner.Alike inner' → next inner = next' inner') :
    left.isolate >>= next = right.isolate >>= next' := by
  have emptied : ({ left with scope := [] } : Context).Alike { right with scope := [] } :=
    ⟨catalog, maxDepth, depth, rfl⟩
  have isolates : ∀ context : Context,
      context.isolate = ({ context with scope := [] } : Context).descend := by
    intro context
    by_cases allowed : context.depth < context.configuration.maxDepth.toNat
    · simp [isolate, descend, allowed]
    · simp [isolate, descend, allowed]
  rw [isolates left, isolates right]
  exact emptied.descend_bind rest

end Context.Alike

/-! ## Clauses -/

namespace Clause

private theorem bindAll_of_alike
    {clauses : List Clause}
    {left right : Context}
    (each : ∀ clause ∈ clauses, clause.bind left = clause.bind right) :
    bindAll clauses left = bindAll clauses right := by
  rw [bindAll_eq_all, bindAll_eq_all, List.map_congr_left each]

/-- A clause has one result in all contexts that are alike. They are general, as
operands are bound one level deeper and bodies with one more variable. -/
theorem bind_of_alike
    (clause : Clause)
    {left right : Context}
    (alike : left.Alike right) : clause.bind left = clause.bind right := by
  induction clause generalizing left right with
  | literal value type =>
      apply alike.descend_bind
      intro inner inner' _
      rfl
  | reference name =>
      apply alike.descend_bind
      intro inner inner' innerAlike
      rw [innerAlike.resolve]
  | member source name sourceAlike =>
      apply alike.descend_bind
      intro inner inner' innerAlike
      rw [sourceAlike innerAlike, Expression.bindMember_of_alike alike.catalog]
  | binary operator first second firstAlike secondAlike =>
      apply alike.descend_bind
      intro inner inner' innerAlike
      rw [firstAlike innerAlike, secondAlike innerAlike,
        Expression.bindBinary_of_alike alike.catalog]
  | unary operator operand operandAlike =>
      apply alike.descend_bind
      intro inner inner' innerAlike
      rw [operandAlike innerAlike]
  | call name arguments argumentsAlike =>
      apply alike.descend_bind
      intro inner inner' innerAlike
      rw [bindAll_of_alike fun argument member => argumentsAlike argument member innerAlike,
        Expression.bindCall_of_alike alike.catalog]
  | cast target operand operandAlike =>
      apply alike.descend_bind
      intro inner inner' innerAlike
      rw [operandAlike innerAlike, Expression.bindCast_of_alike alike.catalog]
  | quantified quantifier source name body sourceAlike bodyAlike =>
      apply alike.descend_bind
      intro inner inner' innerAlike
      rw [sourceAlike innerAlike]
      congr 1
      funext boundSource
      congr 1
      funext item
      apply innerAlike.declare_bind
      intro inside inside' insideAlike
      rw [bodyAlike insideAlike]
  | count source sourceAlike =>
      apply alike.descend_bind
      intro inner inner' innerAlike
      rw [sourceAlike innerAlike]
  | countWhere source name condition sourceAlike conditionAlike =>
      apply alike.descend_bind
      intro inner inner' innerAlike
      rw [sourceAlike innerAlike]
      congr 1
      funext boundSource
      congr 1
      funext item
      apply Context.Alike.isolate_bind innerAlike.catalog innerAlike.maxDepth innerAlike.depth
      intro isolated isolated' isolatedAlike
      apply isolatedAlike.declare_bind
      intro inside inside' insideAlike
      rw [conditionAlike insideAlike]

end Clause

/-! ## Filters and orders -/

namespace FilterClause

variable {left right : Context}

private theorem bindOver_of_alike
    (filter : FilterClause)
    (type : ValueType)
    (alike : left.Alike right) : filter.bindOver type left = filter.bindOver type right := by
  apply alike.declare_bind
  intro inside inside' insideAlike
  rw [filter.condition.bind_of_alike insideAlike]

theorem bindIn_of_alike
    (filter : FilterClause)
    (alike : left.Alike right)
    (elementType : left.elementType = right.elementType) :
    filter.bindIn left = filter.bindIn right := by
  rw [bindIn, bindIn, elementType]
  exact filter.bindOver_of_alike _ alike

end FilterClause

theorem Selector.bind_of_alike
    {left right : Context}
    (key : Clause)
    (direction : Direction)
    (rangeVariable : String)
    (alike : left.Alike right)
    (elementType : left.elementType = right.elementType) :
    Selector.bind key direction rangeVariable left =
      Selector.bind key direction rangeVariable right := by
  simp only [Selector.bind, elementType]
  apply alike.declare_bind
  intro inside inside' insideAlike
  rw [key.bind_of_alike insideAlike]

namespace OrderClause

variable {left right : Context}

private theorem bindTerms_of_alike
    (rangeVariable : String)
    (terms : List OrderTerm)
    (alike : left.Alike right)
    (elementType : left.elementType = right.elementType) :
    bindTerms rangeVariable left terms = bindTerms rangeVariable right terms := by
  induction terms with
  | nil => rfl
  | cons term rest inductionHypothesis =>
      simp only [bindTerms, Selector.bind_of_alike _ _ _ alike elementType, inductionHypothesis]

private theorem appendKey_of_alike
    (rangeVariable : String)
    (selectors : List Selector)
    (key : List String)
    (alike : left.Alike right)
    (elementType : left.elementType = right.elementType) :
    appendKey rangeVariable left selectors key = appendKey rangeVariable right selectors key := by
  induction key generalizing selectors with
  | nil => rfl
  | cons member rest inductionHypothesis =>
      simp only [appendKey, Selector.bind_of_alike _ _ _ alike elementType, inductionHypothesis]

private theorem elementKey_of_alike
    (alike : left.Alike right)
    (elementType : left.elementType = right.elementType) :
    elementKey left = elementKey right := by
  simp only [elementKey, elementType, alike.catalog.keyMembers]

theorem bindIn_of_alike
    (order : OrderClause)
    (alike : left.Alike right)
    (elementType : left.elementType = right.elementType)
    (stableOrder : left.configuration.stableOrder = right.configuration.stableOrder) :
    order.bindIn left = order.bindIn right := by
  simp only [bindIn, bindTerms_of_alike _ _ alike elementType,
    appendKey_of_alike _ _ _ alike elementType, elementKey_of_alike alike elementType, stableOrder]

end OrderClause

end ClauseBinding
