import ClauseBinding.Proofs.Binding.Dependence
import ClauseBinding.Proofs.Evaluation.Traversal
import ClauseBinding.Proofs.Order.Limit
import ClauseBinding.Proofs.Session.InPlace

/-!
Contract: an order is bound term by term, and then completed by the key members it misses.

Owns:
- the key members that some selectors miss, in the order of the key and each once;
- that completion appends a selector for each of them, and fails as the first that fails;
- that what a term is bound to does not depend on the terms before it.

Does not own: what a single term is bound to.

Completion looks for a key member among selectors that it appends to as it goes. That this
comes to the members missed at the start, each once, needs that an appended selector reads
its member directly, and no other one.
-/

namespace ClauseBinding

open ClauseBinding.Outcome

namespace OrderClause

variable {rangeVariable : String} {context : Context} {own : List Selector} {key : List String}

/-- Terms are bound one after the other. -/
theorem bindTerms_eq_mapM (terms : List OrderTerm) :
    bindTerms rangeVariable context terms =
      terms.mapM fun term => Selector.bind term.key term.direction rangeVariable context := by
  induction terms with
  | nil => rfl
  | cons term rest inductionHypothesis =>
      rw [bindTerms, inductionHypothesis, List.mapM_cons]

/-! ## Missing key members -/

/-- The key members that none of some selectors reads directly, each once. -/
def missingKeys
    (own : List Selector)
    (key : List String) : List String :=
  (key.filter fun member => ∀ selector ∈ own, ¬ selector.ReadsDirectly member).eraseDups

private theorem any_directMember?_iff
    {member : String} :
    own.any (·.directMember? == some member) = true ↔
      ∃ selector ∈ own, selector.ReadsDirectly member := by
  simp only [List.any_eq_true, beq_iff_eq, Selector.directMember?_eq_some_iff]

private theorem missingKeys_cons_of_read
    {member : String}
    (isRead : ∃ selector ∈ own, selector.ReadsDirectly member) :
    missingKeys own (member :: key) = missingKeys own key := by
  have notMissing : ¬ ∀ selector ∈ own, ¬ selector.ReadsDirectly member := by
    obtain ⟨selector, isOwn, reads⟩ := isRead
    exact fun missing => missing selector isOwn reads
  simp only [missingKeys, List.filter_cons, notMissing, decide_false, Bool.false_eq_true, if_false]

private theorem missingKeys_cons_of_missing
    {member : String}
    (missing : ¬ ∃ selector ∈ own, selector.ReadsDirectly member) :
    missingKeys own (member :: key) =
      member :: ((key.filter fun other => ∀ selector ∈ own, ¬ selector.ReadsDirectly other).filter
        fun other => !other == member).eraseDups := by
  have isMissing : ∀ selector ∈ own, ¬ selector.ReadsDirectly member := fun selector isOwn isRead =>
    missing ⟨selector, isOwn, isRead⟩
  rw [missingKeys, List.filter_cons, if_pos (decide_eq_true isMissing), List.eraseDups_cons]

/-- Once a missing member is read, what is missing besides it is what is missing still. -/
theorem missingKeys_append
    {member : String}
    {added : Selector}
    (reads : ∀ other, added.ReadsDirectly other ↔ other = member) :
    ((key.filter fun other => ∀ selector ∈ own, ¬ selector.ReadsDirectly other).filter
        fun other => !other == member).eraseDups =
      missingKeys (own ++ [added]) key := by
  rw [List.filter_filter, missingKeys]
  congr 1
  apply List.filter_congr
  intro other _
  rw [Bool.eq_iff_iff, decide_eq_true_eq, List.forall_mem_append, List.forall_mem_singleton, reads]
  simp [and_comm]

private theorem readsDirectly_of_bind
    {member : String}
    {added : Selector}
    (bound : Selector.bind (.member (.reference rangeVariable) member) .ascending rangeVariable
      context = .ok added)
    (other : String) : added.ReadsDirectly other ↔ other = member := by
  rw [← Selector.directMember?_eq_some_iff, Selector.directMember?_of_bind bound, Option.some.injEq,
    eq_comm]

/-- Completion appends a selector for each member that is missing at the start. -/
theorem appendKey_eq_mapM
    (own : List Selector)
    (key : List String) :
    appendKey rangeVariable context own key =
      (missingKeys own key).mapM (fun member =>
        Selector.bind (.member (.reference rangeVariable) member) .ascending rangeVariable context)
      >>= fun appended => pure (own ++ appended) := by
  induction key generalizing own with
  | nil => simp [appendKey, missingKeys, pure_eq_ok]
  | cons member rest inductionHypothesis =>
      rw [appendKey]
      by_cases isRead : ∃ selector ∈ own, selector.ReadsDirectly member
      · rw [if_pos (any_directMember?_iff.mpr isRead), missingKeys_cons_of_read isRead]
        exact inductionHypothesis own
      · rw [if_neg (mt any_directMember?_iff.mp isRead), missingKeys_cons_of_missing isRead,
          List.mapM_cons]
        cases outcome : Selector.bind (.member (.reference rangeVariable) member) .ascending
            rangeVariable context with
        | error failure => rfl
        | ok added =>
            rw [ok_bind, ok_bind, inductionHypothesis,
              missingKeys_append (readsDirectly_of_bind outcome)]
            simp only [bind_assoc, pure_bind, List.append_assoc, List.singleton_append]

private theorem bindIn_eq_mapM
    (order : OrderClause)
    (context : Context) :
    order.bindIn context =
      (order.terms.mapM fun term =>
        Selector.bind term.key term.direction order.rangeVariable context)
      >>= fun own =>
        ((missingKeys own (keyMembers context)).mapM fun member =>
          Selector.bind (.member (.reference order.rangeVariable) member) .ascending
            order.rangeVariable context)
        >>= fun appended => pure (own ++ appended) := by
  rw [bindIn_eq_appendKey, bindTerms_eq_mapM]
  simp only [appendKey_eq_mapM]

/-! ## Terms alone -/

def outcome
    (order : OrderClause)
    (context : Context) : Except Failure (List Selector) :=
  ((bindInPlace (some order)).run.run context).1

private theorem outcome_eq_bindIn
    (order : OrderClause)
    (context : Context) : order.outcome context = order.bindIn context :=
  congrArg Prod.fst (bindInPlace_yields (some order) context)

end OrderClause

namespace OrderTerm

variable {rangeVariable : String} {context : Context} {term : OrderTerm} {selector : Selector}

def ofKey
    (rangeVariable member : String) : OrderTerm :=
  ⟨.member (.reference rangeVariable) member, .ascending⟩

/-- What an order of one term is bound to, if orders are not completed. -/
def alone
    (term : OrderTerm)
    (rangeVariable : String)
    (context : Context) : Except Failure (List Selector) :=
  OrderClause.outcome ⟨[term], rangeVariable⟩
    { context with configuration := { context.configuration with stableOrder := false } }

private theorem alone_eq_bind :
    term.alone rangeVariable context =
      Selector.bind term.key term.direction rangeVariable context >>= fun selector =>
        pure [selector] := by
  let unstable : Context :=
    { context with configuration := { context.configuration with stableOrder := false } }
  have alike : unstable.Alike context := ⟨.refl _, rfl, rfl, rfl⟩
  rw [alone, OrderClause.outcome_eq_bindIn, OrderClause.bindIn_eq_mapM, List.mapM_cons, List.mapM_nil,
    Selector.bind_of_alike term.key term.direction rangeVariable alike rfl]
  cases Selector.bind term.key term.direction rangeVariable context <;> rfl

/-- A selector is what a term alone is bound to. It has the direction of the term, and takes
an element for the range variable. -/
structure BoundAlone
    (rangeVariable : String)
    (context : Context)
    (term : OrderTerm)
    (selector : Selector) : Prop where
  alone : term.alone rangeVariable context = .ok [selector]
  direction : selector.direction = term.direction
  parameter : selector.lambda.parameter = ⟨rangeVariable, .required context.elementType⟩

private theorem boundAlone_iff :
    BoundAlone rangeVariable context term selector ↔
      Selector.bind term.key term.direction rangeVariable context = .ok selector := by
  constructor
  · intro bound
    have alone := bound.alone
    rw [alone_eq_bind] at alone
    obtain ⟨same, isBound, single⟩ := bind_eq_ok.mp alone
    obtain rfl := List.singleton_inj.mp (Except.ok.inj single)
    exact isBound
  · intro bound
    obtain ⟨body, -, -, isSelector⟩ := Selector.bind_eq_ok bound
    refine ⟨?_, congrArg Selector.direction isSelector,
      congrArg (fun selector => selector.lambda.parameter) isSelector⟩
    rw [alone_eq_bind, bound]
    rfl

private theorem forall₂_boundAlone_iff
    {terms : List OrderTerm}
    {selectors : List Selector} :
    List.Forall₂ (BoundAlone rangeVariable context) terms selectors ↔
      (terms.mapM fun term => Selector.bind term.key term.direction rangeVariable context) =
        .ok selectors := by
  rw [mapM_eq_ok_iff]
  constructor <;> refine List.Forall₂.imp fun _ _ => ?_
  · exact boundAlone_iff.mp
  · exact boundAlone_iff.mpr

end OrderTerm

namespace OrderClause

/-- Whether an order over the elements of a context is completed, and by the key of which
type. -/
def Completed
    (context : Context)
    (type : StructuredType) : Prop :=
  context.configuration.stableOrder = true
    ∧ ∃ typeName,
      context.elementType = .structured typeName ∧ context.catalog.type? typeName = some type

private theorem keyMembers_of_completed
    {context : Context}
    {type : StructuredType}
    (completed : Completed context type) : keyMembers context = type.key := by
  obtain ⟨stable, typeName, structured, registered⟩ := completed
  simp [keyMembers, stable, elementKey, structured, Catalog.keyMembers, registered]

private theorem keyMembers_of_not_completed
    {context : Context}
    (notCompleted : ¬ ∃ type, Completed context type) : keyMembers context = [] := by
  unfold keyMembers elementKey Catalog.keyMembers
  split
  case isFalse => rfl
  case isTrue stable =>
    split
    case h_2 => rfl
    case h_1 typeName structured =>
      split
      case h_2 => rfl
      case h_1 type registered =>
        exact absurd ⟨type, stable, typeName, structured, registered⟩ notCompleted

/-- An order maps its terms one to one and appends exactly the key members it misses. Its
first selectors are what each term alone is bound to. The others read directly, ascending,
the key members that none of those reads directly, in the order of the key and each once.
And it fails exactly as the first term that fails alone, or else as the first missing key
member that does. -/
theorem completes_terms
    (order : OrderClause)
    (context : Context) :
    (∀ selectors, order.outcome context = .ok selectors →
        ∃ own appended,
          selectors = own ++ appended
            ∧ List.Forall₂ (OrderTerm.BoundAlone order.rangeVariable context) order.terms own
            ∧ ((¬ ∃ type, Completed context type) → appended = [])
            ∧ ∀ type, Completed context type →
              List.Forall₂
                (fun member selector =>
                  selector.ReadsDirectly member
                    ∧ selector.direction = .ascending
                    ∧ OrderTerm.BoundAlone order.rangeVariable context
                      (.ofKey order.rangeVariable member) selector)
                (missingKeys own type.key) appended)
      ∧ ∀ failure, order.outcome context = .error failure ↔
        FirstFails (fun term => term.alone order.rangeVariable context) order.terms failure
          ∨ ∃ own type,
            List.Forall₂ (OrderTerm.BoundAlone order.rangeVariable context) order.terms own
              ∧ Completed context type
              ∧ FirstFails
                (fun member =>
                  (OrderTerm.ofKey order.rangeVariable member).alone order.rangeVariable context)
                (missingKeys own type.key) failure := by
  simp only [outcome_eq_bindIn, bindIn_eq_mapM, OrderTerm.forall₂_boundAlone_iff,
    OrderTerm.alone_eq_bind, firstFails_map_iff]
  constructor
  case left =>
    intro selectors bound
    obtain ⟨own, ownBound, bound⟩ := bind_eq_ok.mp bound
    obtain ⟨appended, appendedBound, together⟩ := bind_eq_ok.mp bound
    obtain rfl := Except.ok.inj together
    rw [mapM_eq_ok_iff] at appendedBound
    refine ⟨own, appended, rfl, ownBound, ?_, ?_⟩
    · intro notCompleted
      rw [keyMembers_of_not_completed notCompleted] at appendedBound
      exact List.forall₂_nil_left_iff.mp appendedBound
    · intro type completed
      rw [keyMembers_of_completed completed] at appendedBound
      refine appendedBound.imp ?_
      intro member selector bound
      have boundAlone : OrderTerm.BoundAlone order.rangeVariable context
          (.ofKey order.rangeVariable member) selector := OrderTerm.boundAlone_iff.mpr bound
      exact ⟨(readsDirectly_of_bind bound member).mpr rfl, boundAlone.direction, boundAlone⟩
  case right =>
    intro failure
    rw [bind_eq_error, mapM_eq_error_iff]
    refine or_congr Iff.rfl (exists_congr fun own => ?_)
    rw [bind_eq_error, mapM_eq_error_iff]
    constructor
    · rintro ⟨ownBound, fails | ⟨_, -, absurd⟩⟩
      · by_cases completed : ∃ type, Completed context type
        · obtain ⟨type, completed⟩ := completed
          rw [keyMembers_of_completed completed] at fails
          exact ⟨type, ownBound, completed, fails⟩
        · rw [keyMembers_of_not_completed completed] at fails
          cases fails
      · cases absurd
    · rintro ⟨type, ownBound, completed, fails⟩
      rw [keyMembers_of_completed completed]
      exact ⟨ownBound, .inl fails⟩

end OrderClause

end ClauseBinding
