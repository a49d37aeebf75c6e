import ClauseBinding.Proofs.Data.Order
import ClauseBinding.Proofs.Order.Keys
import ClauseBinding.Proofs.Soundness.Clause

/-!
Contract: the selectors that an order is bound to.

Owns:
- that each of them is a term of the order or a member of the key, bound to an expression
  of an orderable type;
- that every member of the key is read directly by one of them, if the order is to be
  stable, and what such a selector has as its key;
- that keys of conforming records conform, so that all present keys of a selector are of
  one type, and totally preordered if none is not-a-number.

Does not own: the sort.
-/

namespace ClauseBinding

open ClauseBinding.Outcome

namespace Selector

/-- A selector is its key, bound with the range variable in scope. -/
theorem bind_eq_ok
    {key : Clause}
    {direction : Direction}
    {rangeVariable : String}
    {context : Context}
    {selector : Selector}
    (bound : Selector.bind key direction rangeVariable context = .ok selector) :
    ∃ body,
      Clause.Binds context.catalog
          (⟨rangeVariable, .required context.elementType⟩ :: context.scope) key body
        ∧ body.data.isOrderable = true
        ∧ selector = ⟨⟨⟨rangeVariable, .required context.elementType⟩, body⟩, direction⟩ := by
  obtain ⟨inside, declares, remaining⟩ := Outcome.bind_eq_ok.mp bound
  obtain rfl := Context.eq_of_declare declares
  obtain ⟨body, keyBound, made⟩ := Outcome.bind_eq_ok.mp remaining
  have binds := Clause.binds_of_bind keyBound
  by_cases orderable : body.data.isOrderable = true
  · rw [if_pos orderable] at made
    exact ⟨body, binds, orderable, (Except.ok.inj made).symm⟩
  · rw [if_neg orderable] at made
    cases made

/-- The selector of a member reads that member directly. -/
theorem directMember?_of_bind
    {member rangeVariable : String}
    {direction : Direction}
    {context : Context}
    {selector : Selector}
    (bound : Selector.bind (.member (.reference rangeVariable) member) direction rangeVariable
      context = .ok selector) : selector.directMember? = some member := by
  obtain ⟨body, binds, -, rfl⟩ := bind_eq_ok bound
  cases binds with
  | member sourceBinds reads =>
      cases sourceBinds with
      | reference found =>
          obtain ⟨_, _, _, _, rfl⟩ := Expression.bindMember_eq_ok reads
          simp [directMember?]

/-- A selector that does nothing but read a member off its parameter. -/
def ReadsDirectly
    (selector : Selector)
    (member : String) : Prop :=
  ∃ type readType,
    selector.lambda.body = .read (.parameter selector.lambda.parameter.name type) member readType

theorem directMember?_eq_some_iff
    {selector : Selector}
    {member : String} : selector.directMember? = some member ↔ selector.ReadsDirectly member := by
  constructor
  · intro direct
    unfold directMember? at direct
    split at direct
    next name type read readType body =>
      by_cases same : name = selector.lambda.parameter.name
      · rw [if_pos same] at direct
        obtain rfl := Option.some.inj direct
        exact ⟨type, readType, by rw [body, same]⟩
      · rw [if_neg same] at direct
        cases direct
    next => cases direct
  · rintro ⟨type, readType, body⟩
    simp [directMember?, body]

instance (selector : Selector) (member : String) : Decidable (selector.ReadsDirectly member) :=
  decidable_of_iff _ directMember?_eq_some_iff

/-- The key of a selector that reads a member directly is that member. -/
theorem key_of_directMember?
    {selector : Selector}
    {member : String}
    (direct : selector.directMember? = some member)
    (record : Record) : selector.key record = .ok (record.read member) := by
  obtain ⟨type, readType, body⟩ := directMember?_eq_some_iff.mp direct
  have parameter : (Expression.parameter selector.lambda.parameter.name type).evaluate
      (Bindings.push [] selector.lambda.parameter.name (.record record)) =
        .ok (.record record) := by
    simp [Expression.evaluate, Bindings.lookup, Bindings.push, Table.find?]
  rw [key, sortKey, Lambda.apply, body]
  refine (Expression.evaluate_guardAbsence_of_single rfl rfl).trans ?_
  rw [Expression.guardNulls, parameter]
  simp [Value.isNull, Value.member]

end Selector

namespace OrderClause

private theorem mem_of_bindTerms
    {rangeVariable : String}
    {context : Context}
    {terms : List OrderTerm}
    {selectors : List Selector}
    (bound : bindTerms rangeVariable context terms = .ok selectors) :
    ∀ selector ∈ selectors, ∃ term ∈ terms,
      Selector.bind term.key term.direction rangeVariable context = .ok selector := by
  induction terms generalizing selectors with
  | nil =>
      obtain rfl := Except.ok.inj bound
      exact fun _ absurd => nomatch absurd
  | cons term rest inductionHypothesis =>
      obtain ⟨first, firstBound, remaining⟩ := bind_eq_ok.mp bound
      obtain ⟨others, othersBound, together⟩ := bind_eq_ok.mp remaining
      obtain rfl := Except.ok.inj together
      refine List.forall_mem_cons.mpr ⟨⟨term, List.mem_cons_self, firstBound⟩, ?_⟩
      intro selector member
      obtain ⟨other, isOther, otherBound⟩ := inductionHypothesis othersBound selector member
      exact ⟨other, List.mem_cons_of_mem term isOther, otherBound⟩

/-- Completion by a key only adds selectors of key members, and in the end every
member of the key is read directly. -/
theorem appendKey_eq_ok
    {rangeVariable : String}
    {context : Context}
    {selectors completed : List Selector}
    {key : List String}
    (bound : appendKey rangeVariable context selectors key = .ok completed) :
    selectors ⊆ completed
      ∧ (∀ selector ∈ completed, selector ∈ selectors ∨ ∃ member ∈ key,
        Selector.bind (.member (.reference rangeVariable) member) .ascending rangeVariable
          context = .ok selector)
      ∧ ∀ member ∈ key, ∃ selector ∈ completed, selector.directMember? = some member := by
  induction key generalizing selectors with
  | nil =>
      obtain rfl := Except.ok.inj bound
      exact ⟨fun _ => id, fun _ => .inl, fun _ absurd => nomatch absurd⟩
  | cons member rest inductionHypothesis =>
      unfold appendKey at bound
      by_cases isRead : selectors.any (·.directMember? == some member) = true
      · rw [if_pos isRead] at bound
        obtain ⟨kept, origin, reads⟩ := inductionHypothesis bound
        refine ⟨kept, ?_, List.forall_mem_cons.mpr ⟨?_, reads⟩⟩
        · intro selector isCompleted
          apply (origin selector isCompleted).imp_right
          rintro ⟨other, isOther, otherBound⟩
          exact ⟨other, List.mem_cons_of_mem member isOther, otherBound⟩
        · obtain ⟨selector, isSelector, direct⟩ := List.any_eq_true.mp isRead
          exact ⟨selector, kept isSelector, beq_iff_eq.mp direct⟩
      · rw [if_neg isRead] at bound
        obtain ⟨added, addedBound, bound⟩ := bind_eq_ok.mp bound
        obtain ⟨kept, origin, reads⟩ := inductionHypothesis bound
        have addedKept : added ∈ completed :=
          kept (List.mem_append_right _ (List.mem_singleton_self _))
        refine ⟨fun _ isSelector => kept (List.mem_append_left _ isSelector), ?_,
          List.forall_mem_cons.mpr ⟨⟨added, addedKept, Selector.directMember?_of_bind addedBound⟩,
            reads⟩⟩
        intro selector isCompleted
        rcases origin selector isCompleted with before | ⟨other, isOther, otherBound⟩
        · rcases List.mem_append.mp before with isSelector | isAdded
          · exact .inl isSelector
          · obtain rfl := List.mem_singleton.mp isAdded
            exact .inr ⟨member, List.mem_cons_self, addedBound⟩
        · exact .inr ⟨other, List.mem_cons_of_mem member isOther, otherBound⟩

/-- Each selector of an order is a term or a member of the key, bound. -/
theorem mem_of_bindIn
    {order : OrderClause}
    {context : Context}
    {selectors : List Selector}
    (bound : order.bindIn context = .ok selectors) :
    ∀ selector ∈ selectors, ∃ key direction,
      ((∃ term ∈ order.terms, key = term.key)
          ∨ ∃ member, key = .member (.reference order.rangeVariable) member)
        ∧ Selector.bind key direction order.rangeVariable context = .ok selector := by
  obtain ⟨terms, termsBound, remaining⟩ := bind_eq_ok.mp bound
  have ofTerm : ∀ selector ∈ terms, ∃ key direction,
      ((∃ term ∈ order.terms, key = term.key)
          ∨ ∃ member, key = .member (.reference order.rangeVariable) member)
        ∧ Selector.bind key direction order.rangeVariable context = .ok selector := by
    intro selector member
    obtain ⟨term, isTerm, termBound⟩ := mem_of_bindTerms termsBound selector member
    exact ⟨term.key, term.direction, .inl ⟨term, isTerm, rfl⟩, termBound⟩
  by_cases stable : context.configuration.stableOrder = true
  · rw [if_pos stable] at remaining
    intro selector isSelector
    rcases (appendKey_eq_ok remaining).2.1 selector isSelector with
      isTerm | ⟨member, -, memberBound⟩
    · exact ofTerm selector isTerm
    · exact ⟨_, _, .inr ⟨member, rfl⟩, memberBound⟩
  · rw [if_neg stable] at remaining
    obtain rfl := Except.ok.inj remaining
    exact ofTerm

/-- A stable order reads every member of the key directly. -/
theorem key_of_bindIn
    {order : OrderClause}
    {context : Context}
    {selectors : List Selector}
    (stable : context.configuration.stableOrder = true)
    (bound : order.bindIn context = .ok selectors) :
    ∀ member ∈ elementKey context, ∃ selector ∈ selectors,
      selector.directMember? = some member := by
  obtain ⟨terms, -, remaining⟩ := bind_eq_ok.mp bound
  rw [if_pos stable] at remaining
  exact (appendKey_eq_ok remaining).2.2

/-! ## Keys of conforming records -/

/-- A present key of a conforming record is of the type that the selector records. -/
theorem key_own_type
    {key : Clause}
    {direction : Direction}
    {rangeVariable : String}
    {context : Context}
    {selector : Selector}
    (conservative : context.catalog.conversions.Conservative)
    (literals : key.LiteralsConform context.catalog)
    (outermost : context.scope = [])
    (bound : Selector.bind key direction rangeVariable context = .ok selector)
    {record : Record}
    (conforms : (Value.record record).Conforms context.catalog (.required context.elementType))
    {value : Value}
    (isKey : selector.key record = .ok value)
    (present : value.isNull = false) : value.dataType? = some selector.lambda.body.data := by
  obtain ⟨body, binds, orderable, rfl⟩ := Selector.bind_eq_ok bound
  rw [outermost] at binds
  have sound := binds.sound conservative literals
  have conform : Bindings.Conform context.catalog
      [⟨rangeVariable, .required context.elementType⟩]
      (Bindings.push [] rangeVariable (.record record)) :=
    (Bindings.Conform.of_empty []).push conforms
  have keyConforms := (sound.conforms _ conform).of_ok isKey
  exact keyConforms.own_type present orderable

/-- The present keys of a selector of an order, for conforming records, are of one type. -/
theorem key_type_of_bindIn
    {order : OrderClause}
    {context : Context}
    {selectors : List Selector}
    (conservative : context.catalog.conversions.Conservative)
    (literals : ∀ term ∈ order.terms, term.key.LiteralsConform context.catalog)
    (outermost : context.scope = [])
    (bound : order.bindIn context = .ok selectors)
    {selector : Selector}
    (isSelector : selector ∈ selectors)
    {record : Record}
    (conforms : (Value.record record).Conforms context.catalog (.required context.elementType))
    {value : Value}
    (isKey : selector.key record = .ok value)
    (present : value.isNull = false) : value.dataType? = some selector.lambda.body.data := by
  obtain ⟨key, direction, origin, keyBound⟩ := mem_of_bindIn bound selector isSelector
  have keyLiterals : key.LiteralsConform context.catalog := by
    rcases origin with ⟨term, isTerm, rfl⟩ | ⟨member, rfl⟩
    · exact literals term isTerm
    · exact trivial
  exact key_own_type conservative keyLiterals outermost keyBound conforms isKey present

/-- The order of the present keys of a selector for conforming records is a total preorder
if none is not-a-number. -/
theorem keys_preordered
    {order : OrderClause}
    {context : Context}
    {selectors : List Selector}
    {records : List Record}
    (conservative : context.catalog.conversions.Conservative)
    (literals : ∀ term ∈ order.terms, term.key.LiteralsConform context.catalog)
    (outermost : context.scope = [])
    (bound : order.bindIn context = .ok selectors)
    (conform : ∀ record ∈ records,
      (Value.record record).Conforms context.catalog (.required context.elementType))
    {selector : Selector}
    (isSelector : selector ∈ selectors)
    (numbers : ∀ key, selector.PresentKey records key → ¬ key.IsNotANumber) :
    Value.TotallyPreordered (selector.PresentKey records) := by
  have ownType : ∀ {value}, selector.PresentKey records value →
      value.dataType? = some selector.lambda.body.data := by
    rintro value ⟨present, record, isRecord, isKey⟩
    exact key_type_of_bindIn conservative literals outermost bound isSelector
      (conform record isRecord) isKey present
  apply Value.totallyPreordered_of_compared
  intro left right leftPresent rightPresent
  exact Value.exists_compare? (ownType leftPresent) (ownType rightPresent)
    (numbers left leftPresent) (numbers right rightPresent)

end OrderClause

end ClauseBinding
