import ClauseBinding.Proofs.Binding.Limit
import ClauseBinding.Proofs.Meaning.Literals
import ClauseBinding.Proofs.Order.Independence
import ClauseBinding.Proofs.Scope.Filter

/-!
Contract: the depth limit is exact, and otherwise invisible.

Owns:
- the keys of an order, read off its terms: the terms, and what completes them;
- that a lower limit makes the outcome of an order the failure of that limit, or leaves it
  as it is;
- that an order is bound under exactly the limits that the deepest of its keys fits;
- both statements together with those for filters.

Does not own: the depth of clauses.

Which members complete an order is decided by the bound selectors. That the terms already
decide it needs that nothing but a member clause is bound to a read of the range variable.
-/

namespace ClauseBinding

open ClauseBinding.Outcome

/-! ## Members that a key reads -/

namespace Clause

/-- The member that a clause reads off a range variable, if it does nothing else. -/
def directMember?
    (rangeVariable : String) : Clause → Option String
  | .member (.reference name) read => if name = rangeVariable then some read else none
  | _ => none

/-- References are bound to parameters, members to reads, and nothing else to either. -/
theorem Binds.reads
    {catalog : Catalog}
    {scope : List Parameter}
    {clause : Clause}
    {expression : Expression}
    (binds : Binds catalog scope clause expression) :
    match clause with
    | .reference name => ∃ type, expression = .parameter name type
    | .member source name => ∃ boundSource type,
        Binds catalog scope source boundSource ∧ expression = .read boundSource name type
    | _ => expression.shape ≠ .parameter ∧ expression.shape ≠ .memberRead := by
  cases binds with
  | literal | count | countWhere => exact ⟨nofun, nofun⟩
  | reference found => exact ⟨_, rfl⟩
  | member sourceBinds bound =>
      obtain ⟨_, _, _, _, rfl⟩ := Expression.bindMember_eq_ok bound
      exact ⟨_, _, sourceBinds, rfl⟩
  | binary _ _ bound =>
      have computed := Expression.bindBinary_isComputed bound
      exact ⟨computed.notParameter, computed.notRead⟩
  | unary _ bound =>
      have computed := Expression.bindUnary_isComputed bound
      exact ⟨computed.notParameter, computed.notRead⟩
  | call _ _ bound =>
      obtain ⟨_, _, _, rfl⟩ := Expression.bindCall_eq_ok bound
      exact ⟨nofun, nofun⟩
  | cast _ bound => cases Expression.castRule_of_bind bound <;> exact ⟨nofun, nofun⟩
  | quantified _ _ _ bound =>
      obtain ⟨_, rfl⟩ := Expression.bindQuantified_eq_ok bound
      exact ⟨nofun, nofun⟩

end Clause

namespace Selector

/-- A selector reads directly what its key reads directly. -/
theorem directMember?_of_binds
    {catalog : Catalog}
    {scope : List Parameter}
    {key : Clause}
    {parameter : Parameter}
    {body : Expression}
    (direction : Direction)
    (binds : Clause.Binds catalog scope key body) :
    directMember? ⟨⟨parameter, body⟩, direction⟩ = key.directMember? parameter.name := by
  have reads := binds.reads
  unfold directMember?
  dsimp only
  split
  case h_1 name type read readType =>
    cases key with
    | member source _ =>
        obtain ⟨_, _, sourceBinds, same⟩ := reads
        cases same
        have sourceReads := sourceBinds.reads
        cases source with
        | reference _ =>
            obtain ⟨_, same⟩ := sourceReads
            cases same
            rfl
        | member =>
            obtain ⟨_, _, _, same⟩ := sourceReads
            cases same
        | _ => exact absurd rfl sourceReads.1
    | reference =>
        obtain ⟨_, same⟩ := reads
        cases same
    | _ => exact absurd rfl reads.2
  case h_2 indirect =>
    cases key with
    | member source _ =>
        obtain ⟨_, _, sourceBinds, same⟩ := reads
        cases source with
        | reference _ =>
            obtain ⟨_, rfl⟩ := sourceBinds.reads
            exact absurd same (indirect _ _ _ _)
        | _ => rfl
    | _ => rfl

/-- A selector is bound exactly if its key has a derivation of an orderable type, and the
levels of the range variable and the key fit. -/
theorem bind_eq_ok_iff
    {key : Clause}
    {direction : Direction}
    {rangeVariable : String}
    {context : Context}
    {selector : Selector} :
    Selector.bind key direction rangeVariable context = .ok selector ↔
      (∃ body,
        Clause.Binds context.catalog
            (⟨rangeVariable, .required context.elementType⟩ :: context.scope) key body
          ∧ body.data.isOrderable = true
          ∧ selector = ⟨⟨⟨rangeVariable, .required context.elementType⟩, body⟩, direction⟩)
        ∧ context.Fits (1 + key.need) := by
  constructor
  · intro bound
    refine ⟨bind_eq_ok bound, ?_⟩
    obtain ⟨inside, declares, bound⟩ := Outcome.bind_eq_ok.mp bound
    obtain rfl := Context.eq_of_declare declares
    obtain ⟨body, keyBound, -⟩ := Outcome.bind_eq_ok.mp bound
    have room := Clause.fits_of_bind keyBound
    simp only [Context.Fits] at room ⊢
    omega
  · rintro ⟨⟨body, binds, orderable, rfl⟩, fits⟩
    have keyBound : key.bind { context.deeper with
        scope := ⟨rangeVariable, .required context.elementType⟩ :: context.scope } = .ok body :=
      Clause.bind_of_binds binds (fits.inside (Nat.le_refl _)) rfl rfl
    rw [Selector.bind, fits.declare, ok_bind, keyBound, ok_bind, if_pos orderable]
    rfl

variable {key : Clause} {direction : Direction} {rangeVariable : String} {context : Context}

theorem bind_cut
    {lower upper : UInt64}
    (key : Clause)
    (direction : Direction)
    (rangeVariable : String)
    (context : Context)
    (less : lower ≤ upper) :
    CutAt lower (Selector.bind key direction rangeVariable (context.limitedTo lower))
      (Selector.bind key direction rangeVariable (context.limitedTo upper)) := by
  apply Context.declare_cut less
  intro inside
  exact (key.bind_cut inside less).bind fun _ => .refl _

private theorem bind_limitedTo
    {enough : UInt64}
    {selector : Selector}
    (bound : Selector.bind key direction rangeVariable (context.limitedTo enough) = .ok selector)
    (limit : UInt64) :
    ExactAt limit (context.depth + (1 + key.need) ≤ limit.toNat)
      (Selector.bind key direction rangeVariable (context.limitedTo limit)) selector := by
  apply Context.limitedTo_exact _ (bind_cut key direction rangeVariable context) bound
  · exact fun selector => ∃ body,
      Clause.Binds context.catalog
          (⟨rangeVariable, .required context.elementType⟩ :: context.scope) key body
        ∧ body.data.isOrderable = true
        ∧ selector = ⟨⟨⟨rangeVariable, .required context.elementType⟩, body⟩, direction⟩
  · intro limit selector
    exact bind_eq_ok_iff

end Selector

/-! ## Orders under limits -/

namespace OrderClause

variable {rangeVariable : String} {context : Context}

/-- The terms of an order are bound under exactly the limits that each of them fits. -/
theorem bindTerms_limitedTo
    {enough : UInt64}
    {terms : List OrderTerm}
    {selectors : List Selector}
    (bound : bindTerms rangeVariable (context.limitedTo enough) terms = .ok selectors)
    (limit : UInt64) :
    ExactAt limit (∀ term ∈ terms, context.depth + (1 + term.key.need) ≤ limit.toNat)
      (bindTerms rangeVariable (context.limitedTo limit) terms) selectors := by
  induction terms generalizing selectors with
  | nil =>
      obtain rfl := Except.ok.inj bound
      exact (ExactAt.always []).of_iff (by simp)
  | cons term rest inductionHypothesis =>
      obtain ⟨first, firstBound, bound⟩ := bind_eq_ok.mp bound
      obtain ⟨others, othersBound, bound⟩ := bind_eq_ok.mp bound
      obtain rfl := Except.ok.inj bound
      have firstExact := Selector.bind_limitedTo firstBound limit
      have othersExact := inductionHypothesis othersBound
      apply (firstExact.bind fun _ => othersExact.bind fun _ =>
        ExactAt.always (first :: others)).of_iff
      rw [and_true, List.forall_mem_cons]

/-- The completion of an order is bound under exactly the limits that the read of a member
fits, or under every limit if no member is missing. -/
theorem appendKey_limitedTo
    {enough : UInt64}
    {selectors completed : List Selector}
    {members : List String}
    (bound : appendKey rangeVariable (context.limitedTo enough) selectors members = .ok completed)
    (limit : UInt64) :
    ExactAt limit
      ((∀ member ∈ members, selectors.any (·.directMember? == some member) = true)
        ∨ context.depth + 3 ≤ limit.toNat)
      (appendKey rangeVariable (context.limitedTo limit) selectors members) completed := by
  induction members generalizing selectors with
  | nil =>
      obtain rfl := Except.ok.inj bound
      exact (ExactAt.always selectors).of_iff (by simp)
  | cons member rest inductionHypothesis =>
      unfold appendKey at bound ⊢
      by_cases isRead : selectors.any (·.directMember? == some member) = true
      · rw [if_pos isRead] at bound ⊢
        apply (inductionHypothesis bound).of_iff
        rw [List.forall_mem_cons, and_iff_right isRead]
      · rw [if_neg isRead] at bound ⊢
        obtain ⟨added, addedBound, bound⟩ := bind_eq_ok.mp bound
        have addedExact := Selector.bind_limitedTo addedBound limit
        apply (addedExact.bind fun _ => inductionHypothesis bound).of_iff
        constructor
        · exact fun both => .inr both.1
        · rintro (each | fits)
          · exact absurd (List.forall_mem_cons.mp each).1 isRead
          · exact ⟨fits, .inr fits⟩

/-- The selectors of some terms read directly what the terms read directly. -/
theorem any_directMember?_of_bindTerms
    {terms : List OrderTerm}
    {selectors : List Selector}
    (bound : bindTerms rangeVariable context terms = .ok selectors)
    (member : String) :
    selectors.any (·.directMember? == some member) =
      terms.any (·.key.directMember? rangeVariable == some member) := by
  induction terms generalizing selectors with
  | nil =>
      obtain rfl := Except.ok.inj bound
      rfl
  | cons term rest inductionHypothesis =>
      obtain ⟨first, firstBound, bound⟩ := bind_eq_ok.mp bound
      obtain ⟨others, othersBound, bound⟩ := bind_eq_ok.mp bound
      obtain rfl := Except.ok.inj bound
      obtain ⟨body, binds, -, rfl⟩ := Selector.bind_eq_ok firstBound
      rw [List.any_cons, List.any_cons, inductionHypothesis othersBound,
        Selector.directMember?_of_binds term.direction binds]

/-- The members that an order has to read: those of the key, if it is to be stable. -/
def keyMembers (context : Context) : List String :=
  if context.configuration.stableOrder then elementKey context else []

theorem bindIn_eq_appendKey
    (order : OrderClause)
    (context : Context) :
    order.bindIn context = bindTerms order.rangeVariable context order.terms >>= fun selectors =>
      appendKey order.rangeVariable context selectors (keyMembers context) := by
  unfold bindIn keyMembers
  split <;> rfl

/-- The keys of an order: those of its terms, and reads of the members that they miss. -/
def keys
    (order : OrderClause)
    (context : Context) : List Clause :=
  let missing := (keyMembers context).filter fun member =>
    !order.terms.any (·.key.directMember? order.rangeVariable == some member)
  order.terms.map (·.key) ++ missing.map (.member (.reference order.rangeVariable))

/-- Either there is no key, or the deepest one fits with the level of the range variable. -/
theorem keys_fit
    {clauses : List Clause}
    {depth limit : Nat} :
    (clauses = [] ∨ depth + 1 + Clause.needAll clauses ≤ limit) ↔
      ∀ clause ∈ clauses, depth + (1 + clause.need) ≤ limit := by
  constructor
  · rintro (rfl | fit)
    · exact fun _ absurd => nomatch absurd
    · intro clause member
      have least := Clause.needAll_le.mp (Nat.le_refl _) clause member
      omega
  · intro each
    cases clauses with
    | nil => exact .inl rfl
    | cons first rest =>
        have firstFits := each first List.mem_cons_self
        have together : Clause.needAll (first :: rest) ≤ limit - (depth + 1) := by
          apply Clause.needAll_le.mpr
          intro clause member
          have fits := each clause member
          omega
        exact .inr (by omega)

/-- An order that is bound under some limit is bound to the same under every limit that
its deepest key fits, and is too deep under every other. Without keys there is no other. -/
theorem bindIn_limitedTo
    {order : OrderClause}
    {enough : UInt64}
    {selectors : List Selector}
    (bound : order.bindIn (context.limitedTo enough) = .ok selectors)
    (limit : UInt64) :
    ExactAt limit
      (order.keys context = []
        ∨ context.depth + 1 + Clause.needAll (order.keys context) ≤ limit.toNat)
      (order.bindIn (context.limitedTo limit)) selectors := by
  rw [bindIn_eq_appendKey] at bound ⊢
  obtain ⟨ofTerms, termsBound, completed⟩ := bind_eq_ok.mp bound
  have termsExact := bindTerms_limitedTo termsBound limit
  have keyExact := appendKey_limitedTo completed limit
  have sameReads := any_directMember?_of_bindTerms termsBound
  apply (termsExact.bind fun _ => keyExact).of_iff
  rw [keys_fit, keys, List.forall_mem_append, List.forall_mem_map, List.forall_mem_map]
  apply and_congr_right'
  simp only [sameReads, List.mem_filter, Bool.not_eq_true']
  constructor
  · rintro (complete | fits) member ⟨isKey, missing⟩
    · rw [complete member isKey] at missing
      cases missing
    · exact fits
  · intro each
    by_cases complete : ∀ member ∈ keyMembers context,
        order.terms.any (·.key.directMember? order.rangeVariable == some member) = true
    · exact .inl complete
    · obtain ⟨member, isKey, missing⟩ := not_forall₂.mp complete
      exact .inr (each member ⟨isKey, Bool.eq_false_iff.mpr missing⟩)

private theorem bindTerms_cut
    {lower upper : UInt64}
    (terms : List OrderTerm)
    (less : lower ≤ upper) :
    CutAt lower (bindTerms rangeVariable (context.limitedTo lower) terms)
      (bindTerms rangeVariable (context.limitedTo upper) terms) := by
  induction terms with
  | nil => exact .refl _
  | cons term rest inductionHypothesis =>
      apply (Selector.bind_cut term.key term.direction rangeVariable context less).bind
      intro first
      exact inductionHypothesis.bind fun _ => .refl _

private theorem appendKey_cut
    {lower upper : UInt64}
    (selectors : List Selector)
    (members : List String)
    (less : lower ≤ upper) :
    CutAt lower (appendKey rangeVariable (context.limitedTo lower) selectors members)
      (appendKey rangeVariable (context.limitedTo upper) selectors members) := by
  induction members generalizing selectors with
  | nil => exact .refl _
  | cons member rest inductionHypothesis =>
      unfold appendKey
      by_cases isRead : selectors.any (·.directMember? == some member) = true
      · rw [if_pos isRead, if_pos isRead]
        exact inductionHypothesis selectors
      · rw [if_neg isRead, if_neg isRead]
        apply (Selector.bind_cut _ .ascending rangeVariable context less).bind
        intro added
        exact inductionHypothesis (selectors ++ [added])

/-- A lower limit cuts the binding of an order, or leaves it as it is. -/
theorem bindIn_cut
    {lower upper : UInt64}
    (order : OrderClause)
    (context : Context)
    (less : lower ≤ upper) :
    CutAt lower (order.bindIn (context.limitedTo lower))
      (order.bindIn (context.limitedTo upper)) := by
  rw [bindIn_eq_appendKey, bindIn_eq_appendKey]
  apply (bindTerms_cut order.terms less).bind
  intro selectors
  exact appendKey_cut selectors _ less

end OrderClause

/-- The depth limit is exact and otherwise invisible. A filter that is bound under some
limit is bound to the same predicate under exactly the limits that reach past the depth of
the context by the levels of its range variable and its condition. An order is bound to the
same selectors under exactly those that the deepest of its keys fits, or under all if it
has no keys. Every other limit is reported as exceeded. And whatever comes of a filter or
an order under a limit comes of it under every lower one too, unless that is reported as
exceeded. -/
theorem depth_limit_exact :
    (∀ (filter : FilterClause) (context : Context) (enough : UInt64) (predicate : Predicate),
        filter.bindIn (context.limitedTo enough) = .ok predicate →
          ∀ limit : UInt64,
            filter.bindIn (context.limitedTo limit) =
              if context.depth + 1 + filter.condition.need ≤ limit.toNat then .ok predicate
              else .error (.tooDeep limit))
      ∧ (∀ (filter : FilterClause) (context : Context) (lower upper : UInt64), lower ≤ upper →
        filter.bindIn (context.limitedTo lower) = filter.bindIn (context.limitedTo upper)
          ∨ filter.bindIn (context.limitedTo lower) = .error (.tooDeep lower))
      ∧ (∀ (order : OrderClause) (context : Context) (enough : UInt64)
          (selectors : List Selector),
        order.bindIn (context.limitedTo enough) = .ok selectors →
          ∀ limit : UInt64,
            order.bindIn (context.limitedTo limit) =
              if order.keys context = []
                  ∨ context.depth + 1 + Clause.needAll (order.keys context) ≤ limit.toNat
                then .ok selectors
              else .error (.tooDeep limit))
      ∧ ∀ (order : OrderClause) (context : Context) (lower upper : UInt64), lower ≤ upper →
        order.bindIn (context.limitedTo lower) = order.bindIn (context.limitedTo upper)
          ∨ order.bindIn (context.limitedTo lower) = .error (.tooDeep lower) := by
  refine ⟨?_, ?_, ?_, ?_⟩
  · intro filter context enough predicate bound limit
    rw [Nat.add_assoc]
    exact (FilterClause.bindIn_limitedTo bound limit).eq_ite
  · intro filter context lower upper less
    exact filter.bindIn_cut context less
  · intro order context enough selectors bound limit
    exact (OrderClause.bindIn_limitedTo bound limit).eq_ite
  · intro order context lower upper less
    exact order.bindIn_cut context less

/-- Orders with several pieces need eight levels. Items by group, completed by their
number, need three. -/
theorem depth_limit_exact_someSeveralPieces :
    (∃ predicate, ∀ limit : UInt64,
        FilterClause.someSeveralPieces.bindIn
            ((Context.start FilterClause.orderCatalog (.structured "Order") {}).limitedTo limit) =
          if 8 ≤ limit.toNat then .ok predicate else .error (.tooDeep limit))
      ∧ (∃ selectors, ∀ limit : UInt64,
        byGroup.bindIn
            ((Context.start itemCatalog (.structured "Item") ⟨100, true⟩).limitedTo limit) =
          if 3 ≤ limit.toNat then .ok selectors else .error (.tooDeep limit))
      ∧ ∀ clauses : FilterClause × OrderClause, ∀ context : Context,
        (clauses.1.bindIn (context.limitedTo 2) = clauses.1.bindIn (context.limitedTo 3)
            ∨ clauses.1.bindIn (context.limitedTo 2) = .error (.tooDeep 2))
          ∧ (clauses.2.bindIn (context.limitedTo 2) = clauses.2.bindIn (context.limitedTo 3)
            ∨ clauses.2.bindIn (context.limitedTo 2) = .error (.tooDeep 2)) := by
  obtain ⟨exactFilter, cutFilter, exactOrder, cutOrder⟩ := depth_limit_exact
  obtain ⟨predicate, _, _, _, _, filterBound, _⟩ := FilterClause.someSeveralPieces_binds
  have orderBound : ∃ selectors, byGroup.bindIn
      ((Context.start itemCatalog (.structured "Item") ⟨100, true⟩).limitedTo 100) =
        .ok selectors := ⟨_, rfl⟩
  obtain ⟨selectors, orderBound⟩ := orderBound
  have less : (2 : UInt64) ≤ 3 := by decide
  refine ⟨⟨predicate, ?_⟩, ⟨selectors, ?_⟩, ?_⟩
  · exact exactFilter _ (.start _ _ _) 100 predicate filterBound
  · intro limit
    have hasKeys : byGroup.keys (.start itemCatalog (.structured "Item") ⟨100, true⟩) =
      [.member (.reference "item") "group", .member (.reference "item") "id"] := rfl
    have deepest : (Context.start itemCatalog (.structured "Item") ⟨100, true⟩).depth + 1
        + Clause.needAll
          [.member (.reference "item") "group", .member (.reference "item") "id"] = 3 := rfl
    have exact := exactOrder byGroup (.start itemCatalog (.structured "Item") ⟨100, true⟩) 100
      selectors orderBound limit
    simpa only [hasKeys, deepest, List.cons_ne_nil, false_or] using exact
  · intro clauses context
    exact ⟨cutFilter clauses.1 context 2 3 less, cutOrder clauses.2 context 2 3 less⟩

end ClauseBinding
