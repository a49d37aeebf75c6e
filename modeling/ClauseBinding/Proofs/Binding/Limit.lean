import ClauseBinding.Proofs.Binding.Depth

/-!
Contract: the binding of clauses and filters under different limits of depth.

Owns:
- outcomes under a lower limit beside those under a higher one, and outcomes that are
  exact at a limit;
- that a lower limit makes an outcome the failure of that limit, or leaves it as it is;
- that a filter is bound under exactly the limits that its levels fit.

Does not own: orders.

Of several failures the first one met is reported, be it that of the limit. That a clause
is bound under a limit follows from its derivation, which knows no limit. How it fails is
a matter of two runs side by side, as a clause without a derivation fails somewhere in
both.
-/

namespace ClauseBinding

open ClauseBinding.Outcome

/-! ## Outcomes -/

/-- An outcome under a lower limit beside that under a higher one: the same, or the failure
of the limit. -/
def Outcome.CutAt
    {α : Type}
    (limit : UInt64)
    (cut whole : Except Failure α) : Prop :=
  cut = whole ∨ cut = .error (.tooDeep limit)

/-- A value where a condition holds, and the failure of the limit where it does not. -/
structure Outcome.ExactAt
    {α : Type}
    (limit : UInt64)
    (fits : Prop)
    (outcome : Except Failure α)
    (value : α) : Prop where
  succeeds : fits → outcome = .ok value
  fails : ¬ fits → outcome = .error (.tooDeep limit)

namespace Outcome.ExactAt

variable {α β : Type} {limit : UInt64} {fits fitsToo : Prop}
variable {outcome : Except Failure α} {value : α}

theorem always (value : α) : ExactAt limit True (.ok value) value :=
  ⟨fun _ => rfl, fun never => absurd trivial never⟩

theorem of_iff
    (exact : ExactAt limit fits outcome value)
    (same : fits ↔ fitsToo) : ExactAt limit fitsToo outcome value :=
  ⟨fun holds => exact.succeeds (same.mpr holds), fun fails => exact.fails (mt same.mp fails)⟩

/-- A chain succeeds where both of its steps do. -/
theorem bind
    {next : α → Except Failure β}
    {result : β}
    (first : ExactAt limit fits outcome value)
    (rest : fits → ExactAt limit fitsToo (next value) result) :
    ExactAt limit (fits ∧ fitsToo) (outcome >>= next) result := by
  by_cases firstFits : fits
  · rw [first.succeeds firstFits, ok_bind]
    exact (rest firstFits).of_iff (and_iff_right firstFits).symm
  · rw [first.fails firstFits]
    exact ⟨fun both => absurd both.1 firstFits, fun _ => rfl⟩

theorem eq_ite
    [Decidable fits]
    (exact : ExactAt limit fits outcome value) :
    outcome = if fits then .ok value else .error (.tooDeep limit) := by
  split
  case isTrue holds => exact exact.succeeds holds
  case isFalse fails => exact exact.fails fails

end Outcome.ExactAt

namespace Outcome.CutAt

variable {α β : Type} {limit : UInt64}

theorem refl (outcome : Except Failure α) : CutAt limit outcome outcome :=
  .inl rfl

/-- A chain is cut where its first step is, or else where the rest is. -/
theorem bind
    {cut whole : Except Failure α}
    {next next' : α → Except Failure β}
    (first : CutAt limit cut whole)
    (rest : ∀ value, CutAt limit (next value) (next' value)) :
    CutAt limit (cut >>= next) (whole >>= next') := by
  rcases first with rfl | rfl
  · cases cut with
    | error failure => exact refl _
    | ok value => exact rest value
  · exact .inr rfl

end Outcome.CutAt

namespace Context

variable {α : Type} {context : Context} {lower upper : UInt64}
variable {next next' : Context → Except Failure α}

def limitedTo
    (context : Context)
    (limit : UInt64) : Context :=
  { context with configuration := { context.configuration with maxDepth := limit } }

/-- One level deeper is cut where the lower limit is reached, or else where the rest is. -/
theorem descend_cut
    (less : lower ≤ upper)
    (rest : ∀ inner : Context,
      CutAt lower (next (inner.limitedTo lower)) (next' (inner.limitedTo upper))) :
    CutAt lower ((context.limitedTo lower).descend >>= next)
      ((context.limitedTo upper).descend >>= next') := by
  by_cases allowed : context.depth < lower.toNat
  · have allowedToo : context.depth < upper.toNat :=
      Nat.lt_of_lt_of_le allowed (UInt64.le_iff_toNat_le.mp less)
    have lowerDescends : (context.limitedTo lower).descend =
        .ok (context.deeper.limitedTo lower) := if_pos allowed
    have upperDescends : (context.limitedTo upper).descend =
        .ok (context.deeper.limitedTo upper) := if_pos allowedToo
    rw [lowerDescends, upperDescends]
    exact rest context.deeper
  · have refused : (context.limitedTo lower).descend = .error (.tooDeep lower) :=
      if_neg allowed
    rw [refused]
    exact .inr rfl

theorem declare_cut
    {parameter : Parameter}
    (less : lower ≤ upper)
    (rest : ∀ inner : Context,
      CutAt lower (next (inner.limitedTo lower)) (next' (inner.limitedTo upper))) :
    CutAt lower ((context.limitedTo lower).declare parameter >>= next)
      ((context.limitedTo upper).declare parameter >>= next') := by
  simp only [declare, bind_assoc, pure_eq_ok, ok_bind]
  apply descend_cut less
  intro inner
  exact rest { inner with scope := parameter :: inner.scope }

private theorem isolate_cut
    (less : lower ≤ upper)
    (rest : ∀ inner : Context,
      CutAt lower (next (inner.limitedTo lower)) (next' (inner.limitedTo upper))) :
    CutAt lower ((context.limitedTo lower).isolate >>= next)
      ((context.limitedTo upper).isolate >>= next') := by
  simp only [isolate, bind_assoc, pure_eq_ok, ok_bind]
  apply descend_cut less
  intro inner
  exact rest { inner with scope := [] }

/-- What succeeds exactly if it is derived and its levels fit, and is cut by lower limits,
has the same result under every limit that its levels fit, and is too deep under every
other. -/
theorem limitedTo_exact
    {attempt : Context → Except Failure α}
    {derived : α → Prop}
    {levels : Nat}
    {enough : UInt64}
    {result : α}
    (exact : ∀ limit result, attempt (context.limitedTo limit) = .ok result ↔
      derived result ∧ (context.limitedTo limit).Fits levels)
    (cut : ∀ {lower upper : UInt64}, lower ≤ upper →
      CutAt lower (attempt (context.limitedTo lower)) (attempt (context.limitedTo upper)))
    (succeeds : attempt (context.limitedTo enough) = .ok result)
    (limit : UInt64) :
    ExactAt limit (context.depth + levels ≤ limit.toNat) (attempt (context.limitedTo limit))
      result := by
  obtain ⟨isDerived, fitted⟩ := (exact enough result).mp succeeds
  constructor
  · intro fits
    exact (exact limit result).mpr ⟨isDerived, fits⟩
  · intro narrow
    simp only [Fits, limitedTo] at fitted
    have less : limit ≤ enough := UInt64.le_iff_toNat_le.mpr (by omega)
    rcases cut less with same | tooDeep
    · rw [succeeds] at same
      exact absurd ((exact limit result).mp same).2 narrow
    · exact tooDeep

end Context

namespace Clause

variable {lower upper : UInt64}

private theorem bindAll_cut
    {clauses : List Clause}
    {context : Context}
    (each : ∀ clause ∈ clauses,
      CutAt lower (clause.bind (context.limitedTo lower)) (clause.bind (context.limitedTo upper))) :
    CutAt lower (bindAll clauses (context.limitedTo lower))
      (bindAll clauses (context.limitedTo upper)) := by
  induction clauses with
  | nil => exact .refl _
  | cons first rest inductionHypothesis =>
      obtain ⟨firstCut, restCut⟩ := List.forall_mem_cons.mp each
      apply firstCut.bind
      intro firstBound
      apply (inductionHypothesis restCut).bind
      intro restBound
      exact .refl _

/-- A lower limit cuts the binding of a clause, or leaves it as it is. -/
theorem bind_cut
    (clause : Clause)
    (context : Context)
    (less : lower ≤ upper) :
    CutAt lower (clause.bind (context.limitedTo lower))
      (clause.bind (context.limitedTo upper)) := by
  induction clause generalizing context with
  | literal | reference =>
      apply Context.descend_cut less
      intro inner
      exact .refl _
  | member source name sourceCut | count source sourceCut =>
      apply Context.descend_cut less
      intro inner
      exact (sourceCut inner).bind fun _ => .refl _
  | binary operator left right leftCut rightCut =>
      apply Context.descend_cut less
      intro inner
      exact (leftCut inner).bind fun _ => (rightCut inner).bind fun _ => .refl _
  | unary operator operand operandCut | cast target operand operandCut =>
      apply Context.descend_cut less
      intro inner
      exact (operandCut inner).bind fun _ => .refl _
  | call name arguments argumentsCut =>
      apply Context.descend_cut less
      intro inner
      exact (bindAll_cut fun argument member => argumentsCut argument member inner).bind
        fun _ => .refl _
  | quantified quantifier source name body sourceCut bodyCut =>
      apply Context.descend_cut less
      intro inner
      apply (sourceCut inner).bind
      intro boundSource
      apply (CutAt.refl _).bind
      intro item
      apply Context.declare_cut less
      intro inside
      exact (bodyCut inside).bind fun _ => .refl _
  | countWhere source name condition sourceCut conditionCut =>
      apply Context.descend_cut less
      intro inner
      apply (sourceCut inner).bind
      intro boundSource
      apply (CutAt.refl _).bind
      intro item
      apply Context.isolate_cut less
      intro isolated
      apply Context.declare_cut less
      intro inside
      exact (conditionCut inside).bind fun _ => .refl _

end Clause

/-! ## Filters -/

namespace FilterClause

/-- A filter is bound exactly if its condition has a derivation that makes a predicate,
and the levels of its range variable and its condition fit. -/
theorem bindOver_eq_ok_iff
    {filter : FilterClause}
    {type : ValueType}
    {context : Context}
    {predicate : Predicate} :
    filter.bindOver type context = .ok predicate ↔
      (∃ condition,
        Clause.Binds context.catalog (⟨filter.rangeVariable, type⟩ :: context.scope)
            filter.condition condition
          ∧ Predicate.ofCondition ⟨filter.rangeVariable, type⟩ condition = .ok predicate)
        ∧ context.Fits (1 + filter.condition.need) := by
  constructor
  · intro bound
    obtain ⟨inside, declares, bound⟩ := bind_eq_ok.mp bound
    obtain rfl := Context.eq_of_declare declares
    obtain ⟨condition, conditionBound, made⟩ := bind_eq_ok.mp bound
    have room := Clause.fits_of_bind conditionBound
    refine ⟨⟨condition, Clause.binds_of_bind conditionBound, made⟩, ?_⟩
    simp only [Context.Fits] at room ⊢
    omega
  · rintro ⟨⟨condition, binds, made⟩, fits⟩
    have conditionBound : filter.condition.bind { context.deeper with
        scope := ⟨filter.rangeVariable, type⟩ :: context.scope } = .ok condition :=
      Clause.bind_of_binds binds (fits.inside (Nat.le_refl _)) rfl rfl
    rw [bindOver, fits.declare, ok_bind, conditionBound, ok_bind, made]

theorem bindIn_cut
    {lower upper : UInt64}
    (filter : FilterClause)
    (context : Context)
    (less : lower ≤ upper) :
    CutAt lower (filter.bindIn (context.limitedTo lower))
      (filter.bindIn (context.limitedTo upper)) := by
  apply Context.declare_cut less
  intro inside
  exact (filter.condition.bind_cut inside less).bind fun _ => .refl _

/-- A filter that is bound under some limit is bound to the same under every limit that
its levels fit, and is too deep under every other. -/
theorem bindIn_limitedTo
    {filter : FilterClause}
    {context : Context}
    {enough : UInt64}
    {predicate : Predicate}
    (bound : filter.bindIn (context.limitedTo enough) = .ok predicate)
    (limit : UInt64) :
    ExactAt limit (context.depth + (1 + filter.condition.need) ≤ limit.toNat)
      (filter.bindIn (context.limitedTo limit)) predicate := by
  apply Context.limitedTo_exact _ (filter.bindIn_cut context) bound
  · exact fun predicate => ∃ condition,
      Clause.Binds context.catalog
          (⟨filter.rangeVariable, .required context.elementType⟩ :: context.scope)
          filter.condition condition
        ∧ Predicate.ofCondition ⟨filter.rangeVariable, .required context.elementType⟩ condition =
          .ok predicate
  · intro limit predicate
    exact bindOver_eq_ok_iff

end FilterClause

end ClauseBinding
