import ClauseBinding.Proofs.Clause.Derivation

/-!
Contract: how deep the binding of a clause goes.

Owns:
- the levels that a clause needs, read off its tree;
- contexts that have room for some levels;
- that a clause is bound exactly when there is a derivation for it and its levels fit.

Does not own: other limits than that of the context.

A level is taken by every node, every range variable and every isolated scope.
-/

namespace ClauseBinding

open ClauseBinding.Outcome

/-! ## Levels -/

namespace Clause

mutual

/-- The levels of depth that a clause needs where it stands. -/
def need : Clause → Nat
  | .literal _ _ => 1
  | .reference _ => 1
  | .member source _ => 1 + need source
  | .binary _ left right => 1 + max (need left) (need right)
  | .unary _ operand => 1 + need operand
  | .call _ arguments => 1 + needAll arguments
  | .cast _ operand => 1 + need operand
  | .quantified _ source _ body => 1 + max (need source) (1 + need body)
  | .count source => 1 + need source
  | .countWhere source _ condition => 1 + max (need source) (2 + need condition)
termination_by structural clause => clause

def needAll : List Clause → Nat
  | [] => 0
  | first :: rest => max (need first) (needAll rest)
termination_by structural clauses => clauses

end

theorem needAll_le
    {clauses : List Clause}
    {levels : Nat} :
    needAll clauses ≤ levels ↔ ∀ clause ∈ clauses, clause.need ≤ levels := by
  induction clauses with
  | nil => simp [needAll]
  | cons first rest inductionHypothesis =>
      rw [needAll, Nat.max_le, inductionHypothesis, List.forall_mem_cons]

end Clause

namespace Context

variable {context inner : Context} {levels fewer : Nat}

/-- Whether so many more levels stay within the configured depth. -/
def Fits
    (context : Context)
    (levels : Nat) : Prop :=
  context.depth + levels ≤ context.configuration.maxDepth.toNat

abbrev deeper (context : Context) : Context :=
  { context with depth := context.depth + 1 }

private theorem descend_eq_ok :
    context.descend = .ok inner ↔ context.Fits 1 ∧ inner = context.deeper := by
  unfold descend Fits
  split
  case isTrue allowed =>
    constructor
    · intro descends
      exact ⟨allowed, (Except.ok.inj descends).symm⟩
    · rintro ⟨-, rfl⟩
      rfl
  case isFalse refused =>
    constructor
    · intro descends
      cases descends
    · rintro ⟨allowed, -⟩
      exact absurd allowed refused

/-- What goes on one level deeper had room for that level. -/
theorem fits_of_descend_bind
    {α : Type}
    {next : Context → Except Failure α}
    {result : α}
    (succeeds : context.descend >>= next = .ok result) :
    context.Fits 1 ∧ next context.deeper = .ok result := by
  obtain ⟨inner, descends, succeeds⟩ := bind_eq_ok.mp succeeds
  obtain ⟨fits, rfl⟩ := descend_eq_ok.mp descends
  exact ⟨fits, succeeds⟩

namespace Fits

/-- Of the levels that fit, one is taken and fewer are left. -/
theorem inside
    (fits : context.Fits (1 + levels))
    (less : fewer ≤ levels) : context.deeper.Fits fewer := by
  simp only [Fits] at fits ⊢
  omega

theorem descend (fits : context.Fits (1 + levels)) : context.descend = .ok context.deeper := by
  apply descend_eq_ok.mpr
  refine ⟨?_, rfl⟩
  simp only [Fits] at fits ⊢
  omega

theorem declare
    (fits : context.Fits (1 + levels))
    (parameter : Parameter) :
    context.declare parameter =
      .ok { context.deeper with scope := parameter :: context.scope } := by
  rw [Context.declare, fits.descend]
  rfl

theorem isolate (fits : context.Fits (1 + levels)) :
    context.isolate = .ok { context.deeper with scope := [] } := by
  rw [Context.isolate, fits.descend]
  rfl

end Fits

end Context

/-! ## Derivations and room -/

private theorem Expression.itemType_of_element?
    {operation : String}
    {source : Expression}
    {item : ValueType}
    (collected : source.data.element? = some item) : itemType operation source = .ok item := by
  rw [itemType, collected]

/-- A condition that is never unknown once it is guarded makes a predicate. -/
theorem Predicate.ofCondition_of_truth
    {parameter : Parameter}
    {condition : Expression}
    (isTruth : condition.guardCondition.type = .required .bool) :
    ofCondition parameter condition = .ok ⟨⟨parameter, condition.guardCondition⟩, isTruth⟩ :=
  dif_pos isTruth

namespace Clause

/-- A clause that is bound had the levels that it needs. -/
theorem fits_of_bind
    {clause : Clause}
    {context : Context}
    {expression : Expression}
    (bound : clause.bind context = .ok expression) : context.Fits clause.need := by
  induction clause generalizing context expression with
  | literal | reference => exact (Context.fits_of_descend_bind bound).1
  | member source name sourceFits =>
      obtain ⟨-, bound⟩ := Context.fits_of_descend_bind bound
      obtain ⟨boundSource, sourceBound, -⟩ := bind_eq_ok.mp bound
      have sourceRoom := sourceFits sourceBound
      simp only [Context.Fits, need] at sourceRoom ⊢
      omega
  | binary operator left right leftFits rightFits =>
      obtain ⟨-, bound⟩ := Context.fits_of_descend_bind bound
      obtain ⟨boundLeft, leftBound, bound⟩ := bind_eq_ok.mp bound
      obtain ⟨boundRight, rightBound, -⟩ := bind_eq_ok.mp bound
      have leftRoom := leftFits leftBound
      have rightRoom := rightFits rightBound
      simp only [Context.Fits, need] at leftRoom rightRoom ⊢
      omega
  | unary operator operand operandFits | cast target operand operandFits =>
      obtain ⟨-, bound⟩ := Context.fits_of_descend_bind bound
      obtain ⟨boundOperand, operandBound, -⟩ := bind_eq_ok.mp bound
      have operandRoom := operandFits operandBound
      simp only [Context.Fits, need] at operandRoom ⊢
      omega
  | call name arguments argumentsFit =>
      obtain ⟨room, bound⟩ := Context.fits_of_descend_bind bound
      obtain ⟨boundArguments, argumentsBound, -⟩ := bind_eq_ok.mp bound
      have paired := (List.forall₂_and_left _ _).mpr
        ⟨fun _ member => member, bindAll_eq_ok.mp argumentsBound⟩
      have each := ((List.forall₂_and_left _ _).mp (paired.imp fun argument _ both =>
        ⟨argumentsFit argument both.1 both.2, both.2⟩)).1
      have together : needAll arguments ≤
          context.configuration.maxDepth.toNat - (context.depth + 1) := by
        apply needAll_le.mpr
        intro argument member
        have argumentRoom := each argument member
        simp only [Context.Fits] at argumentRoom
        omega
      simp only [Context.Fits, need] at room ⊢
      omega
  | quantified quantifier source name body sourceFits bodyFits =>
      obtain ⟨-, bound⟩ := Context.fits_of_descend_bind bound
      obtain ⟨boundSource, sourceBound, bound⟩ := bind_eq_ok.mp bound
      obtain ⟨item, typed, bound⟩ := bind_eq_ok.mp bound
      obtain ⟨inside, declares, bound⟩ := bind_eq_ok.mp bound
      obtain rfl := Context.eq_of_declare declares
      obtain ⟨boundBody, bodyBound, -⟩ := bind_eq_ok.mp bound
      have sourceRoom := sourceFits sourceBound
      have bodyRoom := bodyFits bodyBound
      simp only [Context.Fits, need] at sourceRoom bodyRoom ⊢
      omega
  | count source sourceFits =>
      obtain ⟨-, bound⟩ := Context.fits_of_descend_bind bound
      obtain ⟨boundSource, sourceBound, -⟩ := bind_eq_ok.mp bound
      have sourceRoom := sourceFits sourceBound
      simp only [Context.Fits, need] at sourceRoom ⊢
      omega
  | countWhere source name condition sourceFits conditionFits =>
      obtain ⟨-, bound⟩ := Context.fits_of_descend_bind bound
      obtain ⟨boundSource, sourceBound, bound⟩ := bind_eq_ok.mp bound
      obtain ⟨item, typed, bound⟩ := bind_eq_ok.mp bound
      obtain ⟨isolated, isolates, bound⟩ := bind_eq_ok.mp bound
      obtain rfl := Context.eq_of_isolate isolates
      obtain ⟨inside, declares, bound⟩ := bind_eq_ok.mp bound
      obtain rfl := Context.eq_of_declare declares
      obtain ⟨boundCondition, conditionBound, -⟩ := bind_eq_ok.mp bound
      have sourceRoom := sourceFits sourceBound
      have conditionRoom := conditionFits conditionBound
      simp only [Context.Fits, need] at sourceRoom conditionRoom ⊢
      omega

/-- What has a derivation in the scope of a context is bound there, if its levels fit.
The context is general, as its depth and scope change on the way down. -/
theorem bind_of_binds
    {catalog : Catalog}
    {scope : List Parameter}
    {clause : Clause}
    {expression : Expression}
    {context : Context}
    (binds : Binds catalog scope clause expression)
    (fits : context.Fits clause.need)
    (sameCatalog : context.catalog = catalog)
    (sameScope : context.scope = scope) : clause.bind context = .ok expression := by
  induction binds generalizing context with
  | literal value type =>
      have descends := Context.descend_eq_ok.mpr ⟨fits, rfl⟩
      rw [bind, descends]
      rfl
  | reference found =>
      have descends := Context.descend_eq_ok.mpr ⟨fits, rfl⟩
      rw [bind, descends, ok_bind, Context.resolve, sameScope, found]
      rfl
  | member _ bound sourceBinds =>
      have sourceBound := sourceBinds (fits.inside (Nat.le_refl _)) sameCatalog sameScope
      rw [bind, fits.descend, ok_bind, sourceBound, ok_bind, sameCatalog, bound]
  | binary _ _ bound leftBinds rightBinds =>
      have leftBound := leftBinds (fits.inside (Nat.le_max_left _ _)) sameCatalog sameScope
      have rightBound := rightBinds (fits.inside (Nat.le_max_right _ _)) sameCatalog sameScope
      rw [bind, fits.descend, ok_bind, leftBound, ok_bind, rightBound, ok_bind, sameCatalog, bound]
  | unary _ bound operandBinds =>
      have operandBound := operandBinds (fits.inside (Nat.le_refl _)) sameCatalog sameScope
      rw [bind, fits.descend, ok_bind, operandBound, ok_bind, bound]
  | @call scope name arguments boundArguments expression paired _ bound argumentsBind =>
      have each : bindAll arguments context.deeper = .ok boundArguments := by
        apply bindAll_eq_ok.mpr
        apply List.forall₂_iff_zip.mpr ⟨paired, _⟩
        intro argument boundArgument isPaired
        have least : argument.need ≤ needAll arguments :=
          needAll_le.mp (Nat.le_refl _) argument (List.of_mem_zip isPaired).1
        exact argumentsBind argument boundArgument isPaired (fits.inside least) sameCatalog
          sameScope
      rw [bind, fits.descend, ok_bind, each, ok_bind, sameCatalog, bound]
  | cast _ bound operandBinds =>
      have operandBound := operandBinds (fits.inside (Nat.le_refl _)) sameCatalog sameScope
      rw [bind, fits.descend, ok_bind, operandBound, ok_bind, sameCatalog, bound]
  | @quantified scope quantifier source body name item _ _ _ _ collected _ bound sourceBinds
      bodyBinds =>
      have sourceBound := sourceBinds (fits.inside (Nat.le_max_left _ _)) sameCatalog sameScope
      have inside : context.deeper.Fits (1 + body.need) := fits.inside (Nat.le_max_right _ _)
      have bodyBound := @bodyBinds { context.deeper.deeper with
        scope := ⟨name, item⟩ :: context.scope } (inside.inside (Nat.le_refl _)) sameCatalog
        (by rw [sameScope])
      rw [bind, fits.descend, ok_bind, sourceBound, ok_bind,
        Expression.itemType_of_element? collected, ok_bind, inside.declare, ok_bind, bodyBound,
        ok_bind, bound]
  | count _ collected sourceBinds =>
      have sourceBound := sourceBinds (fits.inside (Nat.le_refl _)) sameCatalog sameScope
      rw [bind, fits.descend, ok_bind, sourceBound, ok_bind,
        Expression.itemType_of_element? collected]
      rfl
  | @countWhere scope source condition name item _ _ _ collected _ isTruth sourceBinds
      conditionBinds =>
      have sourceBound := sourceBinds (fits.inside (Nat.le_max_left _ _)) sameCatalog sameScope
      have isolated : context.deeper.Fits (1 + (1 + condition.need)) :=
        fits.inside (by omega)
      have inside : Context.Fits { context.deeper.deeper with scope := [] }
          (1 + condition.need) := isolated.inside (Nat.le_refl _)
      have conditionBound := @conditionBinds { context.deeper.deeper.deeper with
        scope := [⟨name, item⟩] } (inside.inside (Nat.le_refl _)) sameCatalog rfl
      rw [bind, fits.descend, ok_bind, sourceBound, ok_bind,
        Expression.itemType_of_element? collected, ok_bind, isolated.isolate, ok_bind,
        inside.declare, ok_bind, conditionBound, ok_bind,
        Predicate.ofCondition_of_truth isTruth]
      rfl

/-- A clause is bound exactly to what it has a derivation for, and exactly if its levels
fit. -/
theorem bind_eq_ok_iff
    {clause : Clause}
    {context : Context}
    {expression : Expression} :
    clause.bind context = .ok expression ↔
      Binds context.catalog context.scope clause expression ∧ context.Fits clause.need :=
  ⟨fun bound => ⟨binds_of_bind bound, fits_of_bind bound⟩,
    fun both => bind_of_binds both.1 both.2 rfl rfl⟩

end Clause

end ClauseBinding
