import ClauseBinding.Evaluation.Rows
import ClauseBinding.Proofs.Renaming.Clause
import ClauseBinding.Proofs.Renaming.Evaluation
import ClauseBinding.Proofs.Scope.Filter

/-!
Contract: the names of range variables make no difference to filters.

Owns:
- alpha-equivalence of filters;
- that equivalent filters are bound alike, and that their predicates accept alike.

Does not own: clauses, or the evaluation of what they are bound to.
-/

namespace ClauseBinding

open ClauseBinding.Outcome

/-- Whether filters differ in the names of range variables alone, their own included. -/
def FilterClause.AlphaEquivalent (filter filter' : FilterClause) : Prop :=
  Clause.AlphaEquivalent [(filter.rangeVariable, filter'.rangeVariable)] filter.condition
    filter'.condition

namespace FilterClause

variable {filter filter' : FilterClause}

/-- Equivalent filters make the same predicate by level, or fail alike. -/
theorem bindIn_sameUnder
    (equivalent : filter.AlphaEquivalent filter')
    (catalog : Catalog)
    (elementType : DataType)
    (configuration : Configuration) :
    SameUnder (·.lambda.body.byLevel [filter.rangeVariable])
      (·.lambda.body.byLevel [filter'.rangeVariable])
      (filter.bindIn (.start catalog elementType configuration))
      (filter'.bindIn (.start catalog elementType configuration)) := by
  have fresh : (Context.start catalog elementType configuration).Renamed []
    (.start catalog elementType configuration) := ⟨rfl, rfl, rfl, .outermost⟩
  apply fresh.declare_bind filter.rangeVariable filter'.rangeVariable
  intro inside inside' insideRenamed
  apply (Clause.bind_sameUnder equivalent insideRenamed).bind
  intro condition condition' sameCondition
  exact Predicate.ofCondition_sameUnder _ _ sameCondition

/-- A predicate over its range variable alone has the same outcome once its variables are
named by level. -/
theorem accepts_eq_byLevel
    {context : Context}
    {predicate : Predicate}
    (outermost : context.scope = [])
    (bound : filter.bindIn context = .ok predicate)
    (value : Value) :
    predicate.accepts value =
      (predicate.lambda.body.byLevel [filter.rangeVariable]).evaluate
        (Bindings.push [] (levelName 0) value) >>= Value.truth := by
  obtain ⟨isVariable, wellScoped⟩ := predicate_scoped outermost bound
  have stand := (Bindings.StandFor.of_empty [] []).push predicate.lambda.parameter value
  have leveled := wellScoped.evaluate_byLevel stand
  have named : predicate.lambda.parameter.name = filter.rangeVariable := by rw [isVariable]
  rw [Predicate.accepts, Lambda.apply, ← leveled, ← named]
  rfl

/-- The names of range variables make no difference. Of two filters that differ in them
alone, each is bound in a fresh context if the other is, both fail alike if they are not,
and their predicates have one outcome for every value. -/
theorem renaming_invariant
    (equivalent : filter.AlphaEquivalent filter')
    (catalog : Catalog)
    (elementType : DataType)
    (configuration : Configuration) :
    ((∃ predicate, filter.bindIn (.start catalog elementType configuration) = .ok predicate) ↔
        ∃ predicate, filter'.bindIn (.start catalog elementType configuration) = .ok predicate)
      ∧ (∀ failure, filter.bindIn (.start catalog elementType configuration) = .error failure →
        filter'.bindIn (.start catalog elementType configuration) = .error failure)
      ∧ ∀ predicate predicate',
        filter.bindIn (.start catalog elementType configuration) = .ok predicate →
        filter'.bindIn (.start catalog elementType configuration) = .ok predicate' →
          ∀ value, predicate.accepts value = predicate'.accepts value := by
  have same := bindIn_sameUnder equivalent catalog elementType configuration
  rcases same.values_or_failure with
    ⟨predicate, predicate', bound, bound', sameBody⟩ | ⟨failure, fails, fails'⟩
  · rw [bound, bound']
    refine ⟨⟨fun _ => ⟨predicate', rfl⟩, fun _ => ⟨predicate, rfl⟩⟩, nofun, ?_⟩
    rintro _ _ ⟨⟩ ⟨⟩ value
    have sameBody : predicate.lambda.body.byLevel [filter.rangeVariable] =
      predicate'.lambda.body.byLevel [filter'.rangeVariable] := sameBody
    rw [accepts_eq_byLevel rfl bound, accepts_eq_byLevel rfl bound', sameBody]
  · rw [fails, fails']
    exact ⟨⟨nofun, nofun⟩, fun _ same => same, nofun⟩

/-- Orders with a line of several pieces, of which they have some, said in three names. -/
def severalPiecesNamed (order line counted : String) : FilterClause where
  condition :=
    .quantified .any (.member (.reference order) "lines") line
      (.binary (.connective .and)
        (.binary (.comparison .gt) (.member (.reference line) "quantity")
          (.literal (.int32 1) (.required .int32)))
        (.binary (.comparison .gt)
          (.countWhere (.member (.reference order) "lines") counted
            (.binary (.comparison .gt) (.member (.reference counted) "quantity")
              (.literal (.int32 1) (.required .int32))))
          (.literal (.int64 0) (.required .int64))))
  rangeVariable := order

/-- The names are swapped, and in both the nested filter takes that of the order again. -/
theorem severalPiecesNamed_equivalent :
    (severalPiecesNamed "it" "line" "it").AlphaEquivalent
      (severalPiecesNamed "line" "it" "line") := by
  have order : Clause.AlphaEquivalent [("it", "line")] (.reference "it") (.reference "line") :=
    .reference (.innermost _ _ _)
  have line : Clause.AlphaEquivalent [("line", "it"), ("it", "line")] (.reference "line")
    (.reference "it") := .reference (.innermost _ _ _)
  have orderWithin : Clause.AlphaEquivalent [("line", "it"), ("it", "line")] (.reference "it")
      (.reference "line") :=
    .reference (.outside (by decide) (by decide) (.innermost _ _ _))
  exact .quantified _ _ _ (.member _ order)
    (.binary _ (.binary _ (.member _ line) (.literal _ _))
      (.binary _
        (.countWhere _ _ (.member _ orderWithin)
          (.binary _ (.member _ order) (.literal _ _)))
        (.literal _ _)))

theorem renaming_invariant_severalPiecesNamed :
    ∃ predicate predicate',
      (severalPiecesNamed "it" "line" "it").bindIn
          (.start orderCatalog (.structured "Order") {}) = .ok predicate
        ∧ (severalPiecesNamed "line" "it" "line").bindIn
          (.start orderCatalog (.structured "Order") {}) = .ok predicate'
        ∧ ∀ value, predicate.accepts value = predicate'.accepts value := by
  obtain ⟨binds, -, accept⟩ := renaming_invariant severalPiecesNamed_equivalent orderCatalog
    (.structured "Order") {}
  have bound : ∃ predicate, (severalPiecesNamed "it" "line" "it").bindIn
    (.start orderCatalog (.structured "Order") {}) = .ok predicate := ⟨_, rfl⟩
  obtain ⟨predicate', bound'⟩ := binds.mp bound
  obtain ⟨predicate, bound⟩ := bound
  exact ⟨predicate, predicate', bound, bound', accept predicate predicate' bound bound'⟩

end FilterClause

end ClauseBinding
