import ClauseBinding.Proofs.Renaming.ByLevel
import ClauseBinding.Proofs.Scope.Scoped
import ClauseBinding.Proofs.Soundness.Node

/-!
Contract: the evaluation of expressions whose variables are named by level.

Owns:
- bindings that give a variable and the name of its level the same value;
- that a scoped expression has the same outcome once its variables are named by level.

Does not own: which expressions are scoped.

Inside a counted condition levels start anew, so a level may be bound outside too. The
condition does not see that, as its own variable is bound last.
-/

namespace ClauseBinding

open ClauseBinding.Outcome

/-- The variables in scope stand for levels below the number of them. -/
theorem standIn_of_find?
    {scope : List Parameter}
    {name : String}
    {parameter : Parameter}
    (found : scope.find? (·.name == name) = some parameter) :
    ∃ level < scope.length, standIn (scope.map Parameter.name) name = levelName level := by
  induction scope with
  | nil => cases found
  | cons first rest inductionHypothesis =>
      rw [List.map_cons, standIn]
      by_cases same : first.name = name
      · exact ⟨rest.length, Nat.lt_succ_self _, by rw [if_pos same, List.length_map]⟩
      · rw [List.find?_cons_of_neg (by simp [same])] at found
        obtain ⟨level, below, isLevel⟩ := inductionHypothesis found
        exact ⟨level, Nat.lt_succ_of_lt below, by rw [if_neg same, isLevel]⟩

/-- Whether every variable in scope has a value, and the name of its level has the same. -/
def Bindings.StandFor
    (scope : List Parameter)
    (leveled bindings : Bindings) : Prop :=
  ∀ name parameter, scope.find? (·.name == name) = some parameter →
    ∃ value, bindings.lookup name = some value
      ∧ leveled.lookup (standIn (scope.map Parameter.name) name) = some value

namespace Bindings.StandFor

variable {scope : List Parameter} {leveled bindings : Bindings}

theorem of_empty (leveled bindings : Bindings) : StandFor [] leveled bindings :=
  fun _ _ absurd => nomatch absurd

/-- One more variable stands at the next level, which none of the others stands at. -/
theorem push
    (stand : StandFor scope leveled bindings)
    (item : Parameter)
    (value : Value) :
    StandFor (item :: scope) (leveled.push (levelName scope.length) value)
      (bindings.push item.name value) := by
  intro name parameter found
  rw [List.map_cons, standIn, List.length_map]
  by_cases same : item.name = name
  · exact ⟨value, by simp [same, lookup, Bindings.push, Table.find?]⟩
  · rw [List.find?_cons_of_neg (by simp [same])] at found
    obtain ⟨level, below, isLevel⟩ := standIn_of_find? found
    have otherLevel : levelName scope.length ≠ levelName level :=
      fun sameName => absurd (levelName_inj sameName) (Nat.ne_of_gt below)
    obtain ⟨bound, isBound, isLeveled⟩ := stand name parameter found
    rw [isLevel] at isLeveled
    rw [if_neg same, isLevel]
    refine ⟨bound, ?_, ?_⟩
    · simpa [lookup, Bindings.push, Table.find?, same] using isBound
    · simpa [lookup, Bindings.push, Table.find?, otherLevel] using isLeveled

end Bindings.StandFor

namespace Expression.Scoped

variable {scope : List Parameter} {expression : Expression}

/-- A scoped expression has the same outcome once its variables are named by level. -/
theorem evaluate_byLevel
    {leveled bindings : Bindings}
    (wellScoped : Scoped scope expression)
    (stand : Bindings.StandFor scope leveled bindings) :
    (expression.byLevel (scope.map Parameter.name)).evaluate leveled =
      expression.evaluate bindings := by
  induction wellScoped generalizing leveled bindings with
  | constant => rfl
  | @parameter scope name type innermost =>
      obtain ⟨value, isBound, isLeveled⟩ := stand name _ innermost
      simp only [byLevel, evaluate, isBound, isLeveled]
  | read _ source => simp only [byLevel, evaluate, source stand]
  | not _ operand | negate _ operand | isNull _ operand | convert _ operand =>
      simp only [byLevel, evaluate, operand stand]
  | comparison _ _ first second | logical _ _ first second | arithmetic _ _ first second
  | has _ _ first second | coalesce _ _ first second =>
      simp only [byLevel, evaluate, first stand, second stand]
  | conditional _ _ _ test whenTrue whenFalse =>
      simp only [byLevel, evaluate, test stand, whenTrue stand, whenFalse stand]
  | @call scope function arguments type _ each =>
      have together : evaluateAll (byLevelAll arguments (scope.map Parameter.name)) leveled =
          evaluateAll arguments bindings := by
        rw [byLevelAll_eq_map, evaluateAll_eq_all, evaluateAll_eq_all, List.map_map]
        exact congrArg all (List.map_congr_left fun argument member => each argument member stand)
      simp only [byLevel, evaluate, together]
  | @quantified scope quantifier sourceNode bodyNode item type _ _ source body =>
      have onItem : ∀ value,
          (bodyNode.byLevel (item.name :: scope.map Parameter.name)).evaluate
              (leveled.push (levelName (scope.map Parameter.name).length) value) =
            bodyNode.evaluate (bindings.push item.name value) := by
        intro value
        rw [List.length_map]
        exact body (stand.push item value)
      simp only [byLevel, evaluate, source stand, onItem]
  | count _ source => simp only [byLevel, evaluate, source stand]
  | @countWhere scope sourceNode conditionNode item type _ _ source condition =>
      have onItem : ∀ value, (conditionNode.byLevel [item.name]).evaluate
          (leveled.push (levelName 0) value) =
            conditionNode.evaluate (bindings.push item.name value) :=
        fun value => condition ((Bindings.StandFor.of_empty leveled bindings).push item value)
      simp only [byLevel, evaluate, source stand, onItem]

end Expression.Scoped

end ClauseBinding
