import ClauseBinding.Proofs.Data.Conformance
import ClauseBinding.Proofs.NullGuard.Evaluation
import Mathlib.Data.List.Forall2

/-!
Contract: guarded nodes whose operands have conforming values.

Owns:
- the rule that such a node follows: absent for an absent operand, else the node;
- the type of a guarded node;
- the outcomes of several operands at once.

Does not own: what each kind of node does with present operands.
-/

namespace ClauseBinding

open ClauseBinding.Outcome

variable {catalog : Catalog}

namespace Value

def unlessAbsent
    (next : Value → Except Failure Value)
    (value : Value) : Except Failure Value :=
  if value.isNull then .ok .null else next value

theorem unlessAbsent_of_present
    {value : Value}
    (next : Value → Except Failure Value)
    (present : value.isNull = false) : value.unlessAbsent next = next value := by
  simp [unlessAbsent, present]

/-- What continues with a present value meets a type that allows absence wherever
the type of the value does. -/
theorem unlessAbsent_meets
    {value : Value}
    {source type : ValueType}
    {next : Value → Except Failure Value}
    (conforms : value.Conforms catalog source)
    (allowed : source.nullable = true → type.nullable = true)
    (rest : value.isNull = false → Meets (Conforms catalog · type) (next value)) :
    Meets (Conforms catalog · type) (value.unlessAbsent next) := by
  cases absent : value.isNull with
  | true =>
      obtain rfl := isNull_iff.mp absent
      exact Conforms.null_iff.mpr (allowed (Conforms.null_iff.mp conforms))
  | false =>
      rw [unlessAbsent_of_present next absent]
      exact rest absent

end Value

namespace Expression

/-- The guard of one operand is no more than a look at its value: where the type
of the operand keeps it from being guarded, its value is present. -/
theorem evaluate_guardAbsence_of_conforms
    {node source : Expression}
    {bindings : Bindings}
    {next : Value → Except Failure Value}
    (single : node.dereferenced = [source])
    (evaluated : node.evaluate bindings = source.evaluate bindings >>= next)
    (sound : Meets (Value.Conforms catalog · source.type) (source.evaluate bindings)) :
    node.guardAbsence.evaluate bindings =
      source.evaluate bindings >>= Value.unlessAbsent next := by
  rw [evaluate_guardAbsence_of_single single evaluated]
  cases outcome : source.evaluate bindings with
  | error failure => rfl
  | ok value =>
      have conforms := sound.of_ok outcome
      cases nullable : source.isNullable with
      | true => simp only [ok_bind, Bool.true_and, Value.unlessAbsent]
      | false =>
          -- There is no guard to pass, and none is needed.
          have present := conforms.present nullable
          simp only [ok_bind, Bool.false_and, Bool.false_eq_true, if_false,
            Value.unlessAbsent_of_present next present]

/-- A guard leaves the type of a node that says itself that it may be absent. -/
theorem type_guardAbsence
    {node : Expression}
    (allowed : ∀ operand ∈ node.dereferenced, operand.isNullable = true → node.isNullable = true) :
    node.guardAbsence.type = node.type := by
  cases nullable : node.dereferenced.filter isNullable with
  | nil =>
      simp only [guardAbsence, absenceTest?, nullable, List.map_nil]
  | cons first rest =>
      have member : first ∈ node.dereferenced.filter isNullable := by
        rw [nullable]
        exact List.mem_cons_self
      obtain ⟨isOperand, firstNullable⟩ := List.mem_filter.mp member
      have nodeNullable : node.type.nullable = true := allowed first isOperand firstNullable
      simp only [guardAbsence, absenceTest?, nullable, List.map_cons]
      show (⟨node.type.data, true⟩ : ValueType) = node.type
      rw [← nodeNullable]

/-! ## Several operands -/

theorem evaluateAll_eq_all
    (expressions : List Expression)
    (bindings : Bindings) :
    evaluateAll expressions bindings = all (expressions.map (·.evaluate bindings)) := by
  induction expressions with
  | nil => rfl
  | cons first rest inductionHypothesis =>
      rw [evaluateAll, inductionHypothesis, List.map_cons, all]

/-- Some expressions have values exactly when each has its own. -/
theorem evaluateAll_eq_ok
    {expressions : List Expression}
    {bindings : Bindings}
    {values : List Value} :
    evaluateAll expressions bindings = .ok values ↔
      List.Forall₂ (fun expression value => expression.evaluate bindings = .ok value)
        expressions values := by
  rw [evaluateAll_eq_all, all_eq_ok, List.forall₂_map_left_iff]

/-- A search for an absent operand has seen one if it finds one, and else the
value of each. -/
theorem anyAbsent_meets
    {expressions : List Expression}
    {bindings : Bindings}
    (each : ∀ expression ∈ expressions,
      Meets (fun _ => True) (expression.evaluate bindings)) :
    Meets (fun found =>
        if found then ∃ expression ∈ expressions, expression.evaluate bindings = .ok .null
        else ∀ expression ∈ expressions, ∀ value,
          expression.evaluate bindings = .ok value → value.isNull = false)
      (anyAbsent expressions bindings) := by
  induction expressions with
  | nil => exact fun _ absurd => nomatch absurd
  | cons first rest inductionHypothesis =>
      apply (each first List.mem_cons_self).bind
      intro value isValue _
      cases absent : value.isNull with
      | true =>
          rw [Value.isNull_iff.mp absent] at isValue
          exact ⟨first, List.mem_cons_self, isValue⟩
      | false =>
          apply (inductionHypothesis fun expression member =>
            each expression (List.mem_cons_of_mem first member)).mono
          intro found search
          cases found with
          | true =>
              obtain ⟨other, member, isNull⟩ := search
              exact ⟨other, List.mem_cons_of_mem first member, isNull⟩
          | false =>
              apply List.forall_mem_cons.mpr ⟨?_, search⟩
              intro other isOther
              obtain rfl := Except.ok.inj (isValue.symm.trans isOther)
              exact absent

end Expression

end ClauseBinding
