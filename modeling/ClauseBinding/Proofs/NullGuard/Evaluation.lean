import ClauseBinding.Proofs.Evaluation.Outcome
import ClauseBinding.Proofs.Expression.Induction

/-!
Contract: the value of a guarded node and of a folded condition.

Owns:
- the search for an absent operand that the test of a guard amounts to;
- a guarded node as that search followed by the node;
- the special case of one dereferenced operand, which is evaluated once.

Does not own: which nodes are guarded, and the values of their operands.
-/

namespace ClauseBinding.Expression

/-- Whether one of some expressions is absent, up to the first that is. -/
def anyAbsent : List Expression → Bindings → Except Failure Bool
  | [], _ => .ok false
  | first :: rest, bindings => do
      let value ← first.evaluate bindings
      if value.isNull then pure true else anyAbsent rest bindings

private theorem evaluate_absence
    (operand : Expression)
    (bindings : Bindings) :
    (absence operand false).evaluate bindings =
      operand.evaluate bindings >>= fun value => .ok (.bool value.isNull) := by
  cases outcome : operand.evaluate bindings <;> simp [absence, evaluate, outcome]

/-- The disjunction that tests for absence searches from the left: tests on its
right are left unevaluated once one on its left holds. -/
theorem evaluate_disjunction
    (operands : List Expression)
    (test : Expression)
    (outcome : Except Failure Bool)
    (bindings : Bindings)
    (known : test.evaluate bindings = outcome >>= fun found => .ok (.bool found)) :
    ((operands.map (absence · false)).foldl (connect .or) test).evaluate bindings =
      outcome >>= fun found =>
        if found then .ok (.bool true)
        else anyAbsent operands bindings >>= fun other => .ok (.bool other) := by
  induction operands generalizing test outcome with
  | nil =>
      rw [List.map_nil, List.foldl_nil, known]
      congr 1
      funext found
      cases found <;> rfl
  | cons operand rest inductionHypothesis =>
      have extended : (connect .or test (absence operand false)).evaluate bindings =
          (outcome >>= fun found =>
            if found then .ok true
            else operand.evaluate bindings >>= fun value => .ok value.isNull) >>=
              fun found => .ok (.bool found) := by
        simp only [connect, evaluate, known, evaluate_absence]
        cases outcome with
        | error failure => rfl
        | ok found =>
            cases found with
            | true => rfl
            | false =>
                cases operand.evaluate bindings with
                | error failure => rfl
                | ok value => cases absent : value.isNull <;> simp [absent] <;> rfl
      rw [List.map_cons, List.foldl_cons, inductionHypothesis _ _ extended]
      cases outcome with
      | error failure => rfl
      | ok found =>
          cases found with
          | true => rfl
          | false =>
              cases outcome : operand.evaluate bindings with
              | error failure => simp [anyAbsent, outcome]
              | ok value => cases absent : value.isNull <;> simp [anyAbsent, outcome, absent]

/-- A guarded node is absent when one of its nullable operands is; else it is the node. -/
theorem evaluate_guardAbsence
    (node : Expression)
    (bindings : Bindings) :
    node.guardAbsence.evaluate bindings =
      anyAbsent (node.dereferenced.filter isNullable) bindings >>= fun absent =>
        if absent then .ok .null else node.evaluate bindings := by
  cases nullable : node.dereferenced.filter isNullable with
  | nil =>
      simp only [guardAbsence, absenceTest?, nullable, List.map_nil]
      rfl
  | cons first rest =>
      have search := evaluate_disjunction rest (absence first false)
        (first.evaluate bindings >>= fun value => .ok value.isNull) bindings
        (by rw [evaluate_absence]; cases first.evaluate bindings <;> rfl)
      simp only [guardAbsence, absenceTest?, nullable, List.map_cons, guarded, nullOf, evaluate,
        search, anyAbsent]
      cases first.evaluate bindings with
      | error failure => rfl
      | ok value =>
          cases absent : value.isNull with
          | true => simp [absent, Value.isTrue]
          | false =>
              cases anyAbsent rest bindings with
              | error failure => simp [absent]
              | ok found => cases found <;> simp [absent, Value.isTrue]

/-- A guarded node with one dereferenced operand looks at its value once. -/
theorem evaluate_guardAbsence_of_single
    {node source : Expression}
    {bindings : Bindings}
    {next : Value → Except Failure Value}
    (single : node.dereferenced = [source])
    (evaluated : node.evaluate bindings = source.evaluate bindings >>= next) :
    node.guardAbsence.evaluate bindings =
      source.evaluate bindings >>= fun value =>
        if source.isNullable && value.isNull then .ok .null else next value := by
  rw [evaluate_guardAbsence, single, evaluated]
  cases nullable : source.isNullable with
  | false => simp [nullable, anyAbsent]
  | true =>
      cases outcome : source.evaluate bindings with
      | error failure => simp [nullable, anyAbsent, outcome]
      | ok value => cases absent : value.isNull <;> simp [nullable, anyAbsent, outcome, absent]

/-- The value of a folded condition, in which an absent value becomes false if
the recorded type lets it be folded at all. -/
theorem evaluate_unknownToFalse
    (condition : Expression)
    (bindings : Bindings) :
    condition.unknownToFalse.evaluate bindings =
      condition.evaluate bindings >>= fun value =>
        .ok (if condition.type = .optional .bool ∧ value.isNull then .bool false else value) := by
  by_cases unknown : condition.type = .optional .bool
  · simp only [unknownToFalse, unknown, if_true, orElse, ofBool, evaluate, true_and]
    cases condition.evaluate bindings with
    | error failure => rfl
    | ok value => cases absent : value.isNull <;> simp [absent]
  · simp only [unknownToFalse, unknown, if_false, false_and]
    cases condition.evaluate bindings <;> rfl

end ClauseBinding.Expression
