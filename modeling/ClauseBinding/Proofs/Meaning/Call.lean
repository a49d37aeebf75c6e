import ClauseBinding.Proofs.Meaning.Interpreter
import ClauseBinding.Proofs.Soundness.Call

/-!
Contract: bound calls compute what calls mean on what their arguments come out as.

Owns:
- the overload for the types of the arguments, which is the one for the types of
  their values;
- the argument that settles a call, which is the one that its guard or its evaluation
  meets first.

Does not own: the meaning of the arguments.
-/

namespace ClauseBinding

open ClauseBinding.Outcome

variable {catalog : Catalog} {scope : List Parameter} {bindings : Bindings}

namespace Signature

/-- Whether arguments are accepted depends on their data types only. -/
theorem accepts_eq_of_data
    (conversions : ConversionTable)
    (signature : Signature)
    (types : List ValueType) :
    accepts conversions signature types =
      accepts conversions signature ((types.map ValueType.data).map ValueType.required) := by
  simp only [accepts, List.length_map, List.zip_map_right, List.all_map]
  rfl

/-- The overload that is chosen depends on the data types only. -/
theorem resolve_of_data
    {conversions : ConversionTable}
    {name : String}
    {types types' : List ValueType}
    {chosen : Function × Signature}
    (same : types.map ValueType.data = types'.map ValueType.data)
    (resolved : resolve conversions name types = .ok chosen) :
    resolve conversions name types' = .ok chosen := by
  have sameExact : ∀ signature : Signature,
      signature.isExactFor types = signature.isExactFor types' := by
    intro signature
    rw [isExactFor, isExactFor, same]
  have sameAccepts : ∀ signature : Signature,
      accepts conversions signature types = accepts conversions signature types' := by
    intro signature
    rw [accepts_eq_of_data, accepts_eq_of_data _ _ types', same]
  unfold resolve at resolved ⊢
  simp only [sameExact, sameAccepts] at resolved
  split at resolved
  · cases resolved
  · split at resolved
    · exact resolved
    · split at resolved
      · exact resolved
      · cases resolved

end Signature

namespace Expression

variable {arguments : List Expression} {values : List Value}

/-- Present arguments that are accepted show their types. -/
theorem AllConform.mapM_dataType?
    {parameters : List DataType}
    (conservative : catalog.conversions.Conservative)
    (accepted : Accepted catalog parameters arguments)
    (single : ∀ parameter ∈ parameters, parameter.isOrderable = true)
    (conform : AllConform catalog arguments values)
    (present : values.any Value.isNull = false) :
    values.mapM Value.dataType? = some (arguments.map data) := by
  induction accepted generalizing values with
  | nil =>
      cases conform
      rfl
  | @cons parameter argument parameters arguments acceptedFirst _ inductionHypothesis =>
      cases conform with
      | @cons _ value _ values conformsFirst conformRest =>
          simp only [List.any_cons, Bool.or_eq_false_iff] at present
          have own := conformsFirst.own_type_of_accepted conservative acceptedFirst
            (single parameter List.mem_cons_self) present.1
          have others := inductionHypothesis
            (fun other member => single other (List.mem_cons_of_mem parameter member))
            conformRest present.2
          simp only [List.mapM_cons, own, others]
          rfl

/-- On present values a function is applied by the overload that binding chose. -/
theorem onValues_of_resolve
    {name : String}
    {function : Function}
    {signature : Signature}
    (conservative : catalog.conversions.Conservative)
    (resolved : Signature.resolve catalog.conversions name (arguments.map type) =
      .ok (function, signature))
    (conform : AllConform catalog arguments values)
    (present : values.any Value.isNull = false) :
    Function.onValues catalog name values =
      function.onPresent (values.zipWith Value.convert signature.parameters) := by
  obtain ⟨overload, accepted⟩ := Signature.resolve_spec resolved
  have shown := conform.mapM_dataType? conservative (List.forall₂_map_right_iff.mp accepted)
    (function.isOrderable_of_mem_parameters overload) present
  have sameData : (arguments.map type).map ValueType.data =
      ((arguments.map data).map ValueType.required).map ValueType.data := by
    simp only [List.map_map]
    rfl
  simp only [Function.onValues, shown, Signature.resolve_of_data sameData resolved, ok_bind]

end Expression

/-! ## The argument that settles a call -/

namespace Outcome

variable {outcomes : List (Except Failure Value)}

@[simp] private theorem isPresent_ok (value : Value) : isPresent (.ok value) = !value.isNull := by
  cases value <;> rfl

@[simp] private theorem isPresent_error (failure : Failure) : isPresent (.error failure) = false :=
  rfl

/-- What settles a call is absent, or a failure. -/
private theorem eq_of_settled
    {outcome : Except Failure Value}
    (settled : outcomes.find? (!isPresent ·) = some outcome) :
    outcome = .ok .null ∨ ∃ failure, outcome = .error failure := by
  have notPresent := List.find?_some settled
  cases outcome with
  | error failure => exact .inr ⟨failure, rfl⟩
  | ok value =>
      simp only [isPresent_ok, Bool.not_not] at notPresent
      exact .inl (congrArg Except.ok (Value.isNull_iff.mp notPresent))

/-- Where no outcome settles a call, all are present values. -/
private theorem all_of_present
    (present : ∀ outcome ∈ outcomes, isPresent outcome = true) :
    ∃ values, all outcomes = .ok values ∧ values.any Value.isNull = false := by
  induction outcomes with
  | nil => exact ⟨[], rfl, rfl⟩
  | cons outcome rest inductionHypothesis =>
      obtain ⟨firstPresent, restPresent⟩ := List.forall_mem_cons.mp present
      obtain ⟨values, areValues, valuesPresent⟩ := inductionHypothesis restPresent
      cases outcome with
      | error failure => cases firstPresent
      | ok value =>
          rw [isPresent_ok, Bool.not_eq_true'] at firstPresent
          refine ⟨value :: values, ?_, ?_⟩
          · rw [all, areValues]
            rfl
          · rw [List.any_cons, firstPresent, valuesPresent, Bool.or_false]

/-- A failure that settles a call is the first. -/
private theorem all_of_error
    {failure : Failure}
    (settles : outcomes.find? (!isPresent ·) = some (.error failure)) :
    all outcomes = .error failure := by
  induction outcomes with
  | nil => cases settles
  | cons outcome rest inductionHypothesis =>
      cases outcome with
      | error first =>
          obtain rfl := Except.error.inj (Option.some.inj settles)
          rfl
      | ok value =>
          cases absent : value.isNull with
          | true => simp [absent] at settles
          | false =>
              rw [List.find?_cons_of_neg (by simp [absent])] at settles
              rw [all, inductionHypothesis settles]
              rfl

end Outcome

namespace Expression

variable {arguments : List Expression} {expression : Expression} {name : String}

/-- The search of a guard ends where the first operand settles it. -/
private theorem anyAbsent_eq_find?
    (expressions : List Expression)
    (bindings : Bindings) :
    anyAbsent expressions bindings =
      match (expressions.map (·.evaluate bindings)).find? (!isPresent ·) with
      | some (.ok _) => .ok true
      | some (.error failure) => .error failure
      | none => .ok false := by
  induction expressions with
  | nil => rfl
  | cons expression rest inductionHypothesis =>
      rw [anyAbsent, inductionHypothesis, List.map_cons]
      cases expression.evaluate bindings with
      | error failure => rfl
      | ok value =>
          cases absent : value.isNull with
          | true => simp [absent]
          | false => simp [absent, List.find?_cons_of_neg]

/-- Where the arguments that may be absent are present, no other is absent. -/
private theorem ne_null_of_guarded
    {argument : Expression}
    (sound : Sound catalog scope argument)
    (conform : Bindings.Conform catalog scope bindings)
    (guarded : argument.isNullable = true →
      isPresent (argument.guardNulls.evaluate bindings) = true) :
    argument.guardNulls.evaluate bindings ≠ .ok .null := by
  intro isNull
  have conforms := (sound.conforms bindings conform).of_ok isNull
  have present := guarded (Value.Conforms.null_iff.mp conforms)
  rw [isNull] at present
  cases present

/-- Present arguments are used as the overload for their types says. -/
private theorem apply_of_present
    {values : List Value}
    {function : Function}
    {signature : Signature}
    (conservative : catalog.conversions.Conservative)
    (resolved : Signature.resolve catalog.conversions name (arguments.map type) =
      .ok (function, signature))
    (conforms : AllConform catalog arguments values)
    (present : values.any Value.isNull = false) :
    (if (values.zipWith Value.convert signature.parameters).any Value.isNull then
        .error (.absentArgument function)
      else function.apply (values.zipWith Value.convert signature.parameters)) =
      Function.onValues catalog name values := by
  obtain ⟨overload, accepted⟩ := Signature.resolve_spec resolved
  rw [List.forall₂_map_right_iff] at accepted
  obtain ⟨typed, convertedPresent⟩ := conforms.dataType?_convert conservative accepted
    (function.isOrderable_of_mem_parameters overload) present
  simp only [convertedPresent, Bool.false_eq_true, if_false]
  rw [onValues_of_resolve conservative resolved conforms present,
    function.apply_eq_onPresent overload typed]

/-- Values that arguments have conform to their types. -/
private theorem allConform_of_evaluated
    {values : List Value}
    (sound : ∀ argument ∈ arguments, Sound catalog scope argument)
    (conform : Bindings.Conform catalog scope bindings)
    (evaluated : List.Forall₂ (fun argument value =>
      argument.guardNulls.evaluate bindings = .ok value) arguments values) :
    AllConform catalog arguments values := by
  have succeeds : evaluateAll (arguments.map guardNulls) bindings = .ok values :=
    evaluateAll_eq_ok.mpr (List.forall₂_map_left_iff.mpr evaluated)
  exact ((evaluateAll_conforms sound conform).of_ok succeeds).1

/-- A call that its guard lets pass is settled by the first argument that fails, or else is
made. -/
private theorem evaluate_of_guarded
    {function : Function}
    {signature : Signature}
    (conservative : catalog.conversions.Conservative)
    (sound : ∀ argument ∈ arguments, Sound catalog scope argument)
    (resolved : Signature.resolve catalog.conversions name (arguments.map type) =
      .ok (function, signature))
    (conform : Bindings.Conform catalog scope bindings)
    (guarded : ∀ argument ∈ arguments, argument.isNullable = true →
      isPresent (argument.guardNulls.evaluate bindings) = true) :
    (evaluateAll (arguments.map guardNulls) bindings >>= fun values =>
        let converted := values.zipWith Value.convert signature.parameters
        if converted.any Value.isNull then .error (.absentArgument function)
        else function.apply converted) =
      Function.onOutcomes catalog name []
        (arguments.map (·.guardNulls.evaluate bindings)) := by
  rw [evaluateAll_eq_all, List.map_map, Function.onOutcomes, List.nil_append]
  simp only [Function.comp_def]
  cases settled : (arguments.map (·.guardNulls.evaluate bindings)).find? (!isPresent ·) with
  | some outcome =>
      rcases eq_of_settled settled with rfl | ⟨failure, rfl⟩
      · obtain ⟨argument, isArgument, isNull⟩ :=
          List.mem_map.mp (List.mem_of_find?_eq_some settled)
        exact absurd isNull
          (ne_null_of_guarded (sound argument isArgument) conform (guarded argument isArgument))
      · rw [all_of_error settled]
        rfl
  | none =>
      have present : ∀ outcome ∈ arguments.map (·.guardNulls.evaluate bindings),
          isPresent outcome = true := by
        intro outcome isOutcome
        simpa using List.find?_eq_none.mp settled outcome isOutcome
      obtain ⟨values, areValues, valuesPresent⟩ := all_of_present present
      have evaluated := List.forall₂_map_left_iff.mp (all_eq_ok.mp areValues)
      have conforms := allConform_of_evaluated sound conform evaluated
      rw [areValues, ok_bind, apply_of_present conservative resolved conforms valuesPresent]
      rfl

/-- A guarded call is what the call means: its guard looks at the arguments that may be
absent, and then all are evaluated. -/
theorem bindCall_evaluate
    (conservative : catalog.conversions.Conservative)
    (sound : ∀ argument ∈ arguments, Sound catalog scope argument)
    (bound : bindCall catalog name arguments = .ok expression)
    (conform : Bindings.Conform catalog scope bindings) :
    expression.guardNulls.evaluate bindings =
      Function.onOutcomes catalog name
        ((arguments.filter isNullable).map (·.guardNulls.evaluate bindings))
        (arguments.map (·.guardNulls.evaluate bindings)) := by
  obtain ⟨function, signature, resolved, rfl⟩ := bindCall_eq_ok bound
  obtain ⟨overload, accepted⟩ := Signature.resolve_spec resolved
  rw [List.forall₂_map_right_iff] at accepted
  have guardedArguments : (arguments.map guardNulls).filter isNullable =
      (arguments.filter isNullable).map guardNulls := by
    rw [List.filter_map]
    congr 1
    apply List.filter_congr
    intro argument isArgument
    rw [Function.comp, isNullable, (sound argument isArgument).recorded, isNullable]
  rw [evaluate_call conservative sound accepted conform, guardedArguments, anyAbsent_eq_find?,
    List.map_map, Function.onOutcomes, List.find?_append]
  simp only [Function.comp_def]
  cases settled : ((arguments.filter isNullable).map (·.guardNulls.evaluate bindings)).find?
      (!isPresent ·) with
  | some outcome =>
      rcases eq_of_settled settled with rfl | ⟨failure, rfl⟩ <;> rfl
  | none =>
      have guarded : ∀ argument ∈ arguments, argument.isNullable = true →
          isPresent (argument.guardNulls.evaluate bindings) = true := by
        intro argument isArgument nullable
        simpa using List.find?_eq_none.mp settled _
          (List.mem_map_of_mem (List.mem_filter.mpr ⟨isArgument, nullable⟩))
      exact evaluate_of_guarded conservative sound resolved conform guarded

end Expression

end ClauseBinding
