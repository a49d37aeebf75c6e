import ClauseBinding.Proofs.Soundness.Node
import Mathlib.Data.List.Forall2

/-!
Contract: soundness of calls.

Owns:
- what the choice of an overload promises about its arguments;
- a guarded call in terms of the arguments as they were before promotion;
- soundness of a call from that of its arguments.

Does not own: the choice of an overload, or what a function computes.
-/

namespace ClauseBinding

open ClauseBinding.Outcome

variable {catalog : Catalog} {scope : List Parameter}

namespace Signature

/-- An overload that is chosen belongs to the function of the name and accepts
the arguments one by one. -/
theorem resolve_spec
    {conversions : ConversionTable}
    {name : String}
    {types : List ValueType}
    {function : Function}
    {signature : Signature}
    (resolved : resolve conversions name types = .ok (function, signature)) :
    signature ∈ function.signatures
      ∧ List.Forall₂ (fun parameter type => acceptsArgument conversions parameter type = true)
          signature.parameters types := by
  unfold resolve at resolved
  split at resolved
  · cases resolved
  · split at resolved
    case h_1 chosen found =>
      obtain ⟨rfl, rfl⟩ := Prod.mk.inj (Except.ok.inj resolved)
      have exactly := List.find?_some found
      refine ⟨List.mem_of_find?_eq_some found, ?_⟩
      rw [isExactFor, beq_iff_eq] at exactly
      rw [exactly, List.forall₂_map_left_iff, List.forall₂_same]
      intro type _
      simp [acceptsArgument, ConversionTable.canPromote]
    case h_2 =>
      split at resolved
      case h_1 chosen found =>
        obtain ⟨rfl, rfl⟩ := Prod.mk.inj (Except.ok.inj resolved)
        have accepted := List.find?_some found
        refine ⟨List.mem_of_find?_eq_some found, ?_⟩
        simp only [accepts, Bool.and_eq_true, beq_iff_eq, List.all_eq_true] at accepted
        exact List.forall₂_iff_zip.mpr ⟨accepted.1, fun pair => accepted.2 _ pair⟩
      case h_2 => cases resolved

end Signature

/-- Functions take and give single values. -/
theorem Function.isOrderable_of_mem_parameters
    {function : Function}
    {signature : Signature}
    (overload : signature ∈ function.signatures) :
    ∀ parameter ∈ signature.parameters, parameter.isOrderable = true := by
  revert signature
  cases function <;> decide

/-- Each argument can stand for its parameter. -/
abbrev Expression.Accepted
    (catalog : Catalog)
    (parameters : List DataType)
    (arguments : List Expression) : Prop :=
  List.Forall₂ (fun parameter argument =>
    Signature.acceptsArgument catalog.conversions parameter argument.type = true)
    parameters arguments

abbrev Expression.AllConform
    (catalog : Catalog)
    (expressions : List Expression)
    (values : List Value) : Prop :=
  List.Forall₂ (fun expression value => value.Conforms catalog expression.type)
    expressions values

namespace Expression

variable {parameters : List DataType} {arguments : List Expression} {bindings : Bindings}

/-- Promoted arguments have the converted values. -/
theorem evaluateAll_promote
    (sound : ∀ argument ∈ arguments, Sound catalog scope argument)
    (accepted : Accepted catalog parameters arguments)
    (conform : Bindings.Conform catalog scope bindings) :
    evaluateAll ((arguments.zipWith promote parameters).map guardNulls) bindings =
      evaluateAll (arguments.map guardNulls) bindings >>= fun values =>
        .ok (values.zipWith Value.convert parameters) := by
  induction accepted with
  | nil => rfl
  | @cons parameter argument parameters arguments _ _ inductionHypothesis =>
      have first := (sound argument List.mem_cons_self).evaluate_promote parameter conform
      have rest := inductionHypothesis fun other member =>
        sound other (List.mem_cons_of_mem argument member)
      simp only [List.zipWith_cons_cons, List.map_cons, evaluateAll, first, rest]
      cases argument.guardNulls.evaluate bindings with
      | error failure => rfl
      | ok value => cases evaluateAll (arguments.map guardNulls) bindings <;> rfl

/-- A promoted argument is nullable where the argument is, and absent where the
argument is, so that guards find the same among them. -/
theorem anyAbsent_promote
    (conservative : catalog.conversions.Conservative)
    (sound : ∀ argument ∈ arguments, Sound catalog scope argument)
    (accepted : Accepted catalog parameters arguments)
    (conform : Bindings.Conform catalog scope bindings) :
    anyAbsent (((arguments.zipWith promote parameters).map guardNulls).filter isNullable)
        bindings =
      anyAbsent ((arguments.map guardNulls).filter isNullable) bindings := by
  induction accepted with
  | nil => rfl
  | @cons parameter argument parameters arguments acceptedFirst _ inductionHypothesis =>
      have soundFirst := sound argument List.mem_cons_self
      have rest := inductionHypothesis fun other member =>
        sound other (List.mem_cons_of_mem argument member)
      have sameNullable :
          (argument.promote parameter).guardNulls.isNullable = argument.guardNulls.isNullable := by
        simp only [isNullable, (soundFirst.promote conservative acceptedFirst).recorded,
          soundFirst.type_promote, soundFirst.recorded]
      simp only [List.zipWith_cons_cons, List.map_cons, List.filter_cons, sameNullable]
      split
      · simp only [anyAbsent, rest, soundFirst.evaluate_promote parameter conform]
        cases outcome : argument.guardNulls.evaluate bindings with
        | error failure => rfl
        | ok value =>
            have conforms := (soundFirst.conforms bindings conform).of_ok outcome
            simp only [ok_bind, conforms.isNull_promote conservative acceptedFirst]
      · exact rest

/-- Present arguments, converted, show the types of the parameters. -/
theorem AllConform.dataType?_convert
    {expressions : List Expression}
    {values : List Value}
    (conservative : catalog.conversions.Conservative)
    (accepted : Accepted catalog parameters expressions)
    (conform : AllConform catalog expressions values)
    (single : ∀ parameter ∈ parameters, parameter.isOrderable = true)
    (present : values.any Value.isNull = false) :
    (values.zipWith Value.convert parameters).map Value.dataType? = parameters.map some
      ∧ (values.zipWith Value.convert parameters).any Value.isNull = false := by
  induction accepted generalizing values with
  | nil =>
      cases conform
      exact ⟨rfl, rfl⟩
  | @cons parameter expression parameters expressions acceptedFirst _ inductionHypothesis =>
      cases conform with
      | @cons _ value _ values conformsFirst conformRest =>
          simp only [List.any_cons, Bool.or_eq_false_iff] at present
          obtain ⟨typedRest, presentRest⟩ := inductionHypothesis conformRest
            (fun other member => single other (List.mem_cons_of_mem parameter member)) present.2
          have presentFirst : (value.convert parameter).isNull = false := by
            rw [conformsFirst.isNull_promote conservative acceptedFirst, present.1]
          have typedFirst := (conformsFirst.promote conservative acceptedFirst).own_type
            presentFirst (single parameter List.mem_cons_self)
          constructor
          · simp only [List.zipWith_cons_cons, List.map_cons, typedFirst, typedRest]
          · simp only [List.zipWith_cons_cons, List.any_cons, presentFirst, presentRest,
              Bool.or_false]

/-- A guarded call searches the arguments that may be absent, and applies the
function where none of them is. -/
theorem evaluate_call
    (conservative : catalog.conversions.Conservative)
    {function : Function}
    {type : ValueType}
    (sound : ∀ argument ∈ arguments, Sound catalog scope argument)
    (accepted : Accepted catalog parameters arguments)
    (conform : Bindings.Conform catalog scope bindings) :
    (call function (arguments.zipWith promote parameters) type).guardNulls.evaluate bindings =
      anyAbsent ((arguments.map guardNulls).filter isNullable) bindings >>= fun absent =>
        if absent then .ok .null
        else evaluateAll (arguments.map guardNulls) bindings >>= fun values =>
          let converted := values.zipWith Value.convert parameters
          if converted.any Value.isNull then .error (.absentArgument function)
          else function.apply converted := by
  rw [guardNulls, evaluate_guardAbsence]
  simp only [dereferenced, guardNullsAll_eq_map, evaluate,
    anyAbsent_promote conservative sound accepted conform,
    evaluateAll_promote sound accepted conform]
  cases anyAbsent ((arguments.map guardNulls).filter isNullable) bindings with
  | error failure => rfl
  | ok absent =>
      cases absent with
      | true => rfl
      | false => cases evaluateAll (arguments.map guardNulls) bindings <;> rfl

/-- The values of guarded arguments conform to their types. -/
theorem evaluateAll_conforms
    (sound : ∀ argument ∈ arguments, Sound catalog scope argument)
    (conform : Bindings.Conform catalog scope bindings) :
    Meets (fun values => AllConform catalog arguments values
        ∧ List.Forall₂ (fun argument value => argument.guardNulls.evaluate bindings = .ok value)
          arguments values)
      (evaluateAll (arguments.map guardNulls) bindings) := by
  induction arguments with
  | nil => exact ⟨.nil, .nil⟩
  | cons argument rest inductionHypothesis =>
      apply ((sound argument List.mem_cons_self).conforms bindings conform).bind
      intro value isValue conforms
      apply (inductionHypothesis fun other member =>
        sound other (List.mem_cons_of_mem argument member)).bind
      intro values _ valuesConform
      exact ⟨.cons conforms valuesConform.1, .cons isValue valuesConform.2⟩

/-- The search of a guard is settled by an absent argument that may be absent, or
has seen all of those that may be. -/
theorem anyAbsent_arguments
    (sound : ∀ argument ∈ arguments, Sound catalog scope argument)
    (conform : Bindings.Conform catalog scope bindings) :
    Meets (fun found =>
        if found then ∃ argument ∈ arguments, argument.isNullable = true
          ∧ argument.guardNulls.evaluate bindings = .ok .null
        else ∀ argument ∈ arguments, argument.isNullable = true → ∀ value,
          argument.guardNulls.evaluate bindings = .ok value → value.isNull = false)
      (anyAbsent ((arguments.map guardNulls).filter isNullable) bindings) := by
  have sameNullable : ∀ argument ∈ arguments,
      argument.guardNulls.isNullable = argument.isNullable := by
    intro argument isArgument
    rw [isNullable, (sound argument isArgument).recorded, isNullable]
  have each : ∀ operand ∈ (arguments.map guardNulls).filter isNullable,
      Meets (fun _ => True) (operand.evaluate bindings) := by
    intro operand member
    obtain ⟨argument, isArgument, rfl⟩ := List.mem_map.mp (List.mem_filter.mp member).1
    exact ((sound argument isArgument).conforms bindings conform).mono fun _ _ => trivial
  apply (anyAbsent_meets each).mono
  intro found search
  cases found with
  | true =>
      obtain ⟨operand, member, isNull⟩ := search
      obtain ⟨isOperand, nullable⟩ := List.mem_filter.mp member
      obtain ⟨argument, isArgument, rfl⟩ := List.mem_map.mp isOperand
      rw [sameNullable argument isArgument] at nullable
      exact ⟨argument, isArgument, nullable, isNull⟩
  | false =>
      intro argument isArgument nullable value isValue
      apply search argument.guardNulls _ value isValue
      rw [← sameNullable argument isArgument] at nullable
      exact List.mem_filter.mpr ⟨List.mem_map_of_mem isArgument, nullable⟩

/-- Where the nullable arguments are present, all are: the others cannot be absent. -/
theorem AllConform.present
    {values : List Value}
    (conform : AllConform catalog arguments values)
    (evaluated : List.Forall₂ (fun argument value =>
      argument.guardNulls.evaluate bindings = .ok value) arguments values)
    (search : ∀ argument ∈ arguments, argument.isNullable = true → ∀ value,
      argument.guardNulls.evaluate bindings = .ok value → value.isNull = false) :
    values.any Value.isNull = false := by
  induction conform with
  | nil => rfl
  | @cons argument value arguments values conforms _ inductionHypothesis =>
      cases evaluated with
      | cons isValue areValues =>
          have presentRest := inductionHypothesis areValues fun other member =>
            search other (List.mem_cons_of_mem argument member)
          have present : value.isNull = false := by
            cases nullable : argument.isNullable with
            | false => exact conforms.present nullable
            | true => exact search argument List.mem_cons_self nullable value isValue
          rw [List.any_cons, present, presentRest, Bool.or_false]

/-- A promoted argument is nullable only if some argument is. -/
theorem isNullable_of_mem_promoted
    {operand : Expression}
    (conservative : catalog.conversions.Conservative)
    (sound : ∀ argument ∈ arguments, Sound catalog scope argument)
    (accepted : Accepted catalog parameters arguments)
    (member : operand ∈ (arguments.zipWith promote parameters).map guardNulls)
    (nullable : operand.isNullable = true) :
    (arguments.map type).any (·.nullable) = true := by
  induction accepted with
  | nil => cases member
  | @cons parameter argument parameters arguments acceptedFirst _ inductionHypothesis =>
      have soundFirst := sound argument List.mem_cons_self
      simp only [List.map_cons, List.any_cons, Bool.or_eq_true]
      rcases List.mem_cons.mp member with rfl | memberRest
      · left
        rwa [isNullable, (soundFirst.promote conservative acceptedFirst).recorded,
          soundFirst.type_promote] at nullable
      · right
        exact inductionHypothesis
          (fun other otherMember => sound other (List.mem_cons_of_mem argument otherMember))
          memberRest

/-- A call of an overload that accepts sound arguments is sound. -/
theorem Sound.call
    (conservative : catalog.conversions.Conservative)
    {function : Function}
    {signature : Signature}
    (overload : signature ∈ function.signatures)
    (sound : ∀ argument ∈ arguments, Sound catalog scope argument)
    (accepted : Accepted catalog signature.parameters arguments) :
    Sound catalog scope
      (.call function (arguments.zipWith Expression.promote signature.parameters)
        ⟨signature.result, (arguments.map type).any (·.nullable)⟩) := by
  refine ⟨?recorded, nofun, ?conforms⟩
  case recorded =>
    rw [guardNulls, type_guardAbsence, type, type]
    intro operand member nullable
    rw [dereferenced, guardNullsAll_eq_map] at member
    exact isNullable_of_mem_promoted conservative sound accepted member nullable
  case conforms =>
    intro bindings conform
    rw [evaluate_call conservative sound accepted conform]
    apply (anyAbsent_arguments sound conform).bind
    intro absent _ search
    cases absent with
    | true =>
        -- The argument that is absent is nullable, and so is the call.
        obtain ⟨argument, isArgument, nullable, _⟩ := search
        apply Value.Conforms.null_iff.mpr
        exact List.any_eq_true.mpr ⟨argument.type, List.mem_map_of_mem isArgument, nullable⟩
    | false =>
        apply (evaluateAll_conforms sound conform).bind
        rintro values _ ⟨valuesConform, evaluated⟩
        have present := valuesConform.present evaluated search
        obtain ⟨typed, convertedPresent⟩ := valuesConform.dataType?_convert conservative accepted
          (function.isOrderable_of_mem_parameters overload) present
        simp only [convertedPresent, Bool.false_eq_true, if_false]
        exact (function.apply_meets overload typed).mono fun _ own => .single own

end Expression

end ClauseBinding
