import ClauseBinding.Proofs.Binding.Rules
import ClauseBinding.Proofs.Soundness.Operator
import Mathlib.Data.List.Forall2

/-!
Contract: the choice of an overload, for any table of conversions.

Owns:
- functions by their names, and overloads by their parameters;
- overloads that take some arguments, and the first of them;
- which overload is chosen, and which failure is given where none is.

Does not own: the conversion of the arguments, or what the function computes.

Overloads with the very types of the arguments are looked for before any others, so an
overload that is written later can be chosen over one that takes the arguments too. No two
overloads of a function have the same parameters, so that there is at most one such.
-/

namespace ClauseBinding

open ClauseBinding.Outcome

/-! ## Functions and their overloads -/

namespace Function

variable {name : String} {function : Function}

private theorem ofName?_name (function : Function) : ofName? function.name = some function := by
  cases function <;> decide

private theorem ofName?_eq_some_iff : ofName? name = some function ↔ function.name = name := by
  constructor
  · intro found
    have named := List.find?_some found
    exact beq_iff_eq.mp named
  · rintro rfl
    exact ofName?_name function

private theorem ofName?_eq_none_iff :
    ofName? name = none ↔ ∀ function : Function, function.name ≠ name := by
  simp only [Option.eq_none_iff_forall_ne_some, ne_eq, ofName?_eq_some_iff]

/-- Overloads of a function differ in their parameters. -/
theorem overload_ext
    {first second : Signature}
    (isFirst : first ∈ function.signatures)
    (isSecond : second ∈ function.signatures)
    (same : first.parameters = second.parameters) : first = second := by
  have apart : ∀ first ∈ function.signatures, ∀ second ∈ function.signatures,
      first.parameters = second.parameters → first = second := by
    cases function <;> decide
  exact apart first isFirst second isSecond same

end Function

namespace Signature

variable {conversions : ConversionTable} {name : String} {arguments : List ValueType}
  {function : Function} {signature : Signature}

/-- An overload takes arguments one for one: each has the type of its parameter, is a literal
null that says nothing of its type, or promotes to the parameter by the table. -/
def Takes
    (conversions : ConversionTable)
    (arguments : List ValueType)
    (signature : Signature) : Prop :=
  List.Forall₂ (fun parameter argument =>
      argument.data = parameter
        ∨ argument.data = .null
        ∨ conversions.canPromote argument.data parameter = true)
    signature.parameters arguments

/-- An overload is the first of several that takes the arguments. -/
def FirstTaking
    (conversions : ConversionTable)
    (arguments : List ValueType)
    (overloads : List Signature)
    (signature : Signature) : Prop :=
  ∃ before after,
    overloads = before ++ signature :: after
      ∧ signature.Takes conversions arguments
      ∧ ∀ earlier ∈ before, ¬ earlier.Takes conversions arguments

private theorem isExactFor_iff :
    signature.isExactFor arguments = true ↔
      signature.parameters = arguments.map ValueType.data :=
  beq_iff_eq

private theorem acceptsArgument_iff
    {parameter : DataType}
    {argument : ValueType} :
    acceptsArgument conversions parameter argument = true ↔
      argument.data = parameter
        ∨ argument.data = .null
        ∨ conversions.canPromote argument.data parameter = true := by
  constructor
  · intro accepted
    rcases Bool.or_eq_true_iff.mp accepted with untyped | promotes
    · exact .inr (.inl (beq_iff_eq.mp untyped))
    · exact .inr (.inr promotes)
  · rintro (rfl | untyped | promotes)
    · exact acceptsArgument_of_canPromote (ConversionTable.canPromote_refl _)
    · exact acceptsArgument_of_null untyped
    · exact acceptsArgument_of_canPromote promotes

private theorem accepts_iff :
    accepts conversions signature arguments = true ↔ signature.Takes conversions arguments := by
  simp only [accepts, Bool.and_eq_true, beq_iff_eq, List.all_eq_true, Takes,
    List.forall₂_iff_zip, ← acceptsArgument_iff]
  constructor
  · rintro ⟨paired, each⟩
    exact ⟨paired, each _⟩
  · rintro ⟨paired, each⟩
    exact ⟨paired, fun _ isPaired => each isPaired⟩

private theorem find?_accepts_eq_some_iff {overloads : List Signature} :
    overloads.find? (accepts conversions · arguments) = some signature ↔
      FirstTaking conversions arguments overloads signature := by
  simp only [List.find?_eq_some_iff_append, accepts_iff, Bool.not_eq_true', ← Bool.not_eq_true,
    FirstTaking]
  constructor
  · rintro ⟨taken, before, after, split, refused⟩
    exact ⟨before, after, split, taken, refused⟩
  · rintro ⟨before, after, split, taken, refused⟩
    exact ⟨taken, before, after, split, refused⟩

private theorem takes_of_own (own : signature.parameters = arguments.map ValueType.data) :
    signature.Takes conversions arguments := by
  rw [Takes, own, List.forall₂_map_left_iff, List.forall₂_same]
  exact fun _ _ => .inl rfl

/-! ## The choice -/

/-- What becomes of a name and some arguments. -/
inductive Chooses
    (conversions : ConversionTable)
    (name : String)
    (arguments : List ValueType) : Except Failure (Function × Signature) → Prop where
  | unknown
      (unknown : ∀ function : Function, function.name ≠ name) :
      Chooses conversions name arguments (.error (.unknownFunction name))
  | refused {function : Function}
      (named : function.name = name)
      (refused : ∀ signature ∈ function.signatures, ¬ signature.Takes conversions arguments) :
      Chooses conversions name arguments (.error (.typeMismatch name arguments))
  | own {function : Function} {signature : Signature}
      (named : function.name = name)
      (overload : signature ∈ function.signatures)
      (own : signature.parameters = arguments.map ValueType.data) :
      Chooses conversions name arguments (.ok (function, signature))
  | first {function : Function} {signature : Signature}
      (named : function.name = name)
      (noneOwn : ∀ other ∈ function.signatures,
        other.parameters ≠ arguments.map ValueType.data)
      (first : FirstTaking conversions arguments function.signatures signature) :
      Chooses conversions name arguments (.ok (function, signature))

/-- An overload with the very types of the arguments is found, wherever it stands. -/
theorem find?_isExactFor
    (overload : signature ∈ function.signatures)
    (own : signature.parameters = arguments.map ValueType.data) :
    function.signatures.find? (·.isExactFor arguments) = some signature := by
  have isFound : (function.signatures.find? (·.isExactFor arguments)).isSome = true :=
    List.find?_isSome.mpr ⟨signature, overload, isExactFor_iff.mpr own⟩
  obtain ⟨other, found⟩ := Option.isSome_iff_exists.mp isFound
  have otherOwn := List.find?_some found
  have same : other.parameters = signature.parameters :=
    (isExactFor_iff.mp otherOwn).trans own.symm
  rw [found, Function.overload_ext (List.mem_of_find?_eq_some found) overload same]

private theorem find?_isExactFor_eq_none
    (noneOwn : ∀ signature ∈ function.signatures,
      signature.parameters ≠ arguments.map ValueType.data) :
    function.signatures.find? (·.isExactFor arguments) = none :=
  List.find?_eq_none.mpr fun signature overload exactly =>
    noneOwn signature overload (isExactFor_iff.mp exactly)

private theorem resolve_of_chooses
    {result : Except Failure (Function × Signature)}
    (chooses : Chooses conversions name arguments result) :
    resolve conversions name arguments = result := by
  cases chooses with
  | unknown unknown => rw [resolve, Function.ofName?_eq_none_iff.mpr unknown]
  | @refused function named refused =>
      subst named
      have noneOwn : function.signatures.find? (·.isExactFor arguments) = none :=
        find?_isExactFor_eq_none fun signature overload own =>
          refused signature overload (takes_of_own own)
      have noneTakes : function.signatures.find? (accepts conversions · arguments) = none :=
        List.find?_eq_none.mpr fun signature overload accepted =>
          refused signature overload (accepts_iff.mp accepted)
      simp only [resolve, Function.ofName?_name, noneOwn, noneTakes]
  | own named overload own =>
      subst named
      simp only [resolve, Function.ofName?_name, find?_isExactFor overload own]
  | first named noneOwn first =>
      subst named
      simp only [resolve, Function.ofName?_name, find?_isExactFor_eq_none noneOwn,
        find?_accepts_eq_some_iff.mpr first]

private theorem chooses_resolve
    (conversions : ConversionTable)
    (name : String)
    (arguments : List ValueType) :
    Chooses conversions name arguments (resolve conversions name arguments) := by
  by_cases unknown : ∀ function : Function, function.name ≠ name
  · have chooses : Chooses conversions name arguments _ := .unknown unknown
    exact resolve_of_chooses chooses ▸ chooses
  · obtain ⟨function, named⟩ : ∃ function : Function, function.name = name := by
      simpa using unknown
    by_cases noneOwn : ∀ other ∈ function.signatures,
        other.parameters ≠ arguments.map ValueType.data
    · cases found : function.signatures.find? (accepts conversions · arguments) with
      | some signature =>
          have chooses : Chooses conversions name arguments _ :=
            .first named noneOwn (find?_accepts_eq_some_iff.mp found)
          exact resolve_of_chooses chooses ▸ chooses
      | none =>
          have chooses : Chooses conversions name arguments _ :=
            .refused named fun signature overload taken =>
              List.find?_eq_none.mp found signature overload (accepts_iff.mpr taken)
          exact resolve_of_chooses chooses ▸ chooses
    · obtain ⟨signature, overload, own⟩ : ∃ other ∈ function.signatures,
          other.parameters = arguments.map ValueType.data := by
        simpa using noneOwn
      have chooses : Chooses conversions name arguments _ := .own named overload own
      exact resolve_of_chooses chooses ▸ chooses

private theorem resolve_eq_iff {result : Except Failure (Function × Signature)} :
    resolve conversions name arguments = result ↔ Chooses conversions name arguments result := by
  constructor
  · rintro rfl
    exact chooses_resolve conversions name arguments
  · exact resolve_of_chooses

/-- A call is bound exactly where an overload is chosen, and its arguments then have the
types of the parameters. -/
theorem bindCall_of_resolve
    {catalog : Catalog}
    {operands : List Expression}
    {expression : Expression}
    (bound : Expression.bindCall catalog name operands = .ok expression) :
    ∃ function signature type,
      resolve catalog.conversions name (operands.map Expression.type) = .ok (function, signature)
        ∧ expression = .call function (operands.zipWith Expression.promote signature.parameters)
          type
        ∧ (operands.zipWith Expression.promote signature.parameters).map Expression.data =
          signature.parameters := by
  obtain ⟨function, signature, resolved, rfl⟩ := Expression.bindCall_eq_ok bound
  have taken : signature.parameters.length = (operands.map Expression.type).length := by
    cases resolve_eq_iff.mp resolved with
    | own _ _ own => rw [own, List.length_map]
    | first _ _ first =>
        obtain ⟨_, _, _, taken, _⟩ := first
        exact taken.length_eq
  refine ⟨function, signature, _, resolved, rfl, Expression.map_data_promote ?_⟩
  rw [taken, List.length_map]

/-- The choice of an overload, under any table of conversions. It fails in two ways: for the
names that no function has, and for arguments that no overload of the function takes. The
overload that is chosen takes the arguments. One with their very types is preferred, and
without one the first that takes them. A call is bound exactly where an overload is chosen,
to arguments of the types of its parameters. -/
theorem resolve_determined
    (catalog : Catalog)
    (name : String)
    (arguments : List ValueType) :
    (resolve catalog.conversions name arguments = .error (.unknownFunction name) ↔
        ∀ function : Function, function.name ≠ name)
      ∧ (resolve catalog.conversions name arguments = .error (.typeMismatch name arguments) ↔
        ∃ function : Function, function.name = name
          ∧ ∀ signature ∈ function.signatures,
            ¬ signature.Takes catalog.conversions arguments)
      ∧ (∀ failure, resolve catalog.conversions name arguments = .error failure →
        failure = .unknownFunction name ∨ failure = .typeMismatch name arguments)
      ∧ (∀ function signature,
        resolve catalog.conversions name arguments = .ok (function, signature) →
          function.name = name
            ∧ signature ∈ function.signatures
            ∧ signature.Takes catalog.conversions arguments)
      ∧ (∀ function : Function, function.name = name → ∀ signature ∈ function.signatures,
        signature.parameters = arguments.map ValueType.data →
          resolve catalog.conversions name arguments = .ok (function, signature))
      ∧ (∀ function : Function, function.name = name →
        (∀ other ∈ function.signatures, other.parameters ≠ arguments.map ValueType.data) →
          ∀ signature,
            resolve catalog.conversions name arguments = .ok (function, signature) ↔
              FirstTaking catalog.conversions arguments function.signatures signature)
      ∧ ∀ operands : List Expression, operands.map Expression.type = arguments →
        (∀ failure, Expression.bindCall catalog name operands = .error failure ↔
            resolve catalog.conversions name arguments = .error failure)
          ∧ ∀ expression, Expression.bindCall catalog name operands = .ok expression →
            ∃ function signature type,
              resolve catalog.conversions name arguments = .ok (function, signature)
                ∧ expression = .call function
                  (operands.zipWith Expression.promote signature.parameters) type
                ∧ (operands.zipWith Expression.promote signature.parameters).map
                  Expression.data = signature.parameters := by
  refine ⟨?unknown, ?mismatch, ?failures, ?sound, ?own, ?first, ?bound⟩
  case unknown =>
    constructor
    · intro fails
      cases resolve_eq_iff.mp fails with
      | unknown unknown => exact unknown
    · exact fun unknown => resolve_of_chooses (.unknown unknown)
  case mismatch =>
    constructor
    · intro fails
      cases resolve_eq_iff.mp fails with
      | refused named refused => exact ⟨_, named, refused⟩
    · rintro ⟨function, named, refused⟩
      exact resolve_of_chooses (.refused named refused)
  case failures =>
    intro failure fails
    cases resolve_eq_iff.mp fails with
    | unknown => exact .inl rfl
    | refused => exact .inr rfl
  case sound =>
    intro function signature resolved
    cases resolve_eq_iff.mp resolved with
    | own named overload own => exact ⟨named, overload, takes_of_own own⟩
    | first named _ first =>
        obtain ⟨before, after, split, taken, _⟩ := first
        have overload : signature ∈ function.signatures := by
          rw [split]
          exact List.mem_append_cons_self
        exact ⟨named, overload, taken⟩
  case own =>
    exact fun function named signature overload own =>
      resolve_of_chooses (.own named overload own)
  case first =>
    intro function named noneOwn signature
    constructor
    · intro resolved
      cases resolve_eq_iff.mp resolved with
      | own _ overload own => exact absurd own (noneOwn signature overload)
      | first _ _ first => exact first
    · exact fun first => resolve_of_chooses (.first named noneOwn first)
  case bound =>
    rintro operands rfl
    refine ⟨fun failure => ?_, fun expression => bindCall_of_resolve⟩
    rw [Expression.bindCall, bind_eq_error]
    simp

/-- Of the overloads of `round` the one for doubles comes first, and it takes singles too. A
whole number is taken by both. -/
theorem resolve_determined_round :
    (Signature.mk [.float64] .float64).Takes .standard [.required .float32]
      ∧ resolve .standard "round" [.required .float32] = .ok (.round, ⟨[.float32], .float32⟩)
      ∧ FirstTaking .standard [.required .int32] Function.round.signatures
        ⟨[.float64], .float64⟩
      ∧ resolve .standard "round" [.required .int32] = .ok (.round, ⟨[.float64], .float64⟩)
      ∧ resolve .standard "rounded" [.required .int32] = .error (.unknownFunction "rounded")
      ∧ ∃ operand type,
        Expression.bindCall .empty "round" [.parameter "level" (.required .int32)] =
            .ok (.call .round [operand] type)
          ∧ [operand].map Expression.data = [.float64] := by
  have widens : (Signature.mk [.float64] .float64).Takes .standard [.required .float32] :=
    .cons (.inr (.inr (by decide))) .nil
  have first : FirstTaking .standard [.required .int32] Function.round.signatures
      ⟨[.float64], .float64⟩ :=
    ⟨[], [⟨[.float32], .float32⟩], rfl, .cons (.inr (.inr (by decide))) .nil, nofun⟩
  obtain ⟨_, _, _, _, ownOfSingles, _⟩ :=
    resolve_determined .empty "round" [.required .float32]
  obtain ⟨_, _, _, _, _, firstOfWhole, boundOfWhole⟩ :=
    resolve_determined .empty "round" [.required .int32]
  obtain ⟨unknown, _⟩ := resolve_determined .empty "rounded" [.required .int32]
  have resolved : resolve .standard "round" [.required .int32] =
      .ok (.round, ⟨[.float64], .float64⟩) :=
    (firstOfWhole .round rfl (by decide) _).mpr first
  refine ⟨widens, ownOfSingles .round rfl _ (by decide) rfl, first, resolved,
    unknown.mpr (by intro function; cases function <;> decide), ?_⟩
  obtain ⟨_, calls⟩ := boundOfWhole [.parameter "level" (.required .int32)] rfl
  obtain ⟨function, signature, type, chosen, isCall, typed⟩ := calls _ rfl
  obtain ⟨rfl, rfl⟩ := Prod.mk.inj (Except.ok.inj (chosen.symm.trans resolved))
  exact ⟨_, type, congrArg Except.ok isCall, typed⟩

end Signature

end ClauseBinding
