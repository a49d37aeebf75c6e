import ClauseBinding.Proofs.Rows.Conjunction
import ClauseBinding.Proofs.Schema.Flags

/-!
Contract: tests for a list of flags, and the conjunction of tests for each of them.

Owns:
- that a value has combined flags if it has each of them;
- what a test for the flags of a text is bound to;
- that a list of flags means conjunction, in an enumeration and in a filter.

Does not own: the texts that list names, and conjunctions of other conditions.

The operand of the tests is bound once for each name, always to the same expression. It may
be absent or fail, as it does in every test alike: so the conjunction does not go on after
an unknown test to anything that is not known already, and the two filters have the same
outcome also where they fail.
-/

namespace ClauseBinding

open ClauseBinding.Outcome
open ClauseBinding.Text

/-! ## Values -/

namespace Value

variable {typeName : String}

/-- A test for flags is unknown unless the value holds a whole number. -/
theorem hasFlags_enumeration
    (value : Value)
    (flags : Int64) :
    value.hasFlags (.enumeration typeName flags) =
      ofTruth? (value.toInt64?.map (fun number => number &&& flags == flags)) := by
  unfold hasFlags
  cases value.toInt64? <;> rfl

/-- Testing for each of two numbers is testing for their combination. -/
theorem hasFlags_and
    (outcome : Except Failure Value)
    (left right : Int64) :
    Connective.and.onOutcomes
        (outcome >>= fun value => pure (value.hasFlags (.enumeration typeName left)))
        (outcome >>= fun value => pure (value.hasFlags (.enumeration typeName right))) =
      outcome >>= fun value => pure (value.hasFlags (.enumeration typeName (left ||| right))) := by
  cases outcome with
  | error failure => rfl
  | ok value =>
      simp only [Connective.onOutcomes_eq, ok_bind, pure_bind, hasFlags_enumeration]
      cases value.toInt64? with
      | none => rfl
      | some number =>
          simp only [Option.map_some, EnumerationType.masked_or]
          cases number &&& left == left <;> cases number &&& right == right <;> rfl

end Value

/-! ## Bound tests -/

namespace Expression

variable {catalog : Catalog} {operand expression : Expression} {text typeName : String}

def flagTest
    (operand : Expression)
    (typeName : String)
    (number : Int64) : Expression :=
  .has operand (.constant (.enumeration typeName number) (.required (.enumeration typeName)))
    ⟨.bool, operand.isNullable⟩

private theorem evaluate_flagTest
    (operand : Expression)
    (typeName : String)
    (number : Int64)
    (bindings : Bindings) :
    (operand.flagTest typeName number).guardNulls.evaluate bindings =
      operand.guardNulls.evaluate bindings >>= fun value =>
        pure (value.hasFlags (.enumeration typeName number)) := rfl

/-- Beside an operand, a text names a number of the enumeration that the operand has for its
type. -/
structure NamesFlags
    (catalog : Catalog)
    (operand : Expression)
    (text typeName : String)
    (enumeration : EnumerationType)
    (number : Int64) : Prop where
  enumerated : operand.data = .enumeration typeName
  registered : catalog.enumeration? typeName = some enumeration
  flags : enumeration.isFlags = true
  known : enumeration.valueOf? text = some number

private theorem bindHas_text
    {enumeration : EnumerationType}
    {number : Int64}
    (literalType : ValueType)
    (names : NamesFlags catalog operand text typeName enumeration number) :
    bindHas catalog operand (.constant (.string text) literalType) =
      .ok (operand.flagTest typeName number) := by
  have named : operand.enumerationName? = some typeName := by
    simp [enumerationName?, names.enumerated]
  have hasFlags : hasFlags catalog typeName = true := by
    simp [Expression.hasFlags, names.registered, names.flags]
  simp only [bindHas, named, hasFlags, if_true, enumerationConstant?, textConstant?,
    names.registered, Option.bind_some, names.known, ok_bind, flagTest, isNullable, Expression.type,
    ValueType.required, Bool.or_false]
  rfl

/-- Whatever a text is bound to beside an operand is a test for its number. -/
theorem eq_flagTest_of_bindHas
    {literalType : ValueType}
    (bound : bindHas catalog operand (.constant (.string text) literalType) = .ok expression) :
    ∃ typeName enumeration number,
      NamesFlags catalog operand text typeName enumeration number
        ∧ expression = operand.flagTest typeName number := by
  cases binaryRule_of_has bound with
  | @namedFlag typeName _ number enumerated isFlags isText known =>
      obtain ⟨enumeration, registered, flags⟩ := exists_flags isFlags
      obtain rfl := Option.some.inj isText
      rw [registered] at known
      refine ⟨typeName, enumeration, number, ⟨enumerated, registered, flags, known⟩, ?_⟩
      simp only [flagTest, ofNamed, isNullable, Expression.type, ValueType.required, Bool.or_false]
  | flag _ _ noText => cases noText

/-- A condition that tests an operand for all flags of some names. -/
structure TestsFlags
    (operand : Expression)
    (typeName : String)
    (enumeration : EnumerationType)
    (names : List String)
    (condition : Expression) : Prop where
  known : ∀ name ∈ names, enumeration.memberValue? name ≠ none
  isTruth : condition.data = .bool
  nullability : condition.isNullable = operand.isNullable
  keepsType : condition.guardNulls.type = condition.type
  evaluates : ∀ bindings,
    condition.guardNulls.evaluate bindings =
      (operand.flagTest typeName
        (EnumerationType.combined (names.map enumeration.numberOf))).guardNulls.evaluate bindings

namespace TestsFlags

variable {enumeration : EnumerationType} {names : List String} {left right : Expression}

theorem single
    {name : String}
    {number : Int64}
    (named : enumeration.memberValue? name = some number) :
    TestsFlags operand typeName enumeration [name] (operand.flagTest typeName number) where
  known := by simp [named]
  isTruth := rfl
  nullability := rfl
  keepsType := rfl
  evaluates bindings := by
    rw [List.map_singleton, EnumerationType.combined_singleton, EnumerationType.numberOf, named,
      Option.getD_some]

/-- One more name. -/
theorem append
    {last : String}
    (before : TestsFlags operand typeName enumeration names left)
    (after : TestsFlags operand typeName enumeration [last] right) :
    TestsFlags operand typeName enumeration (names ++ [last]) (connect .and left right) where
  known := List.forall_mem_append.mpr ⟨before.known, after.known⟩
  isTruth := rfl
  nullability := by
    have either : (connect .and left right).isNullable = (left.isNullable || right.isNullable) :=
      rfl
    rw [either, before.nullability, after.nullability, Bool.or_self]
  keepsType := rfl
  evaluates bindings := by
    rw [evaluate_connect, before.evaluates, after.evaluates, List.map_append, List.map_singleton,
      EnumerationType.combined_append, EnumerationType.combined_singleton]
    simp only [evaluate_flagTest]
    exact Value.hasFlags_and _ _ _

theorem type_guardNulls (tests : TestsFlags operand typeName enumeration names expression) :
    expression.guardNulls.type = ⟨.bool, operand.isNullable⟩ := by
  rw [tests.keepsType, ← tests.isTruth, ← tests.nullability]
  rfl

end TestsFlags

end Expression

/-! ## Filters -/

namespace FilterClause

variable {operand : Clause} {rangeVariable text : String}

def onFlags
    (operand : Clause)
    (rangeVariable text : String) : FilterClause :=
  ⟨.binary .has operand (.ofValue (.string text)), rangeVariable⟩

def onEachFlag
    (operand : Clause)
    (rangeVariable first : String)
    (others : List String) : FilterClause :=
  (onFlags operand rangeVariable first).conjunction (others.map (onFlags operand rangeVariable))

private theorem binds_onFlags
    {catalog : Catalog}
    {scope : List Parameter}
    {condition : Expression}
    (binds : Clause.Binds catalog scope (onFlags operand rangeVariable text).condition condition) :
    ∃ bound typeName enumeration number,
      Clause.Binds catalog scope operand bound
        ∧ Expression.NamesFlags catalog bound text typeName enumeration number
        ∧ condition = bound.flagTest typeName number := by
  cases binds with
  | binary operandBinds literalBinds bound =>
      cases literalBinds
      obtain ⟨typeName, enumeration, number, names, rfl⟩ := Expression.eq_flagTest_of_bindHas bound
      exact ⟨_, typeName, enumeration, number, operandBinds, names, rfl⟩

section Each

variable {inside : Context} {first : String} {others : List String} {condition : Expression}

/-- The tests for each of some names test for all of their flags. The induction is from the
first test outwards, as the conjunction is over `and` from the left. The operand is bound to
one expression only, in a context in which its levels fit. -/
theorem binds_onEachFlag
    (fits : inside.Fits operand.need)
    (single : ∀ name ∈ first :: others, ',' ∉ name.toList)
    (binds : Clause.Binds inside.catalog inside.scope
      (onEachFlag operand rangeVariable first others).condition condition) :
    ∃ bound typeName enumeration,
      Clause.Binds inside.catalog inside.scope operand bound
        ∧ bound.data = .enumeration typeName
        ∧ inside.catalog.enumeration? typeName = some enumeration
        ∧ enumeration.isFlags = true
        ∧ Expression.TestsFlags bound typeName enumeration (first :: others) condition := by
  induction others using List.reverseRecOn generalizing condition with
  | nil =>
      obtain ⟨bound, typeName, enumeration, number, operandBinds, names, rfl⟩ := binds_onFlags binds
      have firstSingle := List.forall_mem_singleton.mp single
      have named := names.known
      rw [EnumerationType.valueOf?_of_no_comma firstSingle] at named
      exact ⟨bound, typeName, enumeration, operandBinds, names.enumerated, names.registered,
        names.flags, .single named⟩
  | append_singleton others last inductionHypothesis =>
      rw [← List.cons_append, List.forall_mem_append, List.forall_mem_singleton] at single
      obtain ⟨othersSingle, lastSingle⟩ := single
      rw [onEachFlag, List.map_append, List.map_singleton, conjunction_append] at binds
      cases binds with
      | binary leftBinds rightBinds connected =>
          obtain ⟨bound, typeName, enumeration, operandBinds, enumerated, registered, flags, tests⟩ :=
            inductionHypothesis othersSingle leftBinds
          obtain ⟨again, againName, againType, number, againBinds, names, rfl⟩ :=
            binds_onFlags rightBinds
          obtain rfl : again = bound := againBinds.unique operandBinds fits
          obtain rfl : againName = typeName := by
            simpa [names.enumerated] using enumerated
          obtain rfl : againType = enumeration := by
            simpa [names.registered] using registered
          have named := names.known
          rw [EnumerationType.valueOf?_of_no_comma lastSingle] at named
          have single : Expression.TestsFlags again againName againType [last]
              (again.flagTest againName number) := .single named
          have asTheyAre : Expression.bindConnective .and _ _ = .ok _ :=
            Expression.bindConnective_of_truth tests.isTruth single.isTruth
          obtain rfl := Except.ok.inj (asTheyAre.symm.trans connected)
          exact ⟨again, againName, againType, operandBinds, enumerated, registered, flags,
            tests.append single⟩

private theorem need_le_need_onEachFlag :
    (onFlags operand rangeVariable text).condition.need ≤
      (onEachFlag operand rangeVariable first others).condition.need := by
  induction others using List.reverseRecOn with
  | nil => exact Nat.le_refl _
  | append_singleton others last inductionHypothesis =>
      rw [onEachFlag, List.map_append, List.map_singleton, conjunction_append, Clause.need]
      rw [onEachFlag] at inductionHypothesis
      omega

/-- Where the tests for each of some names are bound, the test for a list of them is bound to
something that has the same value. -/
theorem binds_onFlags_of_each
    (fits : inside.Fits operand.need)
    (several : others ≠ [])
    (listable : ∀ name ∈ first :: others, Listable name)
    (lists : Lists text (first :: others))
    (binds : Clause.Binds inside.catalog inside.scope
      (onEachFlag operand rangeVariable first others).condition condition) :
    ∃ listed,
      Clause.Binds inside.catalog inside.scope (onFlags operand rangeVariable text).condition listed
        ∧ listed.guardNulls.type = condition.guardNulls.type
        ∧ ∀ bindings,
          listed.guardNulls.evaluate bindings = condition.guardNulls.evaluate bindings := by
  have single : ∀ name ∈ first :: others, ',' ∉ name.toList := fun name member =>
    (listable name member).noComma
  obtain ⟨bound, typeName, enumeration, operandBinds, enumerated, registered, flags, tests⟩ :=
    binds_onEachFlag fits single binds
  have severalNames : 2 ≤ (first :: others).length :=
    Nat.succ_le_succ (List.length_pos_of_ne_nil several)
  have known := EnumerationType.valueOf?_of_known flags severalNames listable lists tests.known
  have listedBound := Expression.bindHas_text (.required .string)
    ⟨enumerated, registered, flags, known⟩
  refine ⟨_, .binary operandBinds (.literal _ _) listedBound, tests.type_guardNulls.symm, ?_⟩
  exact fun bindings => (tests.evaluates bindings).symm

end Each

/-- The test for a list of names is bound where the tests for each of them are, and has the
same outcome for every value. -/
theorem onFlags_of_each
    {context : Context}
    {first : String}
    {others : List String}
    {each : Predicate}
    (several : others ≠ [])
    (listable : ∀ name ∈ first :: others, Listable name)
    (lists : Lists text (first :: others))
    (bound : (onEachFlag operand rangeVariable first others).bindIn context = .ok each) :
    ∃ listed,
      (onFlags operand rangeVariable text).bindIn context = .ok listed
        ∧ ∀ value, listed.accepts value = each.accepts value := by
  let inside : Context :=
    { context.deeper with
      scope := ⟨rangeVariable, .required context.elementType⟩ :: context.scope }
  have noDeeper := @need_le_need_onEachFlag operand rangeVariable text first others
  have sameVariable : onEachFlag operand rangeVariable first others =
      ⟨(onEachFlag operand rangeVariable first others).condition, rangeVariable⟩ :=
    congrArg (FilterClause.mk _) rangeVariable_conjunction
  rw [sameVariable] at bound
  obtain ⟨⟨condition, binds, -⟩, fits⟩ := bindOver_eq_ok_iff.mp bound
  have operandFits : inside.Fits operand.need := by
    rw [onFlags, Clause.need] at noDeeper
    simp only [Context.Fits, inside] at fits ⊢
    omega
  have counterpart := @binds_onFlags_of_each operand rangeVariable text inside first others
  obtain ⟨listed, listedBound⟩ : BindsIn (onFlags operand rangeVariable text) context := by
    refine BindsIn.alike noDeeper ?_ ⟨each, bound⟩
    intro expression expressionBinds
    obtain ⟨alike, alikeBinds, sameType, -⟩ :=
      counterpart operandFits several listable lists expressionBinds
    exact ⟨alike, alikeBinds, sameType⟩
  obtain ⟨alike, alikeBinds, -, sameValue⟩ :=
    counterpart operandFits several listable lists binds
  refine ⟨listed, listedBound, ?_⟩
  intro value
  rw [(accepts_of_binds listedBound alikeBinds).2, (accepts_of_binds bound binds).2]
  exact congrArg (· >>= Value.truth) (sameValue _)

end FilterClause

/-! ## Lists of flags -/

namespace EnumerationType

/-- A list of flags means conjunction. In an enumeration of flags, a text that lists several
names has their numbers combined, and texts that list the same names have the same number; a
text with a comma that lists anything else has none. And where the tests of an operand for
each of some names are bound, so is the test for a list of them, with the same outcome for
every value. -/
theorem flag_list_means_conjunction
    {name : String}
    {members : List (String × Int64)}
    {type : EnumerationType}
    (defined : define name members true = .ok type) :
    (∀ (text : String) (entries : List (String × Int64)),
        2 ≤ entries.length →
        (∀ entry ∈ entries, entry ∈ members ∧ Listable entry.1) →
        Lists text (entries.map Prod.fst) →
          type.valueOf? text = some (combined (entries.map Prod.snd)))
      ∧ (∀ (text other : String) (names otherNames : List String),
        2 ≤ names.length ∧ 2 ≤ otherNames.length →
        (∀ name ∈ names, Listable name) →
        Lists text names →
        Lists other otherNames →
        (∀ name, name ∈ names ↔ name ∈ otherNames) →
          type.valueOf? text = type.valueOf? other)
      ∧ (∀ text : String,
        ',' ∈ text.toList →
        (∃ part ∈ fields ',' text.toList, String.ofList (trim part) ∉ members.map Prod.fst) →
          type.valueOf? text = none)
      ∧ ∀ (context : Context) (operand : Clause) (rangeVariable text first : String)
          (others : List String) (each : Predicate),
        others ≠ [] →
        (∀ name ∈ first :: others, Listable name) →
        Lists text (first :: others) →
        (FilterClause.onEachFlag operand rangeVariable first others).bindIn context = .ok each →
          ∃ listed,
            (FilterClause.onFlags operand rangeVariable text).bindIn context = .ok listed
              ∧ ∀ value, listed.accepts value = each.accepts value := by
  obtain ⟨rfl, -, distinct⟩ := define_eq_ok.mp defined
  refine ⟨?combines, ?same, ?unknown, ?filters⟩
  case combines =>
    intro text entries several areMembers lists
    refine valueOf?_of_entries rfl several ?_ lists
    intro entry member
    obtain ⟨isMember, listable⟩ := areMembers entry member
    exact ⟨(Table.find?_eq_some_iff distinct _ _).mpr isMember, listable⟩
  case same =>
    intro text other names otherNames several listable lists otherLists same
    exact valueOf?_of_same rfl several listable lists otherLists same
  case unknown =>
    rintro text comma ⟨part, isField, isNone⟩
    exact valueOf?_of_unknown rfl comma ⟨part, isField, Table.find?_eq_none_iff.mpr isNone⟩
  case filters =>
    intro context operand rangeVariable text first others each several listable lists bound
    exact FilterClause.onFlags_of_each several listable lists bound

/-- Rights of access, one of which holds all of the others. -/
def rights : EnumerationType := ⟨"Rights", [("read", 1), ("write", 3), ("all", -1)], true⟩

def documents : Context :=
  .start ⟨[("Document", ⟨"Document", [⟨"rights", .enumeration "Rights", true⟩], []⟩)],
    [("Rights", rights)], .standard⟩ (.structured "Document") {}

/-- Writing holds reading, as its number has the same digits and one more. -/
theorem flag_list_means_conjunction_rights :
    define "Rights" rights.members true = .ok rights
      ∧ rights.valueOf? " write ,read" = some 3
      ∧ rights.valueOf? "write,none" = none
      ∧ ∃ each listed,
        (FilterClause.onEachFlag (.member (.reference "it") "rights") "it" "write" ["read"]).bindIn
            documents = .ok each
          ∧ (FilterClause.onFlags (.member (.reference "it") "rights") "it" " write ,read").bindIn
            documents = .ok listed
          ∧ ∀ value, listed.accepts value = each.accepts value := by
  have shown : listedNames " write ,read" = ["write", "read"] := rfl
  have listable : ∀ name ∈ ["write", "read"], Listable name := fun name member =>
    listable_of_mem_listedNames (shown ▸ member)
  have lists : Lists " write ,read" ["write", "read"] := shown ▸ lists_listedNames _
  obtain ⟨combines, -, unknown, filters⟩ :=
    @flag_list_means_conjunction "Rights" rights.members rights rfl
  obtain ⟨listed, listedBound, sameOutcome⟩ :=
    filters documents (.member (.reference "it") "rights") "it" _ "write" ["read"] _
      (List.cons_ne_nil _ _) listable lists rfl
  refine ⟨rfl, ?_, ?_, _, listed, rfl, listedBound, sameOutcome⟩
  · have areMembers : ∀ entry ∈ [("write", (3 : Int64)), ("read", 1)],
        entry ∈ rights.members ∧ Listable entry.1 := by
      intro entry member
      exact ⟨by revert entry; decide, listable _ (List.mem_map_of_mem member)⟩
    exact combines _ [("write", 3), ("read", 1)] (by decide) areMembers lists
  · exact unknown _ (by decide) ⟨"none".toList, by decide, by decide⟩

end EnumerationType

end ClauseBinding
