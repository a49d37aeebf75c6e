import ClauseBinding.Proofs.Binding.Depth
import ClauseBinding.Proofs.Laws.Comparison
import ClauseBinding.Proofs.Schema.Flags

/-!
Contract: members of an enumeration go by their own names.

Owns:
- which members have the number that their name stands for when it is used as a text;
- what a text that stands for a number is bound to beside a clause of the enumeration, on
  either side of a comparison.

Does not own: texts that list several names.

A text is taken for a list before any name is looked up. So in an enumeration of flags a
member whose name has a comma goes by the names between the commas, and registration does
not refuse it: its own name has no number, or that of other members.
-/

namespace ClauseBinding

open ClauseBinding.Outcome
open ClauseBinding.Text

/-! ## Numbers of names -/

namespace EnumerationType

variable {type : EnumerationType} {text : String} {number : Int64}

/-- For flags, a text with a comma stands for a number if all names that it lists have one
and their numbers combine to it. -/
theorem valueOf?_of_comma_iff
    (flags : type.isFlags = true)
    (comma : ',' ∈ text.toList) :
    type.valueOf? text = some number ↔
      (∀ listed ∈ listedNames text, type.memberValue? listed ≠ none)
        ∧ combined ((listedNames text).map type.numberOf) = number := by
  rw [valueOf?_of_comma flags comma]
  by_cases known : ∀ listed ∈ listedNames text, type.memberValue? listed ≠ none
  · rw [foldlM_memberValue? known, Option.some_inj]
    exact (and_iff_right known).symm
  · have unknown : ∃ listed ∈ listedNames text, type.memberValue? listed = none := by
      simpa using known
    rw [foldlM_memberValue?_of_unknown unknown]
    exact ⟨nofun, fun both => absurd both.1 known⟩

/-- A member goes by its own name, unless the name is taken for a list of other names. -/
theorem valueOf?_own_name_iff
    (own : type.memberValue? text = some number) :
    type.valueOf? text = some number ↔
      (type.isFlags = true → ',' ∈ text.toList →
        (∀ listed ∈ listedNames text, type.memberValue? listed ≠ none)
          ∧ combined ((listedNames text).map type.numberOf) = number) := by
  by_cases comma : ',' ∈ text.toList
  · cases flags : type.isFlags with
    | true => simp only [valueOf?_of_comma_iff flags comma, comma, forall_const]
    | false =>
        have asName : type.valueOf? text = type.memberValue? text := by
          rw [valueOf?, flags]
          rfl
        simp [asName, own]
  · simp [valueOf?_of_no_comma comma, own, comma]

end EnumerationType

/-! ## Comparisons -/

namespace Expression

variable {catalog : Catalog} {operand : Expression} {typeName text : String} {value : Int64}
variable {textType : ValueType}

private theorem besideEnumeration?_of_known
    {operation : String}
    (enumerated : operand.data = .enumeration typeName)
    (known : (catalog.enumeration? typeName).bind (·.valueOf? text) = some value) :
    besideEnumeration? catalog operation operand (.constant (.string text) textType) =
      .ok (some (ofNamed typeName value)) := by
  simp only [besideEnumeration?, enumerationName?, enumerated, enumerationConstant?,
    textConstant?, known]
  rfl

/-- Two operands of one enumeration are compared in it. -/
theorem comparisonType?_enumeration
    (conversions : ConversionTable)
    (operator : Comparison)
    (typeName : String) :
    comparisonType? conversions operator (.enumeration typeName) (.enumeration typeName) =
      some (.enumeration typeName) := by
  cases operator <;> simp [comparisonType?, isComparable, Comparison.needsOrder,
    DataType.isNumeric, DataType.isEnumeration, DataType.isOrderable]

/-- Of operands that are no absent constants every operator is a comparison like any other. -/
theorem bindComparison_of_present
    {left right : Expression}
    (leftPresent : left.isNullConstant = false)
    (rightPresent : right.isNullConstant = false)
    (operator : Comparison) :
    bindComparison catalog operator left right =
      bindOrdinaryComparison catalog operator left right := by
  unfold bindComparison
  split
  case isTrue => rfl
  case isFalse => rw [leftPresent, rightPresent]

/-- Equality of an absent constant with anything else is the test whether that is absent. -/
theorem bindComparison_of_absent
    {left right : Expression}
    (leftAbsent : left.isNullConstant = true)
    (rightPresent : right.isNullConstant = false) :
    bindComparison catalog .eq left right = .ok (absence right false) := by
  unfold bindComparison
  rw [leftAbsent, rightPresent]
  rfl

/-- Beside an operand of an enumeration, a text is compared as the number it stands for. -/
theorem bindComparison_known
    (operator : Comparison)
    (enumerated : operand.data = .enumeration typeName)
    (present : operand.isNullConstant = false)
    (known : (catalog.enumeration? typeName).bind (·.valueOf? text) = some value) :
    bindComparison catalog operator operand (.constant (.string text) (.required .string)) =
        .ok (compare operator operand (ofNamed typeName value))
      ∧ bindComparison catalog operator (.constant (.string text) (.required .string)) operand =
        .ok (compare operator (ofNamed typeName value) operand) := by
  have beside : besideEnumeration? catalog operator.keyword operand
      (.constant (.string text) (.required .string)) = .ok (some (ofNamed typeName value)) :=
    besideEnumeration?_of_known enumerated known
  have textBeside : besideEnumeration? catalog operator.keyword
      (.constant (.string text) (.required .string)) operand = .ok none :=
    besideEnumeration?_of_string rfl
  have operandKept : operand.promote (.enumeration typeName) = operand := if_pos enumerated
  have namedKept : (ofNamed typeName value).promote (.enumeration typeName) =
      ofNamed typeName value := if_pos rfl
  have resolvedRight : resolveEnumerations catalog operator.keyword operand
      (.constant (.string text) (.required .string)) = .ok (operand, ofNamed typeName value) := by
    rw [resolveEnumerations, beside]
    rfl
  have resolvedLeft : resolveEnumerations catalog operator.keyword
      (.constant (.string text) (.required .string)) operand =
        .ok (ofNamed typeName value, operand) := by
    rw [resolveEnumerations, textBeside, ok_bind, beside]
    rfl
  have chosen := comparisonType?_enumeration catalog.conversions operator typeName
  have chosenRight : comparisonType? catalog.conversions operator operand.data
      (ofNamed typeName value).data = some (.enumeration typeName) := by
    rw [enumerated]
    exact chosen
  have chosenLeft : comparisonType? catalog.conversions operator (ofNamed typeName value).data
      operand.data = some (.enumeration typeName) := by
    rw [enumerated]
    exact chosen
  constructor
  · rw [bindComparison_of_present present rfl,
      bindOrdinaryComparison_of_resolved resolvedRight chosenRight, operandKept, namedKept]
  · rw [bindComparison_of_present rfl present,
      bindOrdinaryComparison_of_resolved resolvedLeft chosenLeft, operandKept, namedKept]

end Expression

namespace Clause

variable {context : Context} {left right : Clause} {boundLeft boundRight : Expression}

/-- Two operands that are bound one level deeper had room for their operator. -/
theorem bind_binary_of_operands
    (operator : BinaryOperator)
    (leftBound : left.bind context.deeper = .ok boundLeft)
    (rightBound : right.bind context.deeper = .ok boundRight) :
    (Clause.binary operator left right).bind context =
      Expression.bindBinary context.catalog operator boundLeft boundRight := by
  have fits : context.Fits (1 + left.need) := by
    have room := fits_of_bind leftBound
    simp only [Context.Fits] at room ⊢
    omega
  rw [bind, fits.descend, ok_bind, leftBound, ok_bind, rightBound, ok_bind]

/-- A text is bound wherever some other clause is. -/
theorem bind_text
    (text : String)
    (bound : left.bind context = .ok boundLeft) :
    (Clause.ofValue (.string text)).bind context =
      .ok (.constant (.string text) (.required .string)) := by
  have isText : ofValue (.string text) = .literal (.string text) (.required .string) := rfl
  have fits : context.Fits 1 := by
    have room := fits_of_bind bound
    have positive : 1 ≤ left.need := by cases left <;> simp only [need] <;> omega
    simp only [Context.Fits] at room ⊢
    omega
  rw [isText, bind, @Context.Fits.descend _ 0 fits]
  rfl

end Clause

/-! ## Members and their names -/

namespace EnumerationType

/-- A member of an enumeration goes by its own name exactly unless the enumeration is one of
flags, the name has a comma, and the names between the commas are not those of members whose
numbers combine to its own. Where it does, its name as a text beside a clause of the
enumeration is bound, to a comparison with its number in whichever order they stand; beside
a constant that is absent, equality is the test for absence that it always is. -/
theorem own_names_resolve
    {name : String}
    {members : List (String × Int64)}
    {isFlags : Bool}
    {type : EnumerationType}
    (defined : define name members isFlags = .ok type) :
    ∀ member ∈ members,
      (type.valueOf? member.1 = some member.2 ↔
        (isFlags = true → ',' ∈ member.1.toList →
          (∀ listed ∈ listedNames member.1, listed ∈ members.map Prod.fst)
            ∧ combined ((listedNames member.1).map type.numberOf) = member.2))
        ∧ (type.valueOf? member.1 = some member.2 →
          ∀ (context : Context) (operand : Clause) (bound : Expression),
            context.catalog.enumeration? name = some type →
            operand.bind context.deeper = .ok bound →
            bound.data = .enumeration name →
              (bound.isNullConstant = false → ∀ operator,
                (Clause.binary (.comparison operator) operand
                    (.ofValue (.string member.1))).bind context =
                  .ok (.compare operator bound (.ofNamed name member.2))
                ∧ (Clause.binary (.comparison operator) (.ofValue (.string member.1))
                    operand).bind context =
                  .ok (.compare operator (.ofNamed name member.2) bound))
              ∧ (bound.isNullConstant = true →
                (Clause.binary (.comparison .eq) operand
                    (.ofValue (.string member.1))).bind context =
                  .ok (.absence (.constant (.string member.1) (.required .string)) false))) := by
  obtain ⟨rfl, -, distinct⟩ := define_eq_ok.mp defined
  rintro ⟨member, number⟩ isMember
  have own : memberValue? ⟨name, members, isFlags⟩ member = some number :=
    (Table.find?_eq_some_iff distinct _ _).mpr isMember
  have named (listed : String) :
      memberValue? ⟨name, members, isFlags⟩ listed ≠ none ↔ listed ∈ members.map Prod.fst := by
    rw [memberValue?, Ne, Table.find?_eq_none_iff, Table.names, not_not]
  constructor
  · rw [valueOf?_own_name_iff own]
    simp only [named]
  · intro resolved context operand bound registered operandBound enumerated
    have known : (context.catalog.enumeration? name).bind (·.valueOf? member) = some number := by
      rw [registered, Option.bind_some, resolved]
    have textBound := Clause.bind_text member operandBound
    constructor
    · intro present operator
      obtain ⟨onRight, onLeft⟩ :=
        Expression.bindComparison_known operator enumerated present known
      rw [Clause.bind_binary_of_operands _ operandBound textBound,
        Clause.bind_binary_of_operands _ textBound operandBound]
      exact ⟨onRight, onLeft⟩
    · intro absent
      rw [Clause.bind_binary_of_operands _ operandBound textBound]
      exact Expression.bindComparison_of_absent absent rfl

/-- Rights of access, one of which is called what two of the others make together. -/
def accessRights : EnumerationType where
  name := "Access"
  members := [("read", 1), ("write", 2), ("read,write", 8), ("list, grant", 16)]
  isFlags := true

def files : Context where
  catalog := ⟨[("File", ⟨"File", [⟨"access", .enumeration "Access", true⟩], []⟩)],
    [("Access", accessRights)], .standard⟩
  elementType := .structured "File"
  configuration := {}
  scope := [⟨"file", .required (.structured "File")⟩]
  depth := 1
  filterSeen := true

/-- A member whose name has no comma goes by it, in a clause too. -/
theorem own_names_resolve_write :
    define "Access" accessRights.members true = .ok accessRights
      ∧ accessRights.valueOf? "write" = some 2
      ∧ ∃ bound,
        (Clause.binary (.comparison .eq) (.member (.reference "file") "access")
            (.ofValue (.string "write"))).bind files =
          .ok (.compare .eq bound (.ofNamed "Access" 2)) := by
  have defined : define "Access" accessRights.members true = .ok accessRights := rfl
  obtain ⟨resolves, binds⟩ := own_names_resolve defined ("write", 2) (by decide)
  have resolved := resolves.mpr fun _ comma => absurd comma (by decide +kernel)
  obtain ⟨compared, -⟩ := binds resolved files (.member (.reference "file") "access") _ rfl rfl rfl
  exact ⟨defined, resolved, _, (compared rfl .eq).1⟩

/-- A name that registration accepts stands for the number of other members, or for none. -/
theorem own_name_with_comma :
    define "Access" accessRights.members true = .ok accessRights
      ∧ ("read,write", 8) ∈ accessRights.members
      ∧ accessRights.valueOf? "read,write" = some 3
      ∧ ("list, grant", 16) ∈ accessRights.members
      ∧ accessRights.valueOf? "list, grant" = none
      ∧ (Clause.binary (.comparison .eq) (.member (.reference "file") "access")
            (.ofValue (.string "list, grant"))).bind files =
          .error (.typeMismatch "eq" [.optional (.enumeration "Access"), .required .string]) :=
  ⟨rfl, by decide, by decide +kernel, by decide, by decide +kernel, by rfl⟩

end EnumerationType

end ClauseBinding
