import Mathlib.Data.List.Nodup
import ClauseBinding.Schema.Definition

/-!
Contract: which definitions can be made.

Owns:
- that the search for a repeated name finds one unless the names are distinct;
- well-formed definitions, and that these and no others are made;
- that what is made is what was asked for.

Does not own: which fault a refused definition is reported with.
-/

namespace ClauseBinding

/-! ## Repeated names -/

/-- The names seen so far are general, as each name is seen by those after it. -/
theorem firstRepeated?_eq_none_iff
    {seen names : List String} :
    firstRepeated? seen names = none ↔ names.Nodup ∧ ∀ name ∈ names, name ∉ seen := by
  induction names generalizing seen with
  | nil => simp [firstRepeated?]
  | cons name rest inductionHypothesis =>
      by_cases repeated : name ∈ seen
      · simp [firstRepeated?, repeated]
      · have newToRest : firstRepeated? seen (name :: rest) = firstRepeated? (name :: seen) rest := by
          simp [firstRepeated?, repeated]
        rw [newToRest, inductionHypothesis, List.nodup_cons]
        constructor
        · rintro ⟨distinct, unseen⟩
          have nameOnce : name ∉ rest := fun member => unseen name member List.mem_cons_self
          refine ⟨⟨nameOnce, distinct⟩, List.forall_mem_cons.mpr ⟨repeated, ?_⟩⟩
          exact fun other member isSeen => unseen other member (List.mem_cons_of_mem _ isSeen)
        · rintro ⟨⟨nameOnce, distinct⟩, unseen⟩
          refine ⟨distinct, ?_⟩
          intro other member isSeen
          rcases List.mem_cons.mp isSeen with rfl | isOld
          · exact nameOnce member
          · exact unseen other (List.mem_cons_of_mem _ member) isOld

private theorem firstRepeated?_nil {names : List String} :
    firstRepeated? [] names = none ↔ names.Nodup := by
  simp [firstRepeated?_eq_none_iff]

/-! ## Structured types -/

/-- Only the empty name is refused. -/
theorem MemberDefinition.define_eq_ok
    {name : String}
    {data : DataType}
    {nullable : Bool}
    {member : MemberDefinition} :
    define name data nullable = .ok member ↔ name ≠ "" ∧ member = ⟨name, data, nullable⟩ := by
  rw [eq_comm (a := member)]
  by_cases empty : name = "" <;> simp [define, empty]

namespace StructuredType

/-- A type has members, no two of one name and none without a name, and every name of its
key is that of a member that is always present. -/
structure WellFormed (type : StructuredType) : Prop where
  inhabited : type.members ≠ []
  distinct : (type.members.map (·.name)).Nodup
  named : ∀ member ∈ type.members, member.name ≠ ""
  key : ∀ name ∈ type.key, ∃ member,
    type.member? name = some member ∧ member.nullable = false

def Made (type : StructuredType) : Prop :=
  ∃ name members key,
    define name members key = .ok type
      ∧ ∀ member ∈ members, ∃ name data nullable,
        MemberDefinition.define name data nullable = .ok member

private theorem keyFault?_eq_none_iff
    {type : StructuredType}
    {name : String} :
    type.keyFault? name = none ↔
      ∃ member, type.member? name = some member ∧ member.nullable = false := by
  unfold keyFault?
  cases type.member? name with
  | none => simp
  | some member => cases nullable : member.nullable <;> simp [nullable]

/-- A type is made as it was asked for, if nothing is wrong with it. -/
theorem define_eq_ok
    {name : String}
    {members : List MemberDefinition}
    {key : List String}
    {type : StructuredType} :
    define name members key = .ok type ↔
      type = ⟨name, members, key⟩
        ∧ members ≠ []
        ∧ (members.map (·.name)).Nodup
        ∧ ∀ name ∈ type.key, ∃ member,
          type.member? name = some member ∧ member.nullable = false := by
  have faultless : key.findSome? (keyFault? ⟨name, members, key⟩) = none ↔
      ∀ keyName ∈ key, ∃ member,
        StructuredType.member? ⟨name, members, key⟩ keyName = some member
          ∧ member.nullable = false := by
    rw [List.findSome?_eq_none_iff]
    exact forall₂_congr fun _ _ => keyFault?_eq_none_iff
  simp only [define, List.isEmpty_iff]
  constructor
  · intro defined
    split at defined
    case isTrue => cases defined
    case isFalse inhabited =>
      split at defined
      case h_1 => cases defined
      case h_2 once =>
        split at defined
        case h_1 => cases defined
        case h_2 keyed =>
          obtain rfl := Except.ok.inj defined
          exact ⟨rfl, inhabited, firstRepeated?_nil.mp once, faultless.mp keyed⟩
  · rintro ⟨rfl, inhabited, distinct, keyed⟩
    rw [if_neg inhabited, firstRepeated?_nil.mpr distinct]
    simp only [faultless.mpr keyed]

/-- The types that are made are the well-formed ones. -/
theorem made_iff_wellFormed {type : StructuredType} : type.Made ↔ type.WellFormed := by
  constructor
  · rintro ⟨name, members, key, defined, membersMade⟩
    obtain ⟨rfl, inhabited, distinct, keyed⟩ := define_eq_ok.mp defined
    refine ⟨inhabited, distinct, ?_, keyed⟩
    intro member isMember
    obtain ⟨name, data, nullable, memberMade⟩ := membersMade member isMember
    obtain ⟨named, rfl⟩ := MemberDefinition.define_eq_ok.mp memberMade
    exact named
  · intro wellFormed
    refine ⟨type.name, type.members, type.key,
      define_eq_ok.mpr ⟨rfl, wellFormed.inhabited, wellFormed.distinct, wellFormed.key⟩, ?_⟩
    intro member isMember
    exact ⟨_, _, _, MemberDefinition.define_eq_ok.mpr ⟨wellFormed.named member isMember, rfl⟩⟩

end StructuredType

/-! ## Enumerations -/

namespace EnumerationType

/-- An enumeration has members, no two of one name. -/
structure WellFormed (type : EnumerationType) : Prop where
  inhabited : type.members ≠ []
  distinct : (type.members.map Prod.fst).Nodup

def Made (type : EnumerationType) : Prop :=
  ∃ name members isFlags, define name members isFlags = .ok type

/-- An enumeration is made as it was asked for, if nothing is wrong with it. -/
theorem define_eq_ok
    {name : String}
    {members : List (String × Int64)}
    {isFlags : Bool}
    {type : EnumerationType} :
    define name members isFlags = .ok type ↔
      type = ⟨name, members, isFlags⟩ ∧ members ≠ [] ∧ (members.map Prod.fst).Nodup := by
  simp only [define, List.isEmpty_iff]
  constructor
  · intro defined
    split at defined
    case isTrue => cases defined
    case isFalse inhabited =>
      split at defined
      case h_1 => cases defined
      case h_2 once =>
        obtain rfl := Except.ok.inj defined
        exact ⟨rfl, inhabited, firstRepeated?_nil.mp once⟩
  · rintro ⟨rfl, inhabited, distinct⟩
    rw [if_neg inhabited, firstRepeated?_nil.mpr distinct]

/-- The enumerations that are made are the well-formed ones. -/
theorem made_iff_wellFormed {type : EnumerationType} : type.Made ↔ type.WellFormed := by
  constructor
  · rintro ⟨name, members, isFlags, defined⟩
    obtain ⟨rfl, inhabited, distinct⟩ := define_eq_ok.mp defined
    exact ⟨inhabited, distinct⟩
  · intro wellFormed
    exact ⟨_, _, _, define_eq_ok.mpr ⟨rfl, wellFormed.inhabited, wellFormed.distinct⟩⟩

end EnumerationType

end ClauseBinding
