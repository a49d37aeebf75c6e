import ClauseBinding.Binding.Context
import ClauseBinding.Interchange.Types
import ClauseBinding.Schema.Catalog

/-!
Contract: catalogs and configurations in JSON.

Owns: the fields of definitions, catalogs and configurations, written and decoded.

Does not own: whether a decoded catalog is valid; nothing is checked but the form.
-/

namespace ClauseBinding.Interchange

/-! ## Decoding -/

def memberDefinition : Decoder MemberDefinition := fun levels value => do
  let fields ← fields ["name", "data_type", "nullable"] levels value
  let name ← fields.required "name" string
  let data ← fields.required "data_type" dataType
  let nullable ← fields.required "nullable" truth
  pure ⟨name, data, nullable⟩

def structuredType : Decoder StructuredType := fun levels value => do
  let fields ← fields ["name", "members", "key"] levels value
  let name ← fields.required "name" string
  let members ← fields.required "members" (list memberDefinition)
  let key ← fields.required "key" (list string)
  pure ⟨name, members, key⟩

def enumerationMember : Decoder (String × Int64) := fun levels value => do
  let fields ← fields ["name", "value"] levels value
  let name ← fields.required "name" string
  let number ← fields.required "value" int64
  pure (name, number)

def enumerationType : Decoder EnumerationType := fun levels value => do
  let fields ← fields ["name", "members", "is_flags"] levels value
  let name ← fields.required "name" string
  let members ← fields.required "members" (list enumerationMember)
  let isFlags ← fields.required "is_flags" truth
  pure ⟨name, members, isFlags⟩

/-- Catalogs. Enumerations and conversions may be left out. -/
def catalog : Decoder Catalog := fun levels value => do
  let fields ← fields ["structured_types", "enum_types", "conversions"] levels value
  let types ← fields.required "structured_types" (table structuredType)
  let enumerations ← fields.withDefault "enum_types" (table enumerationType) []
  let conversions ← fields.withDefault "conversions" conversionTable .standard
  pure ⟨types, enumerations, conversions⟩

/-- Configurations. Everything may be left out. -/
def configuration : Decoder Configuration := fun levels value => do
  let standard : Configuration := {}
  let fields ← fields ["max_depth", "ensure_stable_ordering"] levels value
  let maxDepth ← fields.withDefault "max_depth" uint64 standard.maxDepth
  let stableOrder ← fields.withDefault "ensure_stable_ordering" truth standard.stableOrder
  pure ⟨maxDepth, stableOrder⟩

def readConfiguration (text : String) : Except Failure Configuration :=
  match decodeText? configuration text with
  | some configuration => .ok configuration
  | none => .error .unreadableConfiguration

/-! ## Writing -/

def memberDefinitionJson (member : MemberDefinition) : Json :=
  .ofMembers [
    ("name", .ofText member.name),
    ("data_type", dataTypeJson member.data),
    ("nullable", .truth member.nullable)]

def structuredTypeJson (type : StructuredType) : Json :=
  .ofMembers [
    ("name", .ofText type.name),
    ("members", .array (type.members.map memberDefinitionJson)),
    ("key", .array (type.key.map Json.ofText))]

def enumerationMemberJson (member : String × Int64) : Json :=
  .ofMembers [("name", .ofText member.1), ("value", .ofInt member.2.toInt)]

def enumerationTypeJson (type : EnumerationType) : Json :=
  .ofMembers [
    ("name", .ofText type.name),
    ("members", .array (type.members.map enumerationMemberJson)),
    ("is_flags", .truth type.isFlags)]

def catalogJson (catalog : Catalog) : Json :=
  .ofMembers [
    ("structured_types", tableJson structuredTypeJson catalog.types),
    ("enum_types", tableJson enumerationTypeJson catalog.enumerations),
    ("conversions", conversionTableJson catalog.conversions)]

def configurationJson (configuration : Configuration) : Json :=
  .ofMembers [
    ("max_depth", .ofInt configuration.maxDepth.toNat),
    ("ensure_stable_ordering", .truth configuration.stableOrder)]

end ClauseBinding.Interchange
