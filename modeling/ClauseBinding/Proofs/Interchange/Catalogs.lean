import ClauseBinding.Interchange.Catalogs
import ClauseBinding.Proofs.Interchange.Types
import ClauseBinding.Proofs.Storage.Catalog

/-!
Contract: catalogs and configurations are read however they are written.

Owns: their layouts, and that these are read and have the compact writing of the data.

Does not own: the order of tables; entries are written in the order that a table has.
-/

namespace ClauseBinding.Interchange

/-! ## Layouts -/

def memberDefinitionLayout (member : MemberDefinition) : Layout :=
  .record [
    ("name", .text member.name),
    ("data_type", dataTypeLayout member.data),
    ("nullable", .truth member.nullable)]

def structuredTypeLayout (type : StructuredType) : Layout :=
  .record [
    ("name", .text type.name),
    ("members", .list (type.members.map memberDefinitionLayout)),
    ("key", .list (type.key.map .text))]

def enumerationMemberLayout (member : String × Int64) : Layout :=
  .record [("name", .text member.1), ("value", .whole member.2.toInt)]

def enumerationTypeLayout (type : EnumerationType) : Layout :=
  .record [
    ("name", .text type.name),
    ("members", .list (type.members.map enumerationMemberLayout)),
    ("is_flags", .truth type.isFlags)]

def catalogLayout (catalog : Catalog) : Layout :=
  .record [
    ("structured_types", tableLayout structuredTypeLayout catalog.types),
    ("enum_types", tableLayout enumerationTypeLayout catalog.enumerations),
    ("conversions", conversionTableLayout catalog.conversions)]

def configurationLayout (configuration : Configuration) : Layout :=
  .record [
    ("max_depth", .whole configuration.maxDepth.toNat),
    ("ensure_stable_ordering", .truth configuration.stableOrder)]

/-! ## Compact writings -/

private theorem memberDefinitionLayout_json (member : MemberDefinition) :
    (memberDefinitionLayout member).json = memberDefinitionJson member := by
  rw [memberDefinitionJson, ← dataTypeLayout_json]
  rfl

private theorem structuredTypeLayout_json (type : StructuredType) :
    (structuredTypeLayout type).json = structuredTypeJson type := by
  have members : (Layout.list (type.members.map memberDefinitionLayout)).json
      = .array (type.members.map memberDefinitionJson) :=
    Layout.list_map_json fun member _ => memberDefinitionLayout_json member
  have key : (Layout.list (type.key.map .text)).json = .array (type.key.map Json.ofText) :=
    Layout.list_map_json fun _ _ => rfl
  rw [structuredTypeJson, ← members, ← key]
  rfl

private theorem enumerationTypeLayout_json (type : EnumerationType) :
    (enumerationTypeLayout type).json = enumerationTypeJson type := by
  have members : (Layout.list (type.members.map enumerationMemberLayout)).json
      = .array (type.members.map enumerationMemberJson) :=
    Layout.list_map_json fun _ _ => rfl
  rw [enumerationTypeJson, ← members]
  rfl

theorem catalogLayout_json (catalog : Catalog) :
    (catalogLayout catalog).json = catalogJson catalog := by
  have types : (tableLayout structuredTypeLayout catalog.types).json
      = tableJson structuredTypeJson catalog.types :=
    tableLayout_json fun entry _ => structuredTypeLayout_json entry.2
  have enumerations : (tableLayout enumerationTypeLayout catalog.enumerations).json
      = tableJson enumerationTypeJson catalog.enumerations :=
    tableLayout_json fun entry _ => enumerationTypeLayout_json entry.2
  rw [catalogJson, ← types, ← enumerations, ← conversionTableLayout_json]
  rfl

theorem configurationLayout_json (configuration : Configuration) :
    (configurationLayout configuration).json = configurationJson configuration :=
  rfl

/-! ## Reading -/

variable {limit : Nat}

private theorem reads_memberDefinition (member : MemberDefinition) :
    Reads limit memberDefinition (memberDefinitionLayout member) member := by
  refine Reads.record rfl (by decide) ?_
  intro fields gives
  rw [gives.required (by simp) (reads_string member.name),
    gives.required (by simp) (reads_dataType member.data),
    gives.required (by simp) (reads_truth member.nullable)]
  rfl

private theorem reads_structuredType (type : StructuredType) :
    Reads limit structuredType (structuredTypeLayout type) type := by
  have readsMembers : Reads limit (list memberDefinition)
      (.list (type.members.map memberDefinitionLayout)) type.members :=
    Reads.list fun member _ => reads_memberDefinition member
  have readsKey : Reads limit (list string) (.list (type.key.map .text)) type.key :=
    Reads.list fun name _ => reads_string name
  refine Reads.record rfl (by decide) ?_
  intro fields gives
  rw [gives.required (by simp) (reads_string type.name), gives.required (by simp) readsMembers,
    gives.required (by simp) readsKey]
  rfl

private theorem reads_enumerationMember (member : String × Int64) :
    Reads limit enumerationMember (enumerationMemberLayout member) member := by
  refine Reads.record rfl (by decide) ?_
  intro fields gives
  rw [gives.required (by simp) (reads_string member.1),
    gives.required (by simp) (reads_int64 member.2)]
  rfl

private theorem reads_enumerationType (type : EnumerationType) :
    Reads limit enumerationType (enumerationTypeLayout type) type := by
  have readsMembers : Reads limit (list enumerationMember)
      (.list (type.members.map enumerationMemberLayout)) type.members :=
    Reads.list fun member _ => reads_enumerationMember member
  refine Reads.record rfl (by decide) ?_
  intro fields gives
  rw [gives.required (by simp) (reads_string type.name), gives.required (by simp) readsMembers,
    gives.required (by simp) (reads_truth type.isFlags)]
  rfl

theorem reads_catalog
    {entries : Catalog}
    (distinct : entries.Distinct) : Reads limit catalog (catalogLayout entries) entries := by
  have readsTypes : Reads limit (table structuredType)
      (tableLayout structuredTypeLayout entries.types) entries.types :=
    Reads.table distinct.types fun entry _ => reads_structuredType entry.2
  have readsEnumerations : Reads limit (table enumerationType)
      (tableLayout enumerationTypeLayout entries.enumerations) entries.enumerations :=
    Reads.table distinct.enumerations fun entry _ => reads_enumerationType entry.2
  refine Reads.record rfl (by decide) ?_
  intro fields gives
  rw [gives.required (by simp) readsTypes, gives.withDefault (by simp) readsEnumerations,
    gives.withDefault (by simp) (reads_conversionTable entries.conversions)]
  rfl

theorem reads_configuration (settings : Configuration) :
    Reads limit configuration (configurationLayout settings) settings := by
  refine Reads.record rfl (by decide) ?_
  intro fields gives
  rw [gives.withDefault (by simp) (reads_uint64 settings.maxDepth),
    gives.withDefault (by simp) (reads_truth settings.stableOrder)]
  rfl

end ClauseBinding.Interchange
