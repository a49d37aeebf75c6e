import ClauseBinding.Failure
import ClauseBinding.Schema.Bytes

/-!
Contract: a catalog that is changed in place.

Owns:
- definitions of either kind, under one name each;
- changes of a catalog, which fail where a name is taken, and what they leave of it;
- a catalog stored as bytes and loaded from them.

Does not own: what a definition has to satisfy; a catalog takes any.
-/

namespace ClauseBinding

inductive Definition where
  | structured (type : StructuredType)
  | enumeration (type : EnumerationType)

def Definition.name : Definition → String
  | .structured type => type.name
  | .enumeration type => type.name

/-- A use of a catalog, which may leave it changed, also where it fails. -/
abbrev Registry (α : Type) := ExceptT Failure (StateM Catalog) α

namespace Registry

def ensureFree (name : String) : Registry Unit := do
  let catalog ← get
  if catalog.hasType name then throw (.schema (.nameTaken name))

/-- Hold a definition under its name, in place of one of its kind. -/
def put : Definition → Registry Unit
  | .structured type =>
      modify fun catalog =>
        { catalog with types := Table.insert catalog.types type.name type }
  | .enumeration type =>
      modify fun catalog =>
        { catalog with enumerations := Table.insert catalog.enumerations type.name type }

def register (definition : Definition) : Registry Unit := do
  ensureFree definition.name
  put definition

def setConversions (conversions : ConversionTable) : Registry Unit :=
  modify (·.withConversions conversions)

/-- Store the catalog and load it again. -/
def reload : Registry Unit := do
  let catalog ← get
  match Catalog.ofBytes? catalog.toBytes with
  | some loaded => set loaded
  | none => throw .unreadableCatalog

end Registry

inductive Change where
  | register (definition : Definition)
  | setConversions (conversions : ConversionTable)
  | reload

def Change.make : Change → Registry Unit
  | .register definition => Registry.register definition
  | .setConversions conversions => Registry.setConversions conversions
  | .reload => Registry.reload

namespace Catalog

def change
    (catalog : Catalog)
    (change : Change) : Except Failure Unit × Catalog :=
  change.make.run.run catalog

end Catalog

end ClauseBinding
