import ClauseBinding.Schema.Conversion
import ClauseBinding.Schema.Definition

/-!
Contract: the catalog of the types that clauses speak of.

Owns:
- registration, in one namespace for structured types and enumerations;
- the lookups that binding makes.

Does not own: the definitions' own rules, or the form in which a catalog is stored.
-/

namespace ClauseBinding

/-- Structured types and enumerations by name, and the conversions in force. -/
structure Catalog where
  types : Table StructuredType
  enumerations : Table EnumerationType
  conversions : ConversionTable

namespace Catalog

/-- No types, standard conversions. -/
def empty : Catalog := ⟨[], [], .standard⟩

def hasType
    (catalog : Catalog)
    (name : String) : Bool :=
  Table.contains catalog.types name || Table.contains catalog.enumerations name

def addType
    (catalog : Catalog)
    (type : StructuredType) : Except SchemaFault Catalog :=
  if catalog.hasType type.name then .error (.nameTaken type.name)
  else .ok { catalog with types := Table.insert catalog.types type.name type }

def addEnumeration
    (catalog : Catalog)
    (type : EnumerationType) : Except SchemaFault Catalog :=
  if catalog.hasType type.name then .error (.nameTaken type.name)
  else .ok { catalog with enumerations := Table.insert catalog.enumerations type.name type }

def withConversions
    (catalog : Catalog)
    (conversions : ConversionTable) : Catalog :=
  { catalog with conversions }

def type?
    (catalog : Catalog)
    (name : String) : Option StructuredType :=
  Table.find? catalog.types name

def enumeration?
    (catalog : Catalog)
    (name : String) : Option EnumerationType :=
  Table.find? catalog.enumerations name

def member?
    (catalog : Catalog)
    (typeName member : String) : Option MemberDefinition :=
  (catalog.type? typeName).bind (·.member? member)

/-- The key of a structured type; empty for a type that is not registered. -/
def keyMembers
    (catalog : Catalog)
    (typeName : String) : List String :=
  match catalog.type? typeName with
  | some type => type.key
  | none => []

end Catalog

end ClauseBinding
