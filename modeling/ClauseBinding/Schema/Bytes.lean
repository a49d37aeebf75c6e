import ClauseBinding.Schema.Catalog

/-!
Contract: the stored form of a catalog.

Owns:
- fixed-width numbers, lowest byte first, and texts and lists after their lengths;
- the form of each part of a catalog, tags and fields in a fixed order;
- reading a catalog back from the beginning of some bytes.

Does not own: whether what is read is a valid catalog; nothing is checked but the form.
-/

namespace ClauseBinding

namespace Stored

/-- A way to read a part off the front of some bytes. -/
abbrev Reader (α : Type) := StateT (List UInt8) Option α

/-! ## Numbers and texts -/

/-- A number in so many bytes, lowest first. -/
def number
    (width value : Nat) : List UInt8 :=
  match width with
  | 0 => []
  | width + 1 => UInt8.ofNat (value % 256) :: number width (value / 256)

def readNumber (width : Nat) : Reader Nat := fun bytes =>
  match width, bytes with
  | 0, bytes => some (0, bytes)
  | _ + 1, [] => none
  | width + 1, byte :: rest => do
      let (high, rest) ← readNumber width rest
      pure (byte.toNat + 256 * high, rest)

/-- A truth value is a byte 0 or 1. -/
def truth (value : Bool) : List UInt8 :=
  [if value then 1 else 0]

def readTruth : Reader Bool := fun bytes =>
  match bytes with
  | byte :: rest =>
      if byte = 0 then some (false, rest)
      else if byte = 1 then some (true, rest)
      else none
  | [] => none

/-- A whole number in eight bytes, negative ones by their complement. -/
def int64 (value : Int64) : List UInt8 :=
  number 8 value.toUInt64.toNat

def readInt64 : Reader Int64 := do
  let value ← readNumber 8
  pure (UInt64.ofNat value).toInt64

/-- A text: the count of its bytes, then the bytes of its UTF-8 form. -/
def text (value : String) : List UInt8 :=
  let bytes := value.toUTF8.toList
  number 8 bytes.length ++ bytes

def readBytes (count : Nat) : Reader (List UInt8) := fun bytes =>
  if count ≤ bytes.length then some (bytes.take count, bytes.drop count) else none

def readText : Reader String := do
  let count ← readNumber 8
  let bytes ← readBytes count
  match String.fromUTF8? ⟨bytes.toArray⟩ with
  | some value => pure value
  | none => failure

/-- A list: its length, then its items. -/
def list
    {α : Type}
    (item : α → List UInt8)
    (items : List α) : List UInt8 :=
  number 8 items.length ++ items.flatMap item

def readItems
    {α : Type}
    (item : Reader α) : Nat → Reader (List α)
  | 0 => pure []
  | count + 1 => do
      let first ← item
      let rest ← readItems item count
      pure (first :: rest)

def readList
    {α : Type}
    (item : Reader α) : Reader (List α) := do
  let count ← readNumber 8
  readItems item count

/-! ## Types -/

/-- A data type: the tag of its kind in four bytes, then what the kind holds. -/
def dataType : DataType → List UInt8
  | .bool => number 4 0
  | .int32 => number 4 1
  | .int64 => number 4 2
  | .float32 => number 4 3
  | .float64 => number 4 4
  | .string => number 4 5
  | .date => number 4 6
  | .moment => number 4 7
  | .enumeration name => number 4 8 ++ text name
  | .structured name => number 4 9 ++ text name
  | .collection element nullable => number 4 10 ++ dataType element ++ truth nullable
  | .null => number 4 11

/-- Read a data type that nests at most so deep. -/
def readDataTypeWithin : Nat → Reader DataType
  | 0 => failure
  | depth + 1 => do
      match ← readNumber 4 with
      | 0 => pure .bool
      | 1 => pure .int32
      | 2 => pure .int64
      | 3 => pure .float32
      | 4 => pure .float64
      | 5 => pure .string
      | 6 => pure .date
      | 7 => pure .moment
      | 8 => .enumeration <$> readText
      | 9 => .structured <$> readText
      | 10 => do
          let element ← readDataTypeWithin depth
          let nullable ← readTruth
          pure (.collection element nullable)
      | 11 => pure .null
      | _ => failure

/-- Read a data type. Each level takes bytes, so their number bounds the depth. -/
def readDataType : Reader DataType := fun bytes =>
  readDataTypeWithin (bytes.length + 1) bytes

/-! ## Definitions -/

def memberDefinition (member : MemberDefinition) : List UInt8 :=
  text member.name ++ dataType member.data ++ truth member.nullable

def readMemberDefinition : Reader MemberDefinition := do
  let name ← readText
  let data ← readDataType
  let nullable ← readTruth
  pure ⟨name, data, nullable⟩

def structuredType (type : StructuredType) : List UInt8 :=
  text type.name ++ list memberDefinition type.members ++ list text type.key

def readStructuredType : Reader StructuredType := do
  let name ← readText
  let members ← readList readMemberDefinition
  let key ← readList readText
  pure ⟨name, members, key⟩

def enumerationMember (member : String × Int64) : List UInt8 :=
  text member.1 ++ int64 member.2

def readEnumerationMember : Reader (String × Int64) := do
  let name ← readText
  let value ← readInt64
  pure (name, value)

def enumerationType (type : EnumerationType) : List UInt8 :=
  text type.name ++ list enumerationMember type.members ++ truth type.isFlags

def readEnumerationType : Reader EnumerationType := do
  let name ← readText
  let members ← readList readEnumerationMember
  let isFlags ← readTruth
  pure ⟨name, members, isFlags⟩

def entry
    {α : Type}
    (value : α → List UInt8)
    (entry : String × α) : List UInt8 :=
  text entry.1 ++ value entry.2

def readEntry
    {α : Type}
    (value : Reader α) : Reader (String × α) := do
  let name ← readText
  let value ← value
  pure (name, value)

def conversion (conversion : Conversion) : List UInt8 :=
  dataType conversion.source ++ dataType conversion.target

def readConversion : Reader Conversion := do
  let source ← readDataType
  let target ← readDataType
  pure ⟨source, target⟩

def conversionTable (table : ConversionTable) : List UInt8 :=
  list conversion table.implicit ++ list conversion table.explicit

def readConversionTable : Reader ConversionTable := do
  let implicit ← readList readConversion
  let explicit ← readList readConversion
  pure ⟨implicit, explicit⟩

/-- Read the parts of a catalog, entries in the order in which they come. -/
def readCatalog : Reader Catalog := do
  let types ← readList (readEntry readStructuredType)
  let enumerations ← readList (readEntry readEnumerationType)
  let conversions ← readConversionTable
  pure ⟨types, enumerations, conversions⟩

end Stored

namespace Catalog

/-- The bytes of a catalog, table entries in the order of the tables. -/
def toBytes (catalog : Catalog) : List UInt8 :=
  Stored.list (Stored.entry Stored.structuredType) catalog.types
    ++ Stored.list (Stored.entry Stored.enumerationType) catalog.enumerations
    ++ Stored.conversionTable catalog.conversions

/-- The catalog at the beginning of some bytes; of entries with one name the last counts. -/
def ofBytes? (bytes : List UInt8) : Option Catalog := do
  let (entries, _) ← Stored.readCatalog bytes
  pure
    { types := Table.ofEntries entries.types
      enumerations := Table.ofEntries entries.enumerations
      conversions := entries.conversions }

end Catalog

end ClauseBinding
