import ClauseBinding.Data.Table
import ClauseBinding.Data.DataType
import ClauseBinding.Text.Blank
import ClauseBinding.Text.Fields

/-!
Contract: definitions of structured types and of enumerations.

Owns:
- members, keys and enumeration members, and what a definition has to satisfy;
- the faults that keep a definition from being made or registered;
- the number that an enumeration gives to a text.

Does not own: the catalog that holds the definitions.
-/

namespace ClauseBinding

inductive SchemaFault where
  | nameTaken (name : String)
  | emptyMemberName
  | noMembers (typeName : String)
  | repeatedMember (member : String)
  | unknownKey (key typeName : String)
  | optionalKey (key : String)
  | noEnumerationMembers (typeName : String)
  | repeatedEnumerationMember (member typeName : String)
deriving DecidableEq

structure MemberDefinition where
  name : String
  data : DataType
  nullable : Bool
deriving DecidableEq

/-- A structured type; its key may be empty. -/
structure StructuredType where
  name : String
  members : List MemberDefinition
  key : List String
deriving DecidableEq

/-- An enumeration: names for numbers. The numbers of flags combine by their binary digits. -/
structure EnumerationType where
  name : String
  members : List (String × Int64)
  isFlags : Bool
deriving DecidableEq

/-- The first name that occurs a second time, after the names in `seen`. -/
def firstRepeated?
    (seen : List String) : List String → Option String
  | [] => none
  | name :: rest => if seen.contains name then some name else firstRepeated? (name :: seen) rest

def MemberDefinition.define
    (name : String)
    (data : DataType)
    (nullable : Bool) : Except SchemaFault MemberDefinition :=
  if name.isEmpty then .error .emptyMemberName else .ok ⟨name, data, nullable⟩

namespace StructuredType

def member?
    (type : StructuredType)
    (name : String) : Option MemberDefinition :=
  type.members.find? (·.name == name)

def keyFault?
    (type : StructuredType)
    (key : String) : Option SchemaFault :=
  match type.member? key with
  | none => some (.unknownKey key type.name)
  | some member => if member.nullable then some (.optionalKey key) else none

/-- Define a structured type: it has members, no two of one name, and its key
members exist and are always present. -/
def define
    (name : String)
    (members : List MemberDefinition)
    (key : List String) : Except SchemaFault StructuredType :=
  let type : StructuredType := ⟨name, members, key⟩
  if members.isEmpty then .error (.noMembers name)
  else
    match firstRepeated? [] (members.map (·.name)) with
    | some member => .error (.repeatedMember member)
    | none =>
        match key.findSome? type.keyFault? with
        | some fault => .error fault
        | none => .ok type

end StructuredType

namespace EnumerationType

def define
    (name : String)
    (members : List (String × Int64))
    (isFlags : Bool) : Except SchemaFault EnumerationType :=
  if members.isEmpty then .error (.noEnumerationMembers name)
  else
    match firstRepeated? [] (members.map Prod.fst) with
    | some member => .error (.repeatedEnumerationMember member name)
    | none => .ok ⟨name, members, isFlags⟩

def memberValue?
    (type : EnumerationType)
    (name : String) : Option Int64 :=
  Table.find? type.members name

/-- The number of a text: of a name, or for flags of a list of names between
commas, whose numbers combine by their binary digits. -/
def valueOf?
    (type : EnumerationType)
    (text : String) : Option Int64 :=
  if type.isFlags && text.toList.contains ',' then
    (Text.fields ',' text.toList).foldlM
      (fun flags field =>
        (type.memberValue? (String.ofList (Text.trim field))).map (flags ||| ·)) 0
  else type.memberValue? text

end EnumerationType

end ClauseBinding
