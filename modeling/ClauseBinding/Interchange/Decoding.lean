import ClauseBinding.Data.Table
import ClauseBinding.Json.Tree

/-!
Contract: the pieces that data in JSON is decoded from.

Owns:
- how deep data may nest;
- records, as objects or as arrays of their fields, and choices, as names or as
  objects of one member;
- plain texts, truth values, whole numbers and lists.

Does not own: the records and choices of any domain type. Members of an object
that are no fields are not looked at, however deep they nest.
-/

namespace ClauseBinding.Interchange

open ClauseBinding.Json (Numeral)

/-- A way to decode data that nests at most so many levels. -/
abbrev Decoder (α : Type) := Nat → Json → Option α

/-- Data nests at most so many levels of arrays and objects. -/
def levelLimit : Nat := 127

def decodeText?
    {α : Type}
    (decoder : Decoder α)
    (text : String) : Option α :=
  (Json.parse? text).bind (decoder levelLimit)

/-- A decoder of data that holds data of its own kind, unfolded so many times. -/
def unfolded
    {α : Type}
    (step : Decoder α → Decoder α) : Nat → Decoder α
  | 0 => fun _ _ => none
  | times + 1 => step (unfolded step times)

/-- A decoder of data that holds data of its own kind. Each level of nesting
unfolds it once, so the levels bound the unfolding. -/
def recursive
    {α : Type}
    (step : Decoder α → Decoder α) : Decoder α := fun levels =>
  unfolded step (levels + 1) levels

/-! ## Plain data -/

def string : Decoder String := fun _ value =>
  match value with
  | .text text => text
  | _ => none

def truth : Decoder Bool := fun _ value =>
  match value with
  | .truth value => some value
  | _ => none

def whole : Decoder Int := fun _ value =>
  match value with
  | .number numeral => numeral.toInt?
  | _ => none

def int32 : Decoder Int32 := fun levels value => do
  let value ← whole levels value
  if Int32.minValue.toInt ≤ value ∧ value ≤ Int32.maxValue.toInt then pure (Int32.ofInt value)
  else none

def int64 : Decoder Int64 := fun levels value => do
  let value ← whole levels value
  if Int64.minValue.toInt ≤ value ∧ value ≤ Int64.maxValue.toInt then pure (Int64.ofInt value)
  else none

def uint64 : Decoder UInt64 := fun levels value => do
  let value ← whole levels value
  if 0 ≤ value ∧ value < UInt64.size then pure (UInt64.ofNat value.toNat) else none

def list
    {α : Type}
    (item : Decoder α) : Decoder (List α) := fun levels value =>
  match levels, value with
  | levels + 1, .array items => items.mapM (item levels)
  | _, _ => none

/-- Entries by name; of entries with one name the last counts. -/
def table
    {α : Type}
    (item : Decoder α) : Decoder (Table α) := fun levels value =>
  match levels, value with
  | levels + 1, .object members => do
      let entries ← members.mapM fun (name, value) => do
        let name ← name
        let value ← item levels value
        pure (name, value)
      pure (Table.ofEntries entries)
  | _, _ => none

/-! ## Records -/

/-- The fields of a record, by name from an object or in order from an array,
and the levels that are left inside. -/
structure Fields where
  levels : Nat
  values : List (String × Json)
  isObject : Bool

def hasRepeated : List (String × Json) → Bool
  | [] => false
  | (name, _) :: rest => rest.any (·.1 == name) || hasRepeated rest

/-- The fields of a record with fields of the given names. A name may not be
given twice, and an array may not be longer than the record. -/
def fields
    (names : List String)
    (levels : Nat)
    (value : Json) : Option Fields :=
  match levels, value with
  | levels + 1, .object members => do
      let named ← members.mapM fun (name, value) => name.map fun name => (name, value)
      let values := named.filter fun (name, _) => names.contains name
      if hasRepeated values then none else some ⟨levels, values, true⟩
  | levels + 1, .array items =>
      if items.length ≤ names.length then some ⟨levels, names.zip items, false⟩ else none
  | _, _ => none

namespace Fields

def value?
    (fields : Fields)
    (name : String) : Option Json :=
  fields.values.lookup name

def required
    {α : Type}
    (fields : Fields)
    (name : String)
    (decoder : Decoder α) : Option α :=
  (fields.value? name).bind (decoder fields.levels)

def withDefault
    {α : Type}
    (fields : Fields)
    (name : String)
    (decoder : Decoder α)
    (default : α) : Option α :=
  match fields.value? name with
  | some value => decoder fields.levels value
  | none => some default

/-- A field that may be null. Objects may leave it out. -/
def optional
    {α : Type}
    (fields : Fields)
    (name : String)
    (decoder : Decoder α) : Option (Option α) :=
  match fields.value? name with
  | some .null => some none
  | some value => (decoder fields.levels value).map some
  | none => if fields.isObject then some none else none

end Fields

/-! ## Choices -/

/-- A choice: its name, and what it holds with the levels that are left for it. -/
structure Choice where
  name : String
  content : Option (Nat × Json)

/-- Decode a choice: a text that names it, or an object whose one member does. -/
def choice
    (levels : Nat)
    (value : Json) : Option Choice :=
  match levels, value with
  | _, .text (some name) => some ⟨name, none⟩
  | levels + 1, .object [(some name, content)] => some ⟨name, some (levels, content)⟩
  | _, _ => none

namespace Choice

/-- A choice that holds nothing, which an object writes as null. -/
def unit
    {α : Type}
    (choice : Choice)
    (value : α) : Option α :=
  match choice.content with
  | none => some value
  | some (_, .null) => some value
  | some _ => none

def holding
    {α : Type}
    (choice : Choice)
    (decoder : Decoder α) : Option α :=
  match choice.content with
  | some (levels, content) => decoder levels content
  | none => none

end Choice

/-- A choice among names, none of which holds anything. -/
def named
    {α : Type}
    (values : List (String × α)) : Decoder α := fun levels value => do
  let choice ← choice levels value
  let value ← values.lookup choice.name
  choice.unit value

/-! ## Writing -/

def chosen
    (name : String)
    (content : Json) : Json :=
  .ofMembers [(name, content)]

def tableJson
    {α : Type}
    (item : α → Json)
    (table : Table α) : Json :=
  .ofMembers (table.map fun (name, value) => (name, item value))

end ClauseBinding.Interchange
