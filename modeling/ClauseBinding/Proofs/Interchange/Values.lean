import ClauseBinding.Interchange.Values
import ClauseBinding.Proofs.Calendar.Date
import ClauseBinding.Proofs.Interchange.Reading

/-!
Contract: values are read however they are written.

Owns:
- induction over values;
- values whose parts all survive being written;
- their layouts, and that these are read and have the compact writing of the value.

Does not own: floats, whose last digit need not survive, and moments, whose offset is
written to the minute.
-/

namespace ClauseBinding

namespace Value

/-- Induction over values, with records and collections that go by what they hold. -/
@[elab_as_elim]
theorem induction
    {motive : Value → Prop}
    (null : motive .null)
    (bool : ∀ value, motive (.bool value))
    (int32 : ∀ value, motive (.int32 value))
    (int64 : ∀ value, motive (.int64 value))
    (float32 : ∀ value, motive (.float32 value))
    (float64 : ∀ value, motive (.float64 value))
    (string : ∀ value, motive (.string value))
    (date : ∀ value, motive (.date value))
    (moment : ∀ value, motive (.moment value))
    (enumeration : ∀ typeName value, motive (.enumeration typeName value))
    (record : ∀ members, (∀ member ∈ members, motive member.2) → motive (.record members))
    (collection : ∀ items, (∀ item ∈ items, motive item) → motive (.collection items))
    (value : Value) : motive value := by
  apply rec
    (motive_1 := motive)
    (motive_2 := fun members => ∀ member ∈ members, motive member.2)
    (motive_3 := fun items => ∀ item ∈ items, motive item)
    (motive_4 := fun member => motive member.2)
  · exact null
  · exact bool
  · exact int32
  · exact int64
  · exact float32
  · exact float64
  · exact string
  · exact date
  · exact moment
  · exact enumeration
  · exact record
  · exact collection
  · exact fun _ absurd => nomatch absurd
  · exact fun first rest firstHolds restHolds => List.forall_mem_cons.mpr ⟨firstHolds, restHolds⟩
  · exact fun _ absurd => nomatch absurd
  · exact fun first rest firstHolds restHolds => List.forall_mem_cons.mpr ⟨firstHolds, restHolds⟩
  · exact fun _ _ holds => holds

mutual

/-- Whether a value holds no float and no moment, and has distinct names in its records. -/
def Exact : Value → Prop
  | .float32 _ | .float64 _ | .moment _ => False
  | .record members => Table.Distinct members ∧ MembersExact members
  | .collection items => ItemsExact items
  | _ => True
termination_by structural value => value

def ItemsExact : List Value → Prop
  | [] => True
  | item :: rest => item.Exact ∧ ItemsExact rest
termination_by structural items => items

def MembersExact : List (String × Value) → Prop
  | [] => True
  | (_, value) :: rest => value.Exact ∧ MembersExact rest
termination_by structural members => members

end

private theorem itemsExact_iff {items : List Value} :
    ItemsExact items ↔ ∀ item ∈ items, item.Exact := by
  induction items with
  | nil => simp [ItemsExact]
  | cons item rest inductionHypothesis =>
      rw [ItemsExact, inductionHypothesis, List.forall_mem_cons]

private theorem membersExact_iff
    {members : List (String × Value)} :
    MembersExact members ↔ ∀ member ∈ members, member.2.Exact := by
  induction members with
  | nil => simp [MembersExact]
  | cons member rest inductionHypothesis =>
      rw [MembersExact, inductionHypothesis, List.forall_mem_cons]

end Value

namespace Interchange

/-! ## Layouts -/

def enumerationLayout
    (typeName : String)
    (number : Int64) : Layout :=
  .record [("type_name", .text typeName), ("value", .whole number.toInt)]

mutual

/-- A value. The numbers of floats are left blank: nothing is claimed of them. -/
def valueLayout : Value → Layout
  | .null => .text "Null"
  | .bool value => .table [("Bool", .truth value)]
  | .int32 value => .table [("Int32", .whole value.toInt)]
  | .int64 value => .table [("Int64", .whole value.toInt)]
  | .float32 _ => .table [("Float32", .null)]
  | .float64 _ => .table [("Float64", .null)]
  | .string value => .table [("String", .text value)]
  | .date value => .table [("Date", .text value.text)]
  | .moment value => .table [("DateTimeOffset", .text value.dataText)]
  | .enumeration typeName value => .table [("Enum", enumerationLayout typeName value)]
  | .record members => .table [("Element", .record [("members", .table (membersLayout members))])]
  | .collection items => .table [("Collection", .list (itemsLayout items))]
termination_by structural value => value

def itemsLayout : List Value → List Layout
  | [] => []
  | item :: rest => valueLayout item :: itemsLayout rest
termination_by structural items => items

def membersLayout : List (String × Value) → List (String × Layout)
  | [] => []
  | (name, value) :: rest => (name, valueLayout value) :: membersLayout rest
termination_by structural members => members

end

private theorem itemsLayout_eq_map (items : List Value) :
    itemsLayout items = items.map valueLayout := by
  induction items with
  | nil => rfl
  | cons item rest inductionHypothesis => rw [itemsLayout, inductionHypothesis, List.map_cons]

private theorem table_membersLayout (members : List (String × Value)) :
    .table (membersLayout members) = tableLayout valueLayout members := by
  apply congrArg Layout.table
  induction members with
  | nil => rfl
  | cons member rest inductionHypothesis => rw [membersLayout, inductionHypothesis, List.map_cons]

/-! ## Compact writings -/

private theorem valueItems_eq_map (items : List Value) :
    valueItems items = items.map valueJson := by
  induction items with
  | nil => rfl
  | cons item rest inductionHypothesis => rw [valueItems, inductionHypothesis, List.map_cons]

private theorem object_valueMembers (members : List (String × Value)) :
    .object (valueMembers members) = tableJson valueJson members := by
  apply congrArg Json.object
  induction members with
  | nil => rfl
  | cons member rest inductionHypothesis =>
      rw [valueMembers, inductionHypothesis]
      rfl

theorem valueLayout_json
    {value : Value}
    (exact : value.Exact) : (valueLayout value).json = valueJson value := by
  induction value using Value.induction with
  | record members membersWritten =>
      have written : (tableLayout valueLayout members).json = tableJson valueJson members :=
        tableLayout_json fun member isMember =>
          membersWritten member isMember (Value.membersExact_iff.mp exact.2 member isMember)
      rw [valueJson, object_valueMembers, ← written, ← table_membersLayout]
      rfl
  | collection items itemsWritten =>
      have written : (Layout.list (items.map valueLayout)).json = .array (items.map valueJson) :=
        Layout.list_map_json fun item isItem =>
          itemsWritten item isItem (Value.itemsExact_iff.mp exact item isItem)
      rw [valueJson, valueItems_eq_map, ← written, ← itemsLayout_eq_map]
      rfl
  | float32 | float64 | moment => exact exact.elim
  | _ => rfl

/-! ## Reading -/

open Calendar (Date)

variable {limit : Nat}

private theorem reads_date (day : Date) : Reads limit date (.text day.text) day := by
  intro levels value below deep writes
  rw [date, reads_string day.text levels value below deep writes, Option.bind_some]
  exact day.ofText?_text

private theorem reads_enumerationValue
    (typeName : String)
    (number : Int64) :
    Reads limit enumerationValue (enumerationLayout typeName number)
      (.enumeration typeName number) := by
  refine Reads.record rfl (by decide) ?_
  intro fields gives
  rw [gives.required (by simp) (reads_string typeName),
    gives.required (by simp) (reads_int64 number)]
  rfl

private theorem reads_recordOf
    {inner : Decoder Value}
    {members : Record}
    (distinct : Table.Distinct members)
    (each : ∀ member ∈ members, Reads limit inner (valueLayout member.2) member.2) :
    Reads limit (recordOf inner) (.record [("members", .table (membersLayout members))])
      members := by
  have readsMembers := Reads.table distinct each
  rw [← table_membersLayout] at readsMembers
  refine Reads.record rfl (by decide) ?_
  intro fields gives
  exact gives.required (by simp) readsMembers

private theorem readsUnfolded_value
    {value : Value}
    (exact : value.Exact) : ReadsUnfolded valueStep (valueLayout value) value := by
  apply ReadsUnfolded.of_step
  intro times
  induction value using Value.induction generalizing times with
  | record members membersRead =>
      have each : ∀ member ∈ members,
          Reads times (unfolded valueStep times) (valueLayout member.2) member.2 :=
        fun member isMember => ReadsUnfolded.of_step
          (membersRead member isMember (Value.membersExact_iff.mp exact.2 member isMember)) times
      exact reads_chosen ((reads_recordOf exact.1 each).map Value.record)
  | collection items itemsRead =>
      have each : ∀ item ∈ items, Reads times (unfolded valueStep times) (valueLayout item) item :=
        fun item isItem => ReadsUnfolded.of_step
          (itemsRead item isItem (Value.itemsExact_iff.mp exact item isItem)) times
      rw [valueLayout, itemsLayout_eq_map]
      exact reads_chosen ((Reads.list each).map Value.collection)
  | null => exact reads_name rfl
  | bool value => exact reads_chosen ((reads_truth value).map Value.bool)
  | int32 value => exact reads_chosen ((reads_int32 value).map Value.int32)
  | int64 value => exact reads_chosen ((reads_int64 value).map Value.int64)
  | string value => exact reads_chosen ((reads_string value).map Value.string)
  | date value => exact reads_chosen ((reads_date value).map Value.date)
  | enumeration typeName value => exact reads_chosen (reads_enumerationValue typeName value)
  | float32 | float64 | moment => exact exact.elim

theorem reads_value
    {data : Value}
    (exact : data.Exact) : Reads limit value (valueLayout data) data :=
  (readsUnfolded_value exact).recursive limit

end Interchange

end ClauseBinding
