import ClauseBinding.Interchange.Decoding
import ClauseBinding.Proofs.Data.Table
import ClauseBinding.Proofs.Json.Tree
import Mathlib.Data.List.Forall2

/-!
Contract: the ways in which data may be written in JSON.

Owns:
- layouts, which say what is written for data and which parts of it are records;
- the compact writing of a layout, and all writings that differ from it in the form of
  records only: as an array of the fields, or with fields in another order among fields
  that the record does not know;
- that all of these are texts that can be read.

Does not own: the layout of any domain type.

The form of a record may differ at every depth, and from one record to the next.
-/

namespace ClauseBinding.Interchange

/-- What is written for data. A choice that holds something is a table of one entry, under
the name of the choice; one that holds nothing is a text. -/
inductive Layout where
  | null
  | truth (value : Bool)
  | whole (value : Int)
  | text (value : String)
  | list (items : List Layout)
  | table (entries : List (String × Layout))
  | record (fields : List (String × Layout))

namespace Layout

/-- Induction over layouts, with lists, tables and records that go by what they hold. -/
@[elab_as_elim, induction_eliminator]
theorem induction
    {motive : Layout → Prop}
    (null : motive .null)
    (truth : ∀ value, motive (.truth value))
    (whole : ∀ value, motive (.whole value))
    (text : ∀ value, motive (.text value))
    (list : ∀ items, (∀ item ∈ items, motive item) → motive (.list items))
    (table : ∀ entries, (∀ entry ∈ entries, motive entry.2) → motive (.table entries))
    (record : ∀ fields, (∀ field ∈ fields, motive field.2) → motive (.record fields))
    (layout : Layout) : motive layout := by
  apply rec
    (motive_1 := motive)
    (motive_2 := fun items => ∀ item ∈ items, motive item)
    (motive_3 := fun entries => ∀ entry ∈ entries, motive entry.2)
    (motive_4 := fun entry => motive entry.2)
  · exact null
  · exact truth
  · exact whole
  · exact text
  · exact list
  · exact table
  · exact record
  · exact fun _ absurd => nomatch absurd
  · exact fun first rest firstHolds restHolds => List.forall_mem_cons.mpr ⟨firstHolds, restHolds⟩
  · exact fun _ absurd => nomatch absurd
  · exact fun first rest firstHolds restHolds => List.forall_mem_cons.mpr ⟨firstHolds, restHolds⟩
  · exact fun _ _ holds => holds

/-! ## Writing -/

mutual

/-- The compact writing: records are objects of their fields in order. -/
def json : Layout → Json
  | .null => .null
  | .truth value => .truth value
  | .whole value => .ofInt value
  | .text value => .ofText value
  | .list items => .array (itemsJson items)
  | .table entries => .object (entriesJson entries)
  | .record fields => .object (entriesJson fields)
termination_by structural layout => layout

def itemsJson : List Layout → List Json
  | [] => []
  | item :: rest => item.json :: itemsJson rest
termination_by structural items => items

def entriesJson : List (String × Layout) → List (Option String × Json)
  | [] => []
  | (name, layout) :: rest => (some name, layout.json) :: entriesJson rest
termination_by structural entries => entries

end

/-- Whether a value is a writing of a layout. -/
inductive Writes : Layout → Json → Prop where
  | null : Writes .null .null
  | truth (value : Bool) : Writes (.truth value) (.truth value)
  | whole (value : Int) : Writes (.whole value) (.ofInt value)
  | text (value : String) : Writes (.text value) (.ofText value)
  | list {items : List Layout} {values : List Json}
      (each : List.Forall₂ Writes items values) : Writes (.list items) (.array values)
  | table {entries : List (String × Layout)} {values : List Json}
      (each : List.Forall₂ Writes (entries.map Prod.snd) values) :
      Writes (.table entries) (.ofMembers ((entries.map Prod.fst).zip values))
  | object {fields : List (String × Layout)} {values : List Json}
      {unknown members : List (String × Json)}
      (each : List.Forall₂ Writes (fields.map Prod.snd) values)
      (noField : ∀ member ∈ unknown, member.1 ∉ fields.map Prod.fst)
      (readable : ∀ member ∈ unknown, member.2.WellFormed)
      (anyOrder : members.Perm ((fields.map Prod.fst).zip values ++ unknown)) :
      Writes (.record fields) (.ofMembers members)
  | array {fields : List (String × Layout)} {values : List Json}
      (each : List.Forall₂ Writes (fields.map Prod.snd) values) :
      Writes (.record fields) (.array values)

private theorem itemsJson_eq_map (items : List Layout) : itemsJson items = items.map json := by
  induction items with
  | nil => rfl
  | cons item rest inductionHypothesis => rw [itemsJson, inductionHypothesis, List.map_cons]

private theorem entriesJson_eq_map (entries : List (String × Layout)) :
    entriesJson entries = entries.map fun entry => (some entry.1, entry.2.json) := by
  induction entries with
  | nil => rfl
  | cons entry rest inductionHypothesis => rw [entriesJson, inductionHypothesis, List.map_cons]

theorem list_map_json
    {α : Type}
    {layoutOf : α → Layout}
    {written : α → Json}
    {items : List α}
    (each : ∀ item ∈ items, (layoutOf item).json = written item) :
    (list (items.map layoutOf)).json = .array (items.map written) := by
  rw [json, itemsJson_eq_map, List.map_map]
  exact congrArg Json.array (List.map_congr_left each)

/-- Objects have the names of their entries and the compact writings of what stands there. -/
theorem object_entriesJson (entries : List (String × Layout)) :
    Json.object (entriesJson entries) =
      .ofMembers ((entries.map Prod.fst).zip (entries.map fun entry => entry.2.json)) := by
  rw [entriesJson_eq_map, List.zip_map', Json.ofMembers, List.map_map]
  rfl

private theorem writes_each_json
    {entries : List (String × Layout)}
    (written : ∀ entry ∈ entries, entry.2.Writes entry.2.json) :
    List.Forall₂ Writes (entries.map Prod.snd) (entries.map fun entry => entry.2.json) := by
  rw [List.forall₂_map_left_iff, List.forall₂_map_right_iff, List.forall₂_same]
  exact written

/-- The compact writing is one of the writings. -/
theorem writes_json (layout : Layout) : layout.Writes layout.json := by
  induction layout with
  | list items itemsWritten =>
      rw [json, itemsJson_eq_map]
      apply Writes.list
      rw [List.forall₂_map_right_iff, List.forall₂_same]
      exact itemsWritten
  | table entries entriesWritten =>
      rw [json, object_entriesJson]
      exact .table (writes_each_json entriesWritten)
  | record fields fieldsWritten =>
      rw [json, object_entriesJson]
      refine @Writes.object fields _ [] _ (writes_each_json fieldsWritten) ?_ ?_ ?_
      · exact fun _ absurd => nomatch absurd
      · exact fun _ absurd => nomatch absurd
      · rw [List.append_nil]
  | null => exact .null
  | truth value => exact .truth value
  | whole value => exact .whole value
  | text value => exact .text value

/-! ## Well-formedness -/

private theorem forall_of_forall₂
    {α β : Type}
    {related : α → β → Prop}
    {holds : β → Prop}
    {items : List α}
    {values : List β}
    (each : List.Forall₂ related items values)
    (gives : ∀ item ∈ items, ∀ value, related item value → holds value) :
    ∀ value ∈ values, holds value := by
  induction each with
  | nil => exact fun _ absurd => nomatch absurd
  | cons isRelated _ inductionHypothesis =>
      obtain ⟨firstGives, restGives⟩ := List.forall_mem_cons.mp gives
      exact List.forall_mem_cons.mpr
        ⟨firstGives _ isRelated, inductionHypothesis restGives⟩

private theorem ofMembers_wellFormed
    {members : List (String × Json)}
    (each : ∀ member ∈ members, member.2.WellFormed) : (Json.ofMembers members).WellFormed := by
  apply Json.object_wellFormed
  intro member isMember
  obtain ⟨named, isNamed, rfl⟩ := List.mem_map.mp isMember
  exact each named isNamed

private theorem values_wellFormed
    {entries : List (String × Layout)}
    {values : List Json}
    (each : List.Forall₂ Writes (entries.map Prod.snd) values)
    (wellFormed : ∀ entry ∈ entries, ∀ value, entry.2.Writes value → value.WellFormed) :
    ∀ value ∈ values, value.WellFormed :=
  forall_of_forall₂ each (List.forall_mem_map.mpr wellFormed)

/-- Every writing has numbers that can be scanned. -/
theorem Writes.wellFormed
    {layout : Layout}
    {value : Json}
    (writes : layout.Writes value) : value.WellFormed := by
  induction layout generalizing value with
  | list items itemsWellFormed =>
      cases writes with
      | list each =>
          apply Json.array_wellFormed
          exact forall_of_forall₂ each fun item isItem _ => itemsWellFormed item isItem
  | table entries entriesWellFormed =>
      cases writes with
      | table each =>
          have valuesWellFormed := values_wellFormed each fun entry isEntry _ =>
            entriesWellFormed entry isEntry
          apply ofMembers_wellFormed
          exact fun member isMember => valuesWellFormed _ (List.of_mem_zip isMember).2
  | record fields fieldsWellFormed =>
      cases writes with
      | object each noField readable anyOrder =>
          have valuesWellFormed := values_wellFormed each fun field isField _ =>
            fieldsWellFormed field isField
          apply ofMembers_wellFormed
          intro member isMember
          rcases List.mem_append.mp (anyOrder.mem_iff.mp isMember) with known | isUnknown
          · exact valuesWellFormed _ (List.of_mem_zip known).2
          · exact readable member isUnknown
      | array each =>
          apply Json.array_wellFormed
          exact values_wellFormed each fun field isField _ => fieldsWellFormed field isField
  | null | truth | text =>
      cases writes
      exact List.forall_mem_singleton.mpr trivial
  | whole value =>
      cases writes
      exact Json.ofInt_wellFormed value

/-! ## Levels -/

theorem nesting_list_le_iff
    {items : List Layout}
    {levels : Nat} :
    (list items).json.nesting ≤ levels + 1 ↔ ∀ item ∈ items, item.json.nesting ≤ levels := by
  rw [json, Json.nesting, Nat.add_le_add_iff_right, itemsJson_eq_map, Json.itemsNesting_le_iff,
    List.forall_mem_map]

theorem nesting_object_le_iff
    {entries : List (String × Layout)}
    {levels : Nat} :
    (Json.object (entriesJson entries)).nesting ≤ levels + 1 ↔
      ∀ entry ∈ entries, entry.2.json.nesting ≤ levels := by
  rw [Json.nesting, Nat.add_le_add_iff_right, entriesJson_eq_map, Json.membersNesting_le_iff,
    List.forall_mem_map]

end Layout

/-! ## Tables -/

def tableLayout
    {α : Type}
    (item : α → Layout)
    (table : Table α) : Layout :=
  .table (table.map fun entry => (entry.1, item entry.2))

theorem tableLayout_json
    {α : Type}
    {layoutOf : α → Layout}
    {written : α → Json}
    {table : Table α}
    (each : ∀ entry ∈ table, (layoutOf entry.2).json = written entry.2) :
    (tableLayout layoutOf table).json = tableJson written table := by
  rw [tableLayout, Layout.json, Layout.entriesJson_eq_map, List.map_map, tableJson, Json.ofMembers,
    List.map_map]
  apply congrArg Json.object
  apply List.map_congr_left
  intro entry isEntry
  exact congrArg (Prod.mk (some entry.1)) (each entry isEntry)

end ClauseBinding.Interchange
