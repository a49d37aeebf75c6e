import ClauseBinding.Proofs.Interchange.Layout

/-!
Contract: what the pieces of a decoder read, whichever way data is written.

Owns:
- decoders that read every writing of a layout, within a limit on the levels;
- that plain data, lists, tables, choices and records are read;
- that data which holds data of its own kind is read, unfolded once a level;
- that such a decoder reads whole texts.

Does not own: the decoder of any domain type.
-/

namespace ClauseBinding.Interchange

variable {α : Type} {limit : Nat}

/-- Whether a decoder reads every writing of a layout as some data, when fewer levels are
left than the limit, and enough for the layout. -/
def Reads
    (limit : Nat)
    (decoder : Decoder α)
    (layout : Layout)
    (data : α) : Prop :=
  ∀ levels value,
    levels < limit →
    layout.json.nesting ≤ levels →
    layout.Writes value →
    decoder levels value = some data

theorem Reads.map
    {β : Type}
    {decoder : Decoder α}
    {layout : Layout}
    {data : α}
    (reads : Reads limit decoder layout data)
    (make : α → β) :
    Reads limit (fun levels value => (decoder levels value).map make) layout (make data) :=
  fun levels value below deep writes =>
    congrArg (Option.map make) (reads levels value below deep writes)

/-- A decoder reads the texts of all writings that do not nest too deep. -/
theorem Reads.decodeText?_render
    {decoder : Decoder α}
    {layout : Layout}
    {data : α}
    (reads : Reads (levelLimit + 1) decoder layout data)
    (shallow : layout.json.nesting ≤ levelLimit)
    {value : Json}
    (writes : layout.Writes value) : decodeText? decoder value.render = some data := by
  rw [decodeText?, Json.parse?_render writes.wellFormed, Option.bind_some]
  exact reads levelLimit value (Nat.lt_succ_self _) shallow writes

/-! ## Data of its own kind -/

/-- Unfolded any number of times, a decoder reads while fewer levels are left. -/
def ReadsUnfolded
    (step : Decoder α → Decoder α)
    (layout : Layout)
    (data : α) : Prop :=
  ∀ times, Reads times (unfolded step times) layout data

theorem ReadsUnfolded.of_step
    {step : Decoder α → Decoder α}
    {layout : Layout}
    {data : α}
    (reads : ∀ times, Reads (times + 1) (step (unfolded step times)) layout data) :
    ReadsUnfolded step layout data := by
  intro times
  cases times with
  | zero => exact fun _ _ absurd => (Nat.not_lt_zero _ absurd).elim
  | succ times => exact reads times

theorem ReadsUnfolded.recursive
    {step : Decoder α → Decoder α}
    {layout : Layout}
    {data : α}
    (reads : ReadsUnfolded step layout data)
    (limit : Nat) : Reads limit (recursive step) layout data :=
  fun levels value _ => reads (levels + 1) levels value (Nat.lt_succ_self levels)

/-! ## Plain data -/

theorem reads_string (text : String) : Reads limit string (.text text) text := by
  rintro levels value - - ⟨⟩
  rfl

theorem reads_truth (truth : Bool) : Reads limit Interchange.truth (.truth truth) truth := by
  rintro levels value - - ⟨⟩
  rfl

/-- Whole numbers of 64 bits, signed or not. -/
theorem reads_whole
    {number : Int}
    (atLeast : Int64.minValue.toInt ≤ number)
    (below : number < UInt64.size) : Reads limit whole (.whole number) number := by
  rintro levels value - - ⟨⟩
  exact Json.Numeral.toInt?_ofInt atLeast below

theorem reads_int32 (number : Int32) : Reads limit int32 (.whole number.toInt) number := by
  intro levels value below deep writes
  have atLeast := number.minValue_le_toInt
  have atMost := number.toInt_le
  have least : Int64.minValue.toInt ≤ Int32.minValue.toInt := by decide
  have greatest : Int32.maxValue.toInt < UInt64.size := by decide
  have read := reads_whole (by omega) (by omega) levels value below deep writes
  rw [int32, read, Option.bind_eq_bind, Option.bind_some, if_pos ⟨atLeast, atMost⟩,
    Int32.ofInt_toInt]
  rfl

theorem reads_int64 (number : Int64) : Reads limit int64 (.whole number.toInt) number := by
  intro levels value below deep writes
  have atLeast := number.minValue_le_toInt
  have atMost := number.toInt_le
  have greatest : Int64.maxValue.toInt < UInt64.size := by decide
  have read := reads_whole atLeast (by omega) levels value below deep writes
  rw [int64, read, Option.bind_eq_bind, Option.bind_some, if_pos ⟨atLeast, atMost⟩,
    Int64.ofInt_toInt]
  rfl

theorem reads_uint64 (number : UInt64) : Reads limit uint64 (.whole number.toNat) number := by
  intro levels value below deep writes
  have fits : (number.toNat : Int) < UInt64.size := Int.ofNat_lt.mpr number.toNat_lt
  have least : Int64.minValue.toInt ≤ 0 := by decide
  have read := reads_whole (by omega) fits levels value below deep writes
  rw [uint64, read, Option.bind_eq_bind, Option.bind_some, if_pos ⟨by omega, fits⟩,
    Int.toNat_natCast, UInt64.ofNat_toNat]
  rfl

/-! ## Lists and tables -/

private theorem mapM_of_writes
    {decode : Json → Option α}
    {layoutOf : α → Layout}
    {items : List α}
    {values : List Json}
    (each : List.Forall₂ Layout.Writes (items.map layoutOf) values)
    (decodes : ∀ item ∈ items, ∀ value, (layoutOf item).Writes value → decode value = some item) :
    values.mapM decode = some items := by
  induction items generalizing values with
  | nil =>
      cases each
      rfl
  | cons item rest inductionHypothesis =>
      obtain ⟨itemDecodes, restDecodes⟩ := List.forall_mem_cons.mp decodes
      cases each with
      | cons itemWrites restWrites =>
          simp only [List.mapM_cons, itemDecodes _ itemWrites,
            inductionHypothesis restWrites restDecodes, Option.bind_eq_bind, Option.bind_some,
            Option.pure_def]

theorem Reads.list
    {decoder : Decoder α}
    {layoutOf : α → Layout}
    {items : List α}
    (each : ∀ item ∈ items, Reads limit decoder (layoutOf item) item) :
    Reads limit (Interchange.list decoder) (.list (items.map layoutOf)) items := by
  intro levels value below deep writes
  cases levels with
  | zero => exact (Nat.not_succ_le_zero _ deep).elim
  | succ levels =>
      rw [Layout.nesting_list_le_iff, List.forall_mem_map] at deep
      cases writes with
      | list eachWrites =>
          exact mapM_of_writes eachWrites fun item isItem value =>
            each item isItem levels value (by omega) (deep item isItem)

/-- Values by name, decoded in order. -/
theorem mapM_entries_of_writes
    {decode : Json → Option α}
    {layoutOf : α → Layout}
    {entries : Table α}
    {values : List Json}
    (each : List.Forall₂ Layout.Writes (entries.map fun entry => layoutOf entry.2) values)
    (decodes : ∀ entry ∈ entries, ∀ value, (layoutOf entry.2).Writes value →
      decode value = some entry.2) :
    (((entries.map Prod.fst).zip values).map fun member => (some member.1, member.2)).mapM
        (fun member => do
          let name ← member.1
          let value ← decode member.2
          pure (name, value))
      = some entries := by
  induction entries generalizing values with
  | nil => rfl
  | cons entry rest inductionHypothesis =>
      obtain ⟨entryDecodes, restDecodes⟩ := List.forall_mem_cons.mp decodes
      cases each with
      | cons entryWrites restWrites =>
          rw [List.map_cons, List.zip_cons_cons, List.map_cons, List.mapM_cons,
            inductionHypothesis restWrites restDecodes]
          simp only [entryDecodes _ entryWrites, Option.bind_eq_bind, Option.bind_some,
            Option.pure_def]

theorem Reads.table
    {decoder : Decoder α}
    {layoutOf : α → Layout}
    {entries : Table α}
    (distinct : Table.Distinct entries)
    (each : ∀ entry ∈ entries, Reads limit decoder (layoutOf entry.2) entry.2) :
    Reads limit (Interchange.table decoder) (tableLayout layoutOf entries) entries := by
  intro levels value below deep writes
  cases levels with
  | zero => exact (Nat.not_succ_le_zero _ deep).elim
  | succ levels =>
      rw [tableLayout, Layout.json, Layout.nesting_object_le_iff, List.forall_mem_map] at deep
      cases writes with
      | table eachWrites =>
          rw [List.map_map] at eachWrites ⊢
          have decoded := mapM_entries_of_writes eachWrites fun entry isEntry value =>
            each entry isEntry levels value (by omega) (deep entry isEntry)
          calc
            _ = some entries >>= fun entries => pure (Table.ofEntries entries) :=
              congrArg (· >>= fun entries => pure (Table.ofEntries entries)) decoded
            _ = some entries := congrArg some (Table.ofEntries_of_distinct distinct)

/-! ## Choices -/

/-- A choice that holds nothing. -/
theorem reads_name
    {pick : Choice → Option α}
    {name : String}
    {data : α}
    (picks : pick ⟨name, none⟩ = some data) :
    Reads limit (fun levels value => choice levels value >>= pick) (.text name) data := by
  rintro levels value - - ⟨⟩
  cases levels <;> exact picks

/-- A choice that holds something, one level deeper. -/
theorem reads_chosen
    {pick : Choice → Option α}
    {name : String}
    {content : Layout}
    {data : α}
    (picks : Reads limit (fun levels value => pick ⟨name, some (levels, value)⟩) content data) :
    Reads (limit + 1) (fun levels value => choice levels value >>= pick)
      (.table [(name, content)]) data := by
  intro levels value below deep writes
  cases levels with
  | zero => exact (Nat.not_succ_le_zero _ deep).elim
  | succ levels =>
      rw [Layout.json, Layout.nesting_object_le_iff, List.forall_mem_singleton] at deep
      cases writes with
      | table each =>
          cases each with
          | cons contentWrites none =>
              cases none
              exact picks levels _ (by omega) deep contentWrites

/-! ## Records -/

/-- Every entry of a table of distinct names is found. -/
theorem lookup_of_mem
    {values : Table Json}
    (distinct : Table.Distinct values)
    {name : String}
    {value : Json}
    (member : (name, value) ∈ values) : List.lookup name values = some value := by
  rw [← (Table.find?_eq_some_iff distinct name value).mpr member]
  clear distinct member
  induction values with
  | nil => rfl
  | cons entry rest inductionHypothesis =>
      obtain ⟨key, first⟩ := entry
      rw [List.lookup_cons, Table.find?, inductionHypothesis]
      by_cases same : key = name
      · simp [same]
      · have other : (name == key) = false := beq_false_of_ne (Ne.symm same)
        simp [same, other]

private theorem hasRepeated_of_distinct
    {values : Table Json}
    (distinct : Table.Distinct values) : hasRepeated values = false := by
  induction values with
  | nil => rfl
  | cons value rest inductionHypothesis =>
      obtain ⟨name, first⟩ := value
      obtain ⟨new, restDistinct⟩ := List.nodup_cons.mp distinct
      rw [hasRepeated, inductionHypothesis restDistinct, Bool.or_false, List.any_eq_false]
      intro other isOther same
      exact new (List.mem_map.mpr ⟨other, isOther, eq_of_beq same⟩)

/-- Fields that are given a writing of each of their layouts. -/
structure Fields.Give
    (limit : Nat)
    (entries : List (String × Layout))
    (fields : Fields) : Prop where
  below : fields.levels < limit
  given : ∀ name layout, (name, layout) ∈ entries →
    ∃ value, fields.value? name = some value
      ∧ layout.json.nesting ≤ fields.levels
      ∧ layout.Writes value

theorem Fields.Give.required
    {entries : List (String × Layout)}
    {fields : Fields}
    {name : String}
    {layout : Layout}
    {decoder : Decoder α}
    {data : α}
    (gives : fields.Give limit entries)
    (isField : (name, layout) ∈ entries)
    (reads : Reads limit decoder layout data) : fields.required name decoder = some data := by
  obtain ⟨value, found, deep, writes⟩ := gives.given name layout isField
  rw [Fields.required, found, Option.bind_some]
  exact reads fields.levels value gives.below deep writes

theorem Fields.Give.withDefault
    {entries : List (String × Layout)}
    {fields : Fields}
    {name : String}
    {layout : Layout}
    {decoder : Decoder α}
    {data : α}
    (gives : fields.Give limit entries)
    (isField : (name, layout) ∈ entries)
    (reads : Reads limit decoder layout data)
    (default : α) : fields.withDefault name decoder default = some data := by
  obtain ⟨value, found, deep, writes⟩ := gives.given name layout isField
  rw [Fields.withDefault, found]
  exact reads fields.levels value gives.below deep writes

/-- A field that is left null. -/
theorem Fields.Give.optional_of_null
    {entries : List (String × Layout)}
    {fields : Fields}
    {name : String}
    (gives : fields.Give limit entries)
    (isField : (name, Layout.null) ∈ entries)
    (decoder : Decoder α) : fields.optional name decoder = some none := by
  obtain ⟨value, found, -, ⟨⟩⟩ := gives.given name .null isField
  rw [Fields.optional, found]

/-- A field that is given a record, which is never null. -/
theorem Fields.Give.optional_of_record
    {entries inner : List (String × Layout)}
    {fields : Fields}
    {name : String}
    {decoder : Decoder α}
    {data : α}
    (gives : fields.Give limit entries)
    (isField : (name, Layout.record inner) ∈ entries)
    (reads : Reads limit decoder (.record inner) data) :
    fields.optional name decoder = some (some data) := by
  obtain ⟨value, found, deep, writes⟩ := gives.given name _ isField
  have read := reads fields.levels value gives.below deep writes
  rw [Fields.optional, found]
  cases writes with
  | object => exact congrArg (Option.map some) read
  | array => exact congrArg (Option.map some) read

private theorem names_zip
    {entries : List (String × Layout)}
    {values : List Json}
    (each : List.Forall₂ Layout.Writes (entries.map Prod.snd) values) :
    Table.names ((entries.map Prod.fst).zip values) = entries.map Prod.fst := by
  apply List.map_fst_zip
  have paired := each.length_eq
  rw [List.length_map] at paired ⊢
  exact Nat.le_of_eq paired

/-- The value in the place of a field is a writing of the field. -/
theorem exists_mem_zip
    {entries : List (String × Layout)}
    {values : List Json}
    (each : List.Forall₂ Layout.Writes (entries.map Prod.snd) values)
    {entry : String × Layout}
    (isField : entry ∈ entries) :
    ∃ value, (entry.1, value) ∈ (entries.map Prod.fst).zip values ∧ entry.2.Writes value := by
  induction entries generalizing values with
  | nil => cases isField
  | cons first rest inductionHypothesis =>
      cases each with
      | cons firstWrites restWrites =>
          rcases List.mem_cons.mp isField with rfl | inRest
          · exact ⟨_, List.mem_cons_self .., firstWrites⟩
          · obtain ⟨value, isValue, writes⟩ := inductionHypothesis restWrites inRest
            exact ⟨value, List.mem_cons_of_mem _ isValue, writes⟩

private theorem Fields.give_of_values
    {entries : List (String × Layout)}
    (distinct : (entries.map Prod.fst).Nodup)
    {values : List Json}
    (each : List.Forall₂ Layout.Writes (entries.map Prod.snd) values)
    {fields : Fields}
    (same : fields.values.Perm ((entries.map Prod.fst).zip values))
    (below : fields.levels < limit)
    (deep : ∀ entry ∈ entries, entry.2.json.nesting ≤ fields.levels) :
    fields.Give limit entries := by
  refine ⟨below, ?_⟩
  intro name layout isField
  have valuesDistinct : Table.Distinct ((entries.map Prod.fst).zip values) := by
    rw [Table.Distinct, names_zip each]
    exact distinct
  obtain ⟨value, isValue, writes⟩ := exists_mem_zip each isField
  have found : fields.value? name = some value :=
    lookup_of_mem (valuesDistinct.of_perm same) (same.mem_iff.mpr isValue)
  exact ⟨value, found, deep _ isField, writes⟩

/-- Fields that a record does not know are left out. -/
theorem filter_known
    {names : List String}
    {known unknown members : Table Json}
    (areKnown : Table.names known = names)
    (noField : ∀ member ∈ unknown, member.1 ∉ names)
    (anyOrder : members.Perm (known ++ unknown)) :
    (members.filter fun member => names.contains member.1).Perm known := by
  refine (anyOrder.filter _).trans ?_
  rw [List.filter_append, List.filter_eq_self.mpr, List.filter_eq_nil_iff.mpr, List.append_nil]
  · intro member isMember
    rw [List.contains_iff_mem]
    exact noField member isMember
  · intro member isMember
    rw [List.contains_iff_mem, ← areKnown]
    exact List.mem_map_of_mem isMember

private theorem mapM_named (members : List (String × Json)) :
    (members.map fun member => (some member.1, member.2)).mapM
        (fun member : Option String × Json => member.1.map fun name => (name, member.2))
      = some members := by
  induction members with
  | nil => rfl
  | cons member rest inductionHypothesis =>
      rw [List.map_cons, List.mapM_cons, inductionHypothesis]
      rfl

private theorem fields_ofMembers
    {names : List String}
    {members : Table Json}
    (distinct : Table.Distinct (members.filter fun member => names.contains member.1))
    (levels : Nat) :
    fields names (levels + 1) (.ofMembers members)
      = some ⟨levels, members.filter fun member => names.contains member.1, true⟩ := by
  have unrepeated := hasRepeated_of_distinct distinct
  let among : List (String × Json) → Option Fields := fun named =>
    let values := named.filter fun member => names.contains member.1
    if hasRepeated values then none else some ⟨levels, values, true⟩
  calc
    _ = some members >>= among := congrArg (· >>= among) (mapM_named members)
    _ = _ := if_neg (by rw [unrepeated]; decide)

/-- A record is read, if its fields make the data whenever each is given a writing of its own. -/
theorem Reads.record
    {names : List String}
    {entries : List (String × Layout)}
    {build : Fields → Option α}
    {data : α}
    (named : entries.map Prod.fst = names)
    (distinct : names.Nodup)
    (builds : ∀ fields : Fields, fields.Give limit entries → build fields = some data) :
    Reads limit (fun levels value => fields names levels value >>= build) (.record entries)
      data := by
  subst named
  intro levels value below deep writes
  cases levels with
  | zero => exact (Nat.not_succ_le_zero _ deep).elim
  | succ levels =>
      rw [Layout.json, Layout.nesting_object_le_iff] at deep
      have fewer : levels < limit := by omega
      show fields _ _ _ >>= build = some data
      cases writes with
      | object each noField readable anyOrder =>
          have known := filter_known (names_zip each) noField anyOrder
          have valuesDistinct : Table.Distinct ((entries.map Prod.fst).zip _) :=
            (names_zip each).symm ▸ distinct
          rw [fields_ofMembers (valuesDistinct.of_perm known), Option.bind_eq_bind,
            Option.bind_some]
          exact builds _ (Fields.give_of_values distinct each known fewer deep)
      | @array _ values each =>
          have paired := each.length_eq
          have fits : values.length ≤ (entries.map Prod.fst).length := by
            rw [List.length_map] at paired ⊢
            exact Nat.le_of_eq paired.symm
          rw [fields, if_pos fits, Option.bind_eq_bind, Option.bind_some]
          exact builds _ (Fields.give_of_values distinct each (.refl _) fewer deep)

end ClauseBinding.Interchange
