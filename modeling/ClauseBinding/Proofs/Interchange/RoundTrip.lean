import ClauseBinding.Proofs.Interchange.Clauses

/-!
Contract: clauses, types and settings survive being written in JSON.

Owns:
- what it means that data survives being written;
- that clauses do whose literals hold no float and no moment, and so do types, conversion
  tables, configurations and catalogs, as long as their texts do not nest too deep.

Does not own: the order in which the entries of a table are written. It is that of the
table, so a map is read back as the same map, whichever order it is written in.
-/

namespace ClauseBinding.Interchange

variable {α : Type}

/-- Whether data is read back from its compact text, and from all texts that differ from
that one in the form of records only. -/
structure Survives
    (decoder : Decoder α)
    (written : Json)
    (layout : Layout)
    (data : α) : Prop where
  compact : decodeText? decoder written.render = some data
  laidOut : layout.json = written
  everyForm : ∀ value, layout.Writes value → decodeText? decoder value.render = some data

private theorem Reads.survives
    {decoder : Decoder α}
    {written : Json}
    {layout : Layout}
    {data : α}
    (reads : Reads (levelLimit + 1) decoder layout data)
    (laidOut : layout.json = written)
    (shallow : written.nesting < 128) : Survives decoder written layout data := by
  subst laidOut
  have withinLimit : layout.json.nesting ≤ levelLimit := Nat.le_of_lt_succ shallow
  have everyForm : ∀ value, layout.Writes value → decodeText? decoder value.render = some data :=
    fun _ writes => reads.decodeText?_render withinLimit writes
  exact ⟨everyForm _ layout.writes_json, rfl, everyForm⟩

/-- Data whose text nests fewer than 128 levels is read back, with every text and every
whole number in it, whichever order and form the fields of its records are written in. -/
theorem written_data_survives :
    (∀ tree : Clause,
        tree.Exact →
        (clauseJson tree).nesting < 128 →
        Survives clause (clauseJson tree) (clauseLayout tree) tree)
      ∧ (∀ test : FilterClause,
        test.condition.Exact →
        (filterJson test).nesting < 128 →
        Survives filter (filterJson test) (filterLayout test) test)
      ∧ (∀ keys : OrderClause,
        (∀ term ∈ keys.terms, term.key.Exact) →
        (orderJson keys).nesting < 128 →
        Survives order (orderJson keys) (orderLayout keys) keys)
      ∧ (∀ type : ValueType,
        (valueTypeJson type).nesting < 128 →
        Survives valueType (valueTypeJson type) (valueTypeLayout type) type)
      ∧ (∀ conversions : ConversionTable,
        (conversionTableJson conversions).nesting < 128 →
        Survives conversionTable (conversionTableJson conversions)
          (conversionTableLayout conversions) conversions)
      ∧ (∀ settings : Configuration,
        Survives configuration (configurationJson settings) (configurationLayout settings) settings)
      ∧ ∀ entries : Catalog,
        entries.Distinct →
        (catalogJson entries).nesting < 128 →
        Survives catalog (catalogJson entries) (catalogLayout entries) entries := by
  refine ⟨?_, ?_, ?_, ?_, ?_, ?_, ?_⟩
  · exact fun tree exact => (reads_clause exact).survives (clauseLayout_json exact)
  · exact fun test exact => (reads_filter exact).survives (filterLayout_json exact)
  · exact fun keys exact => (reads_order exact).survives (orderLayout_json exact)
  · exact fun type => (reads_valueType type).survives (valueTypeLayout_json type)
  · exact fun conversions =>
      (reads_conversionTable conversions).survives (conversionTableLayout_json conversions)
  · intro settings
    have oneLevel : (configurationJson settings).nesting = 1 := rfl
    exact (reads_configuration settings).survives (configurationLayout_json settings) (by omega)
  · exact fun entries distinct => (reads_catalog distinct).survives (catalogLayout_json entries)

example :
    decodeText? configuration
        "\x7b\"ensure_stable_ordering\":true,\"note\":[],\"max_depth\":7\x7d"
      = some ⟨7, true⟩ := by
  decide +kernel

/-- How many remarks are a given one, whose text needs escapes and whose rank is the least
of 64 bits. -/
def sameRemarks : Clause :=
  .countWhere (.member (.reference "$it") "remarks") "remark"
    (.binary (.comparison .eq) (.reference "remark")
      (.literal
        (.record [("text", .string "\"é\" \\ \n\x01😀"), ("rank", .int64 Int64.minValue)])
        (.required (.structured "Remark"))))

def remarkCatalog : Catalog where
  types := [("Remark", ⟨"Remark", [⟨"text", .string, false⟩, ⟨"rank", .int64, false⟩], ["rank"]⟩)]
  enumerations := []
  conversions := .standard

/-- Settings in another order, with a field that settings do not have. -/
def turnedSettings : Json :=
  .ofMembers [
    ("ensure_stable_ordering", .truth true),
    ("note", .array []),
    ("max_depth", .ofInt 7)]

theorem written_data_survives_remarks :
    sameRemarks.Exact
      ∧ (clauseJson sameRemarks).nesting < 128
      ∧ remarkCatalog.Distinct
      ∧ Survives clause (clauseJson sameRemarks) (clauseLayout sameRemarks) sameRemarks
      ∧ Survives filter (filterJson ⟨sameRemarks, "$it"⟩) (filterLayout ⟨sameRemarks, "$it"⟩)
        ⟨sameRemarks, "$it"⟩
      ∧ Survives order (orderJson ⟨[⟨sameRemarks, .descending⟩], "$it"⟩)
        (orderLayout ⟨[⟨sameRemarks, .descending⟩], "$it"⟩) ⟨[⟨sameRemarks, .descending⟩], "$it"⟩
      ∧ Survives valueType (valueTypeJson .null) (valueTypeLayout .null) .null
      ∧ Survives conversionTable (conversionTableJson .standard) (conversionTableLayout .standard)
        .standard
      ∧ Survives catalog (catalogJson remarkCatalog) (catalogLayout remarkCatalog) remarkCatalog
      ∧ decodeText? configuration turnedSettings.render = some ⟨7, true⟩
      ∧ decodeText? configuration (Json.array [.ofInt 7, .truth true]).render
        = some ⟨7, true⟩ := by
  have exact : sameRemarks.Exact := by
    simp [Clause.Exact, sameRemarks, Clause.literals, Value.Exact, Value.MembersExact,
      Table.Distinct, Table.names]
  have shallow : (clauseJson sameRemarks).nesting < 128 := by decide
  have distinct : remarkCatalog.Distinct := by
    constructor <;> simp [Table.Distinct, Table.names, remarkCatalog]
  obtain ⟨clauses, filters, orders, types, conversions, configurations, catalogs⟩ :=
    written_data_survives
  have settingsWrite : List.Forall₂ Layout.Writes [.whole 7, .truth true]
      [.ofInt 7, .truth true] := .cons (.whole 7) (.cons (.truth true) .nil)
  have turned : (configurationLayout ⟨7, true⟩).Writes turnedSettings := by
    refine @Layout.Writes.object _ _ [("note", .array [])] _ settingsWrite ?_ ?_ ?_
    · decide
    · exact List.forall_mem_singleton.mpr (Json.array_wellFormed (List.forall_mem_nil _))
    · exact List.perm_append_singleton ("max_depth", Json.ofInt 7) [_, _]
  refine ⟨exact, shallow, distinct, clauses _ exact shallow, filters _ exact (by decide),
    orders _ (List.forall_mem_singleton.mpr exact) (by decide), types _ (by decide),
    conversions _ (by decide), catalogs _ distinct (by decide), ?_, ?_⟩
  · exact (configurations ⟨7, true⟩).everyForm _ turned
  · exact (configurations ⟨7, true⟩).everyForm _ (.array settingsWrite)

end ClauseBinding.Interchange
