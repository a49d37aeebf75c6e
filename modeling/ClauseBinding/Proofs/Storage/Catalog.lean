import ClauseBinding.Proofs.Binding.Dependence
import ClauseBinding.Proofs.Data.Table
import ClauseBinding.Proofs.Storage.Faithful

/-!
Contract: the stored form of catalogs is faithful.

Owns:
- the forms of data types, definitions, tables and conversions;
- catalogs that are the same up to the order of their tables, and bind every clause alike;
- that a catalog is loaded from its form whatever follows it, from no part of it that is
  cut off, and that the bytes of a loaded catalog are its form.

Does not own: whether a loaded catalog is valid; that is never checked.
-/

namespace ClauseBinding

namespace Stored

/-! ## Types -/

private theorem dataType_nonempty (type : DataType) : 0 < (dataType type).length := by
  cases type <;> simp only [dataType, List.length_append, length_number] <;> omega

/-- Every level of nesting takes bytes, so their number is depth enough. -/
theorem takes_dataType
    (type : DataType)
    (countable : Countable (dataType type))
    {depth : Nat}
    (deep : (dataType type).length ≤ depth) :
    Takes (readDataTypeWithin depth) (dataType type) type := by
  have positive := dataType_nonempty type
  obtain ⟨below, rfl⟩ : ∃ below, depth = below + 1 := ⟨depth - 1, by omega⟩
  induction type generalizing below with
  | collection element nullable elementTaken =>
      rw [dataType, List.append_assoc] at countable deep ⊢
      rw [List.length_append, List.length_append, length_number] at deep
      obtain ⟨elementCountable, nullableCountable⟩ := countable.of_append.2.of_append
      have elementPositive := dataType_nonempty element
      obtain ⟨further, rfl⟩ : ∃ further, below = further + 1 := ⟨below - 1, by omega⟩
      have elementDeep : (dataType element).length ≤ further + 1 := by omega
      apply (takes_number (by decide)).bind
      apply (elementTaken elementCountable elementPositive further elementDeep).bind
      exact (truth_faithful.reads nullable nullableCountable).bind_pure _
  | enumeration name | structured name =>
      apply (takes_number (by decide)).bind
      exact (text_faithful.reads name countable.of_append.2).map _
  | _ =>
      intro trailing
      exact Reader.bind_eq_some_iff.mpr ⟨_, trailing, takes_number (by decide) trailing, rfl⟩

private theorem dataType_of_readDataTypeWithin
    {depth : Nat}
    {bytes rest : List UInt8}
    {type : DataType}
    (readable : readDataTypeWithin depth bytes = some (type, rest)) :
    dataType type ++ rest = bytes := by
  induction depth generalizing bytes rest type with
  | zero => cases readable
  | succ depth inductionHypothesis =>
      obtain ⟨tag, afterTag, readTag, remaining⟩ := Reader.bind_eq_some_iff.mp readable
      obtain ⟨-, written⟩ := number_of_readNumber readTag
      split at remaining
      case h_9 | h_10 =>
        obtain ⟨name, readName, rfl⟩ := Reader.map_eq_some_iff.mp remaining
        rw [dataType, List.append_assoc, text_faithful.writes _ _ _ readName, written]
      case h_11 =>
        obtain ⟨element, afterElement, readElement, remaining⟩ :=
          Reader.bind_eq_some_iff.mp remaining
        obtain ⟨nullable, afterNullable, readNullable, result⟩ :=
          Reader.bind_eq_some_iff.mp remaining
        obtain ⟨rfl, rfl⟩ := Reader.pure_eq_some_iff.mp result
        rw [dataType, List.append_assoc, List.append_assoc,
          truth_faithful.writes _ _ _ readNullable, inductionHypothesis readElement, written]
      case h_13 => cases remaining
      all_goals
        obtain ⟨rfl, rfl⟩ := Reader.pure_eq_some_iff.mp remaining
        exact written

private theorem dataType_faithful : Faithful dataType readDataType where
  nonempty := dataType_nonempty
  reads type countable := by
    intro trailing
    apply takes_dataType type countable
    rw [List.length_append]
    omega
  writes bytes type rest readable := dataType_of_readDataTypeWithin readable

/-! ## Definitions -/

private theorem memberDefinition_faithful : Faithful memberDefinition readMemberDefinition :=
  (text_faithful.pair (dataType_faithful.pair truth_faithful)).convert
    (fun parts => ⟨parts.1, parts.2.1, parts.2.2⟩)
    (fun member => (member.name, member.data, member.nullable))
    (fun _ => rfl) (fun _ => rfl)
    (fun _ => List.append_assoc ..)
    (by simp [readMemberDefinition])

private theorem structuredType_faithful : Faithful structuredType readStructuredType :=
  (text_faithful.pair
      ((list_faithful memberDefinition_faithful).pair (list_faithful text_faithful))).convert
    (fun parts => ⟨parts.1, parts.2.1, parts.2.2⟩)
    (fun type => (type.name, type.members, type.key))
    (fun _ => rfl) (fun _ => rfl)
    (fun _ => List.append_assoc ..)
    (by simp [readStructuredType])

private theorem enumerationMember_faithful : Faithful enumerationMember readEnumerationMember :=
  text_faithful.pair int64_faithful

private theorem enumerationType_faithful : Faithful enumerationType readEnumerationType :=
  (text_faithful.pair ((list_faithful enumerationMember_faithful).pair truth_faithful)).convert
    (fun parts => ⟨parts.1, parts.2.1, parts.2.2⟩)
    (fun type => (type.name, type.members, type.isFlags))
    (fun _ => rfl) (fun _ => rfl)
    (fun _ => List.append_assoc ..)
    (by simp [readEnumerationType])

private theorem entry_faithful
    {α : Type}
    {value : α → List UInt8}
    {readValue : Reader α}
    (faithful : Faithful value readValue) : Faithful (entry value) (readEntry readValue) :=
  text_faithful.pair faithful

private theorem conversion_faithful : Faithful conversion readConversion :=
  (dataType_faithful.pair dataType_faithful).convert
    (fun parts => ⟨parts.1, parts.2⟩)
    (fun conversion => (conversion.source, conversion.target))
    (fun _ => rfl) (fun _ => rfl) (fun _ => rfl)
    (by simp [readConversion])

private theorem conversionTable_faithful : Faithful conversionTable readConversionTable :=
  ((list_faithful conversion_faithful).pair (list_faithful conversion_faithful)).convert
    (fun parts => ⟨parts.1, parts.2⟩)
    (fun table => (table.implicit, table.explicit))
    (fun _ => rfl) (fun _ => rfl) (fun _ => rfl)
    (by simp [readConversionTable])

theorem catalog_faithful : Faithful Catalog.toBytes readCatalog :=
  ((list_faithful (entry_faithful structuredType_faithful)).pair
      ((list_faithful (entry_faithful enumerationType_faithful)).pair
        conversionTable_faithful)).convert
    (fun parts => ⟨parts.1, parts.2.1, parts.2.2⟩)
    (fun catalog => (catalog.types, catalog.enumerations, catalog.conversions))
    (fun _ => rfl) (fun _ => rfl)
    (fun _ => List.append_assoc ..)
    (by simp [readCatalog])

end Stored

namespace Catalog

/-- No name has two entries in a table. A structured type and an enumeration may
share a name. -/
structure Distinct (catalog : Catalog) : Prop where
  types : Table.Distinct catalog.types
  enumerations : Table.Distinct catalog.enumerations

/-- The same catalog, its tables perhaps in another order. -/
structure Same (left right : Catalog) : Prop where
  types : left.types.Perm right.types
  enumerations : left.enumerations.Perm right.enumerations
  conversions : left.conversions = right.conversions

/-- Filters and orders bind over one catalog as over the other, failures included. -/
structure BindsAs (left right : Catalog) : Prop where
  filter : ∀ (filter : FilterClause) (context : Context),
    filter.bindIn { context with catalog := left } =
      filter.bindIn { context with catalog := right }
  order : ∀ (order : OrderClause) (context : Context),
    order.bindIn { context with catalog := left } =
      order.bindIn { context with catalog := right }

theorem Distinct.of_same
    {left right : Catalog}
    (distinct : right.Distinct)
    (same : left.Same right) : left.Distinct :=
  ⟨distinct.types.of_perm same.types, distinct.enumerations.of_perm same.enumerations⟩

theorem Same.alike
    {left right : Catalog}
    (same : left.Same right)
    (distinct : right.Distinct) : left.Alike right :=
  ⟨Table.find?_of_perm distinct.types same.types,
    Table.find?_of_perm distinct.enumerations same.enumerations, same.conversions⟩

private theorem Alike.bindsAs
    {left right : Catalog}
    (alike : left.Alike right) : left.BindsAs right := by
  have contexts : ∀ context : Context,
      ({ context with catalog := left } : Context).Alike { context with catalog := right } :=
    fun _ => ⟨alike, rfl, rfl, rfl⟩
  exact ⟨fun filter context => filter.bindIn_of_alike (contexts context) rfl,
    fun order context => order.bindIn_of_alike (contexts context) rfl rfl⟩

/-- Bytes whose entries have distinct names hold these entries. -/
theorem ofBytes?_of_readCatalog
    {bytes rest : List UInt8}
    {entries : Catalog}
    (readable : Stored.readCatalog bytes = some (entries, rest))
    (distinct : entries.Distinct) : ofBytes? bytes = some entries := by
  simp [ofBytes?, readable, Table.ofEntries_of_distinct distinct.types,
    Table.ofEntries_of_distinct distinct.enumerations]

/-- The stored form of a catalog is faithful. For every order of its tables, a catalog
is loaded from its form and whatever bytes follow, and every clause binds over it as over
the catalog; from a form that is cut off anywhere nothing is loaded. Bytes whose entries
have distinct names are the form of the loaded catalog, in the order of the entries, and
bytes that are not read. -/
theorem stored_form_faithful :
    (∀ catalog stored : Catalog,
      catalog.Distinct →
      stored.Same catalog →
      Stored.Countable stored.toBytes →
        (∀ trailing, ∃ loaded,
          ofBytes? (stored.toBytes ++ trailing) = some loaded
            ∧ loaded.Same catalog
            ∧ loaded.BindsAs catalog)
          ∧ ∀ part missing,
            part ++ missing = stored.toBytes →
            missing ≠ [] →
              ofBytes? part = none)
      ∧ ∀ (bytes rest : List UInt8) (entries : Catalog),
        Stored.readCatalog bytes = some (entries, rest) →
        entries.Distinct →
          ofBytes? bytes = some entries
            ∧ entries.toBytes ++ rest = bytes := by
  constructor
  · intro catalog stored distinct same countable
    constructor
    · intro trailing
      have readable := Stored.catalog_faithful.reads stored countable trailing
      have loads := ofBytes?_of_readCatalog readable (distinct.of_same same)
      exact ⟨stored, loads, same, (same.alike distinct).bindsAs⟩
    · intro part missing whole cut
      have refused := Stored.catalog_faithful.refuses_cut countable whole cut
      simp [ofBytes?, refused]
  · intro bytes rest entries readable distinct
    exact ⟨ofBytes?_of_readCatalog readable distinct,
      Stored.catalog_faithful.writes _ _ _ readable⟩

/-- Shelves of rows of books, whose genres combine. -/
def shelfCatalog : Catalog where
  types :=
    [("Shelf", ⟨"Shelf", [⟨"rows", .collection (.collectionOf (.structured "Book")) true, true⟩],
      []⟩),
     ("Book", ⟨"Book", [⟨"title", .string, false⟩, ⟨"genre", .enumeration "Genre", true⟩],
      ["title"]⟩)]
  enumerations := [("Genre", ⟨"Genre", [("Myth", 1), ("Satire", -2)], true⟩)]
  conversions := .standard

/-- The same catalog with its types the other way round. -/
def booksFirst : Catalog :=
  { shelfCatalog with types := shelfCatalog.types.reverse }

/-- Books first, as stored, is loaded as the catalog; one byte less is not; and what
was loaded before a further byte is stored in the bytes that came before it. -/
theorem stored_form_faithful_booksFirst :
    shelfCatalog.Distinct
      ∧ booksFirst.Same shelfCatalog
      ∧ Stored.Countable booksFirst.toBytes
      ∧ (∃ loaded,
        ofBytes? (booksFirst.toBytes ++ [7]) = some loaded
          ∧ loaded.Same shelfCatalog
          ∧ loaded.BindsAs shelfCatalog)
      ∧ ofBytes? booksFirst.toBytes.dropLast = none
      ∧ Stored.readCatalog (booksFirst.toBytes ++ [7]) = some (booksFirst, [7])
      ∧ ofBytes? (booksFirst.toBytes ++ [7]) = some booksFirst := by
  have distinct : shelfCatalog.Distinct := by
    constructor <;> simp [Table.Distinct, Table.names, shelfCatalog]
  have same : booksFirst.Same shelfCatalog :=
    ⟨List.reverse_perm _, .refl _, rfl⟩
  have countable : Stored.Countable booksFirst.toBytes := by
    rw [Stored.Countable]
    decide +kernel
  have written : booksFirst.toBytes ≠ [] :=
    List.ne_nil_of_length_pos (Stored.catalog_faithful.nonempty booksFirst)
  have cut : booksFirst.toBytes.dropLast ++ [booksFirst.toBytes.getLast written] =
      booksFirst.toBytes := List.dropLast_append_getLast written
  have readable := Stored.catalog_faithful.reads booksFirst countable [7]
  obtain ⟨loads, refuses⟩ := stored_form_faithful.1 _ _ distinct same countable
  have reloads := stored_form_faithful.2 _ _ _ readable (distinct.of_same same)
  exact ⟨distinct, same, countable, loads [7], refuses _ _ cut (List.cons_ne_nil _ _), readable,
    reloads.1⟩

end Catalog

end ClauseBinding
