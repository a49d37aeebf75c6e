import ClauseBinding.Proofs.Schema.Definition
import ClauseBinding.Proofs.Storage.Catalog
import ClauseBinding.Schema.Registry

/-!
Contract: a catalog keeps one namespace, over every run of changes.

Owns:
- what each change makes of a catalog, that registering in place is registering, and that a
  catalog is left as it was where that fails;
- the catalogs that runs of changes reach, in whatever order their tables come;
- that such a catalog holds the first definition registered under each name and no other,
  hence that no name is taken twice and what is well-formed stays so.

Does not own: the bytes of a catalog.

A name is free if neither table holds it, and each table is changed without a look at the
other. So the invariant is not about the tables but about the run: both are read off the
first definition of each name.
-/

namespace ClauseBinding

open ClauseBinding.Outcome

/-! ## Definitions -/

namespace Definition

def structured? : Definition → Option StructuredType
  | .structured type => some type
  | .enumeration _ => none

def enumeration? : Definition → Option EnumerationType
  | .structured _ => none
  | .enumeration type => some type

def Made : Definition → Prop
  | .structured type => type.Made
  | .enumeration type => type.Made

private theorem eq_structured
    {definition : Definition}
    {type : StructuredType}
    (isType : definition.structured? = some type) : definition = .structured type := by
  cases definition with
  | structured other => exact congrArg Definition.structured (Option.some.inj isType)
  | enumeration other => cases isType

private theorem eq_enumeration
    {definition : Definition}
    {type : EnumerationType}
    (isType : definition.enumeration? = some type) : definition = .enumeration type := by
  cases definition with
  | structured other => cases isType
  | enumeration other => exact congrArg Definition.enumeration (Option.some.inj isType)

end Definition

/-! ## One change -/

namespace Registry

private theorem run_ensureFree
    (name : String)
    (catalog : Catalog) :
    (ensureFree name).run.run catalog =
      (if catalog.hasType name then .error (.schema (.nameTaken name)) else .ok (), catalog) := by
  unfold ensureFree
  rw [run_bind]
  show (if catalog.hasType name then throw (.schema (.nameTaken name)) else pure () :
    Registry Unit).run.run catalog = _
  cases catalog.hasType name <;> rfl

private theorem run_reload (catalog : Catalog) :
    reload.run.run catalog =
      match Catalog.ofBytes? catalog.toBytes with
      | some loaded => (.ok (), loaded)
      | none => (.error .unreadableCatalog, catalog) := by
  have current : (get : Registry Catalog).run.run catalog = (.ok catalog, catalog) := rfl
  unfold reload
  rw [run_bind, current]
  dsimp only
  cases Catalog.ofBytes? catalog.toBytes <;> rfl

end Registry

namespace Catalog

variable {catalog : Catalog} {definition : Definition}

/-- The catalog with one more definition, behind those of its kind. -/
def append (catalog : Catalog) : Definition → Catalog
  | .structured type => { catalog with types := catalog.types ++ [(type.name, type)] }
  | .enumeration type =>
      { catalog with enumerations := catalog.enumerations ++ [(type.name, type)] }

theorem append_type? (name : String) :
    (catalog.append definition).type? name =
      (catalog.type? name).or
        (if definition.name = name then definition.structured? else none) := by
  cases definition with
  | structured type => exact Table.find?_append catalog.types [(type.name, type)] name
  | enumeration type =>
      have nothing : (if type.name = name then (none : Option StructuredType) else none) = none :=
        ite_self none
      show catalog.type? name = _
      rw [Definition.structured?, Definition.name, nothing, Option.or_none]

theorem append_enumeration? (name : String) :
    (catalog.append definition).enumeration? name =
      (catalog.enumeration? name).or
        (if definition.name = name then definition.enumeration? else none) := by
  cases definition with
  | structured type =>
      have nothing : (if type.name = name then (none : Option EnumerationType) else none) = none :=
        ite_self none
      show catalog.enumeration? name = _
      rw [Definition.enumeration?, Definition.name, nothing, Option.or_none]
  | enumeration type => exact Table.find?_append catalog.enumerations [(type.name, type)] name

private theorem hasType_eq_false_iff
    {name : String} :
    catalog.hasType name = false ↔
      catalog.type? name = none ∧ catalog.enumeration? name = none := by
  simp [hasType, Table.contains, type?, enumeration?]

theorem Distinct.append
    (distinct : catalog.Distinct)
    (free : catalog.hasType definition.name = false) : (catalog.append definition).Distinct := by
  obtain ⟨noType, noEnumeration⟩ := hasType_eq_false_iff.mp free
  cases definition with
  | structured type => exact ⟨distinct.types.append noType type, distinct.enumerations⟩
  | enumeration type => exact ⟨distinct.types, distinct.enumerations.append noEnumeration type⟩

def add (catalog : Catalog) : Definition → Except SchemaFault Catalog
  | .structured type => catalog.addType type
  | .enumeration type => catalog.addEnumeration type

private theorem add_of_taken
    (taken : catalog.hasType definition.name = true) :
    catalog.add definition = .error (.nameTaken definition.name) := by
  cases definition <;> exact if_pos taken

private theorem add_of_free
    (free : catalog.hasType definition.name = false) :
    catalog.add definition = .ok (catalog.append definition) := by
  have isFree : ¬ catalog.hasType definition.name = true := by simp [free]
  obtain ⟨noType, noEnumeration⟩ := hasType_eq_false_iff.mp free
  cases definition with
  | structured type =>
      have added : Table.insert catalog.types type.name type =
          catalog.types ++ [(type.name, type)] :=
        Table.insert_of_new (Table.find?_eq_none_iff.mp noType) type
      rw [append, ← added]
      exact if_neg isFree
  | enumeration type =>
      have added : Table.insert catalog.enumerations type.name type =
          catalog.enumerations ++ [(type.name, type)] :=
        Table.insert_of_new (Table.find?_eq_none_iff.mp noEnumeration) type
      rw [append, ← added]
      exact if_neg isFree

/-- A catalog in which nothing could be registered in place is left as it was. -/
theorem change_register (definition : Definition) :
    catalog.change (.register definition) =
      match catalog.add definition with
      | .ok next => (.ok (), next)
      | .error fault => (.error (.schema fault), catalog) := by
  rw [change, Change.make, Registry.register, run_bind, Registry.run_ensureFree]
  by_cases taken : catalog.hasType definition.name = true
  · rw [if_pos taken, add_of_taken taken]
  · rw [if_neg taken]
    cases definition with
    | structured type =>
        have added : catalog.add (.structured type) = .ok _ := if_neg taken
        rw [added]
        rfl
    | enumeration type =>
        have added : catalog.add (.enumeration type) = .ok _ := if_neg taken
        rw [added]
        rfl

theorem change_register_of_taken
    (taken : catalog.hasType definition.name = true) :
    catalog.change (.register definition) =
      (.error (.schema (.nameTaken definition.name)), catalog) := by
  rw [change_register, add_of_taken taken]

theorem change_register_of_free
    (free : catalog.hasType definition.name = false) :
    catalog.change (.register definition) = (.ok (), catalog.append definition) := by
  rw [change_register, add_of_free free]

private theorem change_setConversions (conversions : ConversionTable) :
    catalog.change (.setConversions conversions) = (.ok (), catalog.withConversions conversions) :=
  rfl

/-- A catalog is loaded as it was stored. -/
theorem change_reload
    (distinct : catalog.Distinct)
    (countable : Stored.Countable catalog.toBytes) :
    catalog.change .reload = (.ok (), catalog) := by
  have readable := Stored.catalog_faithful.reads catalog countable []
  rw [List.append_nil] at readable
  rw [change, Change.make, Registry.run_reload, ofBytes?_of_readCatalog readable distinct]

end Catalog

/-! ## First definitions -/

namespace Change

def definition? : Change → Option Definition
  | .register definition => some definition
  | .setConversions _ => none
  | .reload => none

/-- The first definition that some changes are to register under a name. -/
def firstNamed
    (name : String)
    (changes : List Change) : Option Definition :=
  (changes.filterMap definition?).find? (·.name == name)

variable {name : String} {changes : List Change}

private theorem firstNamed_append (more : List Change) :
    firstNamed name (changes ++ more) = (firstNamed name changes).or (firstNamed name more) := by
  rw [firstNamed, List.filterMap_append, List.find?_append]
  rfl

private theorem firstNamed_register (definition : Definition) :
    firstNamed name [.register definition] =
      if definition.name = name then some definition else none := by
  by_cases same : definition.name = name <;> simp [firstNamed, definition?, same]

private theorem of_firstNamed
    {definition : Definition}
    (first : firstNamed name changes = some definition) :
    .register definition ∈ changes ∧ definition.name = name := by
  have found := List.mem_of_find?_eq_some first
  have named := List.find?_some first
  obtain ⟨change, isChange, registers⟩ := List.mem_filterMap.mp found
  cases change with
  | register other =>
      obtain rfl := Option.some.inj registers
      exact ⟨isChange, by simpa using named⟩
  | setConversions | reload => cases registers

private theorem exists_firstNamed
    {definition : Definition}
    (isChange : .register definition ∈ changes) :
    (firstNamed definition.name changes).isSome := by
  rw [firstNamed, List.find?_isSome]
  exact ⟨definition, List.mem_filterMap.mpr ⟨_, isChange, rfl⟩, by simp⟩

end Change

/-! ## Runs of changes -/

/-- The catalogs that some changes lead to. What is stored has to fit the counts that the
bytes hold. Tables are maps, so they may come in another order at any time, as they do when
they are loaded. -/
inductive Reached : List Change → Catalog → Prop where
  | start : Reached [] .empty
  | change {changes : List Change} {catalog : Catalog} (change : Change)
      (reached : Reached changes catalog)
      (countable : change = .reload → Stored.Countable catalog.toBytes) :
      Reached (changes ++ [change]) (catalog.change change).2
  | reorder {changes : List Change} {catalog other : Catalog}
      (reached : Reached changes catalog)
      (same : other.Same catalog) : Reached changes other

/-- A catalog holds the first definition that some changes are to register under each name,
in the table of its kind, and no other. -/
structure Catalog.HoldsFirst
    (catalog : Catalog)
    (changes : List Change) : Prop where
  distinct : catalog.Distinct
  types : ∀ name, catalog.type? name = (Change.firstNamed name changes).bind Definition.structured?
  enumerations : ∀ name,
    catalog.enumeration? name = (Change.firstNamed name changes).bind Definition.enumeration?

namespace Catalog.HoldsFirst

variable {catalog : Catalog} {changes : List Change} {definition : Definition}

/-- A name is taken once a definition was to be registered under it. -/
theorem hasType
    (holds : catalog.HoldsFirst changes)
    (name : String) : catalog.hasType name = (Change.firstNamed name changes).isSome := by
  have types := holds.types name
  have enumerations := holds.enumerations name
  rw [Catalog.hasType, Table.contains, Table.contains]
  rw [Catalog.type?] at types
  rw [Catalog.enumeration?] at enumerations
  rw [types, enumerations]
  rcases Change.firstNamed name changes with _ | (_ | _) <;> rfl

/-- A change that registers nothing new leaves the first definitions as they were. -/
theorem of_same_first
    {more : List Change}
    (holds : catalog.HoldsFirst changes)
    (same : ∀ name, Change.firstNamed name (changes ++ more) = Change.firstNamed name changes) :
    catalog.HoldsFirst (changes ++ more) := by
  refine ⟨holds.distinct, ?_, ?_⟩
  · intro name
    rw [same]
    exact holds.types name
  · intro name
    rw [same]
    exact holds.enumerations name

theorem append
    (holds : catalog.HoldsFirst changes)
    (free : catalog.hasType definition.name = false) :
    (catalog.append definition).HoldsFirst (changes ++ [.register definition]) := by
  have isFirst : ∀ name, Change.firstNamed name (changes ++ [.register definition]) =
      if definition.name = name then some definition else Change.firstNamed name changes := by
    intro name
    rw [Change.firstNamed_append, Change.firstNamed_register]
    by_cases same : definition.name = name
    · have noneBefore : Change.firstNamed name changes = none := by
        rw [← same, ← Option.not_isSome_iff_eq_none, ← holds.hasType, free]
        exact Bool.false_ne_true
      rw [if_pos same, noneBefore, Option.none_or, if_pos same]
    · rw [if_neg same, Option.or_none, if_neg same]
  obtain ⟨noType, noEnumeration⟩ := hasType_eq_false_iff.mp free
  refine ⟨holds.distinct.append free, ?_, ?_⟩
  · intro name
    rw [append_type?, isFirst]
    by_cases same : definition.name = name
    · rw [if_pos same, if_pos same, ← same, noType, Option.none_or, Option.bind_some]
    · rw [if_neg same, if_neg same, Option.or_none, holds.types]
  · intro name
    rw [append_enumeration?, isFirst]
    by_cases same : definition.name = name
    · rw [if_pos same, if_pos same, ← same, noEnumeration, Option.none_or, Option.bind_some]
    · rw [if_neg same, if_neg same, Option.or_none, holds.enumerations]

/-- One change keeps it. -/
theorem change
    (holds : catalog.HoldsFirst changes)
    (change : Change)
    (countable : change = .reload → Stored.Countable catalog.toBytes) :
    (catalog.change change).2.HoldsFirst (changes ++ [change]) := by
  cases change with
  | register definition =>
      cases taken : catalog.hasType definition.name with
      | false =>
          rw [change_register_of_free taken]
          exact holds.append taken
      | true =>
          rw [change_register_of_taken taken]
          apply holds.of_same_first
          intro name
          rw [Change.firstNamed_append, Change.firstNamed_register]
          by_cases same : definition.name = name
          · rw [holds.hasType, same] at taken
            exact Option.or_eq_left_of_isSome taken
          · rw [if_neg same, Option.or_none]
  | setConversions conversions =>
      have kept : (catalog.withConversions conversions).HoldsFirst changes :=
        ⟨⟨holds.distinct.types, holds.distinct.enumerations⟩, holds.types, holds.enumerations⟩
      exact kept.of_same_first fun name => by
        rw [Change.firstNamed_append]
        exact Option.or_none
  | reload =>
      rw [change_reload holds.distinct (countable rfl)]
      exact holds.of_same_first fun name => by
        rw [Change.firstNamed_append]
        exact Option.or_none

private theorem reorder
    {other : Catalog}
    (holds : catalog.HoldsFirst changes)
    (same : other.Same catalog) : other.HoldsFirst changes := by
  have alike := same.alike holds.distinct
  exact ⟨holds.distinct.of_same same, fun name => (alike.type? name).trans (holds.types name),
    fun name => (alike.enumeration? name).trans (holds.enumerations name)⟩

end Catalog.HoldsFirst

/-- Every catalog that is reached holds the first definitions of the changes. -/
theorem Reached.holdsFirst
    {changes : List Change}
    {catalog : Catalog}
    (reached : Reached changes catalog) : catalog.HoldsFirst changes := by
  induction reached with
  | start => exact ⟨⟨List.nodup_nil, List.nodup_nil⟩, fun _ => rfl, fun _ => rfl⟩
  | change change _ countable holds => exact holds.change change countable
  | reorder _ same holds => exact holds.reorder same

/-! ## One namespace -/

/-- Each entry stands under its own name, no name has two entries in a table, and no name
has one in both. -/
structure Catalog.OneNamespace (catalog : Catalog) : Prop where
  distinct : catalog.Distinct
  typeNames : ∀ name type, (name, type) ∈ catalog.types → type.name = name
  enumerationNames : ∀ name type, (name, type) ∈ catalog.enumerations → type.name = name
  oneKind : ∀ name, ¬ ((catalog.type? name).isSome ∧ (catalog.enumeration? name).isSome)

namespace Catalog.HoldsFirst

variable {catalog : Catalog} {changes : List Change} {name : String}

/-- What is in the table of structured types was registered, under the name it stands at. -/
theorem registered_type
    {type : StructuredType}
    (holds : catalog.HoldsFirst changes)
    (entry : (name, type) ∈ catalog.types) :
    .register (.structured type) ∈ changes ∧ type.name = name := by
  have found : catalog.type? name = some type :=
    (Table.find?_eq_some_iff holds.distinct.types name type).mpr entry
  rw [holds.types] at found
  obtain ⟨definition, first, isType⟩ := Option.bind_eq_some_iff.mp found
  obtain rfl := Definition.eq_structured isType
  exact Change.of_firstNamed first

private theorem registered_enumeration
    {type : EnumerationType}
    (holds : catalog.HoldsFirst changes)
    (entry : (name, type) ∈ catalog.enumerations) :
    .register (.enumeration type) ∈ changes ∧ type.name = name := by
  have found : catalog.enumeration? name = some type :=
    (Table.find?_eq_some_iff holds.distinct.enumerations name type).mpr entry
  rw [holds.enumerations] at found
  obtain ⟨definition, first, isType⟩ := Option.bind_eq_some_iff.mp found
  obtain rfl := Definition.eq_enumeration isType
  exact Change.of_firstNamed first

private theorem oneNamespace (holds : catalog.HoldsFirst changes) : catalog.OneNamespace where
  distinct := holds.distinct
  typeNames _ _ entry := (holds.registered_type entry).2
  enumerationNames _ _ entry := (holds.registered_enumeration entry).2
  oneKind name := by
    rw [holds.types, holds.enumerations]
    rcases Change.firstNamed name changes with _ | (_ | _) <;>
      simp [Definition.structured?, Definition.enumeration?]

/-- The names that are taken are those that a definition was to be registered under. -/
theorem hasType_iff (holds : catalog.HoldsFirst changes) :
    catalog.hasType name = true ↔
      ∃ definition, .register definition ∈ changes ∧ definition.name = name := by
  rw [holds.hasType]
  constructor
  · intro isTaken
    obtain ⟨definition, first⟩ := Option.isSome_iff_exists.mp isTaken
    exact ⟨definition, Change.of_firstNamed first⟩
  · rintro ⟨definition, isChange, rfl⟩
    exact Change.exists_firstNamed isChange

/-- Further changes leave what stands under a taken name. -/
theorem keeps
    {more : List Change}
    {later : Catalog}
    (holds : catalog.HoldsFirst changes)
    (laterHolds : later.HoldsFirst (changes ++ more))
    (taken : catalog.hasType name = true) :
    later.type? name = catalog.type? name ∧ later.enumeration? name = catalog.enumeration? name := by
  rw [holds.hasType] at taken
  have sameFirst : Change.firstNamed name (changes ++ more) = Change.firstNamed name changes := by
    rw [Change.firstNamed_append]
    exact Option.or_eq_left_of_isSome taken
  rw [laterHolds.types, laterHolds.enumerations, sameFirst, holds.types, holds.enumerations]
  exact ⟨rfl, rfl⟩

end Catalog.HoldsFirst

/-- A catalog keeps one namespace, over every run of changes from the empty one, and is
changed as a whole or not at all. A definition is refused exactly if one of either kind
was to be registered under its name before, and is else added behind those that are there;
so a name goes on to stand for the first definition registered under it, also once the
catalog is loaded from its bytes. If all definitions were made, those of a catalog are
well-formed; and what is well-formed can be made. -/
theorem Catalog.registration_keeps_one_namespace :
    (∀ (changes : List Change) (catalog : Catalog),
      Reached changes catalog →
        catalog.OneNamespace
          ∧ (∀ name, catalog.hasType name = true ↔
            ∃ definition, .register definition ∈ changes ∧ definition.name = name)
          ∧ (∀ name,
            catalog.type? name = (Change.firstNamed name changes).bind Definition.structured?
              ∧ catalog.enumeration? name =
                (Change.firstNamed name changes).bind Definition.enumeration?)
          ∧ (∀ definition,
            (catalog.hasType definition.name = true →
              catalog.change (.register definition) =
                (.error (.schema (.nameTaken definition.name)), catalog))
            ∧ (catalog.hasType definition.name = false →
              catalog.change (.register definition) = (.ok (), catalog.append definition)))
          ∧ (∀ conversions,
            catalog.change (.setConversions conversions) = (.ok (), { catalog with conversions }))
          ∧ (Stored.Countable catalog.toBytes → catalog.change .reload = (.ok (), catalog))
          ∧ (∀ more later,
            Reached (changes ++ more) later →
              ∀ name, catalog.hasType name = true →
                later.type? name = catalog.type? name
                  ∧ later.enumeration? name = catalog.enumeration? name)
          ∧ ((∀ definition, .register definition ∈ changes → definition.Made) →
            (∀ name type, (name, type) ∈ catalog.types → type.WellFormed)
              ∧ ∀ name type, (name, type) ∈ catalog.enumerations → type.WellFormed))
      ∧ (∀ type : StructuredType, type.WellFormed →
        StructuredType.define type.name type.members type.key = .ok type
          ∧ ∀ member ∈ type.members,
            MemberDefinition.define member.name member.data member.nullable = .ok member)
      ∧ ∀ type : EnumerationType, type.WellFormed →
        EnumerationType.define type.name type.members type.isFlags = .ok type := by
  refine ⟨?_, ?_, ?_⟩
  · intro changes catalog reached
    have holds := reached.holdsFirst
    refine ⟨holds.oneNamespace, fun _ => holds.hasType_iff,
      fun name => ⟨holds.types name, holds.enumerations name⟩,
      fun _ => ⟨change_register_of_taken, change_register_of_free⟩, change_setConversions,
      change_reload holds.distinct, ?_, ?_⟩
    · intro more later laterReached name taken
      exact holds.keeps laterReached.holdsFirst taken
    · intro allMade
      constructor
      · intro name type entry
        exact StructuredType.made_iff_wellFormed.mp (allMade _ (holds.registered_type entry).1)
      · intro name type entry
        exact EnumerationType.made_iff_wellFormed.mp
          (allMade _ (holds.registered_enumeration entry).1)
  · intro type wellFormed
    refine ⟨StructuredType.define_eq_ok.mpr
      ⟨rfl, wellFormed.inhabited, wellFormed.distinct, wellFormed.key⟩, ?_⟩
    intro member isMember
    exact MemberDefinition.define_eq_ok.mpr ⟨wellFormed.named member isMember, rfl⟩
  · intro type wellFormed
    exact EnumerationType.define_eq_ok.mpr ⟨rfl, wellFormed.inhabited, wellFormed.distinct⟩

/-- Products, known by number, of which the price may be missing. -/
def productType : StructuredType where
  name := "Product"
  members := [⟨"number", .int64, false⟩, ⟨"price", .int32, true⟩]
  key := ["number"]

/-- Kinds of products, under the name that the products have. -/
def productKinds : EnumerationType where
  name := "Product"
  members := [("Book", 1), ("Lamp", 2)]
  isFlags := false

/-- The products are registered and their kinds are not, before the catalog is loaded from
its bytes and after. -/
theorem Catalog.registration_keeps_one_namespace_products :
    ∃ catalog,
      Reached [.register (.structured productType), .register (.enumeration productKinds),
          .setConversions .empty] catalog
        ∧ catalog.type? "Product" = some productType
        ∧ catalog.enumeration? "Product" = none
        ∧ Stored.Countable catalog.toBytes
        ∧ catalog.change .reload = (.ok (), catalog)
        ∧ catalog.change (.register (.enumeration productKinds)) =
          (.error (.schema (.nameTaken "Product")), catalog)
        ∧ productType.WellFormed
        ∧ StructuredType.define productType.name productType.members productType.key =
          .ok productType
        ∧ productKinds.WellFormed
        ∧ EnumerationType.define productKinds.name productKinds.members productKinds.isFlags =
          .ok productKinds := by
  obtain ⟨keeps, typeMade, enumerationMade⟩ := registration_keeps_one_namespace
  have typeAdded : Reached [.register (.structured productType)]
      ⟨[("Product", productType)], [], .standard⟩ :=
    .change (.register (.structured productType)) .start nofun
  have kindsRefused := Reached.change (.register (.enumeration productKinds)) typeAdded nofun
  have reached : Reached _ ⟨[("Product", productType)], [], .empty⟩ :=
    .change (.setConversions .empty) kindsRefused nofun
  obtain ⟨_, _, lookups, registers, _, reloads, _, _⟩ := keeps _ _ reached
  have countable : Stored.Countable
      (Catalog.toBytes ⟨[("Product", productType)], [], .empty⟩) := by
    rw [Stored.Countable]
    decide +kernel
  have typeWellFormed : productType.WellFormed :=
    ⟨by decide, by decide, by decide, by decide⟩
  have kindsWellFormed : productKinds.WellFormed := ⟨by decide, by decide⟩
  exact ⟨_, reached, (lookups "Product").1, (lookups "Product").2, countable, reloads countable,
    (registers (.enumeration productKinds)).1 rfl, typeWellFormed,
    (typeMade productType typeWellFormed).1, kindsWellFormed,
    enumerationMade productKinds kindsWellFormed⟩

end ClauseBinding
