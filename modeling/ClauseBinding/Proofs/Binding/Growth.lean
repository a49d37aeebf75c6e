import ClauseBinding.Proofs.Order.Limit
import ClauseBinding.Proofs.Schema.Registry

/-!
Contract: a catalog that grows leaves what is bound over it.

Owns:
- catalogs that grow by definitions that are registered in them;
- catalogs that extend others: what stands under a taken name stays, as do the conversions;
- that what a rule, a clause, a filter or an order is bound to over a catalog it is bound to
  over every one that extends it.

Does not own: what is bound over the larger catalog alone.

A rule that looks a type up fails where it finds none, so no success rests on a name being
free. The completion of an order is the exception: a structured type that is not registered
counts as one without a key, and an order that is to be stable gains selectors once the type
is registered with one. Hence the condition on the element type.
-/

namespace ClauseBinding

open ClauseBinding.Outcome

/-! ## Catalogs -/

/-- A catalog and what it becomes by definitions that are registered in it, one after the
other. -/
inductive Catalog.GrowsInto (catalog : Catalog) : Catalog → Prop where
  | unchanged : GrowsInto catalog catalog
  | register {grown later : Catalog} (definition : Definition)
      (growth : GrowsInto catalog grown)
      (registered : grown.change (.register definition) = (.ok (), later)) :
      GrowsInto catalog later

/-- A catalog beside a smaller one: what stands under the names that are taken there stands
there still, and values convert as they did. -/
structure Catalog.Extends (larger smaller : Catalog) : Prop where
  type? : ∀ name, smaller.hasType name = true → larger.type? name = smaller.type? name
  enumeration? : ∀ name,
    smaller.hasType name = true → larger.enumeration? name = smaller.enumeration? name
  conversions : larger.conversions = smaller.conversions

namespace Catalog

variable {smaller larger largest : Catalog} {name : String}

private theorem hasType_of_type?
    {type : StructuredType}
    (found : smaller.type? name = some type) : smaller.hasType name = true := by
  rw [type?] at found
  simp [hasType, Table.contains, found]

private theorem hasType_of_enumeration?
    {type : EnumerationType}
    (found : smaller.enumeration? name = some type) : smaller.hasType name = true := by
  rw [enumeration?] at found
  simp [hasType, Table.contains, found]

namespace Extends

theorem refl (catalog : Catalog) : catalog.Extends catalog :=
  ⟨fun _ _ => rfl, fun _ _ => rfl, rfl⟩

/-- A name that is taken stays taken. -/
theorem hasType
    (extension : larger.Extends smaller)
    (taken : smaller.hasType name = true) : larger.hasType name = true := by
  have types := extension.type? name taken
  have enumerations := extension.enumeration? name taken
  rw [Catalog.type?, Catalog.type?] at types
  rw [Catalog.enumeration?, Catalog.enumeration?] at enumerations
  rw [Catalog.hasType, Table.contains, Table.contains] at taken ⊢
  rwa [types, enumerations]

theorem trans
    (second : largest.Extends larger)
    (first : larger.Extends smaller) : largest.Extends smaller where
  type? name taken := (second.type? name (first.hasType taken)).trans (first.type? name taken)
  enumeration? name taken :=
    (second.enumeration? name (first.hasType taken)).trans (first.enumeration? name taken)
  conversions := second.conversions.trans first.conversions

private theorem type?_eq_some
    {type : StructuredType}
    (extension : larger.Extends smaller)
    (found : smaller.type? name = some type) : larger.type? name = some type :=
  (extension.type? name (hasType_of_type? found)).trans found

private theorem enumeration?_eq_some
    {type : EnumerationType}
    (extension : larger.Extends smaller)
    (found : smaller.enumeration? name = some type) : larger.enumeration? name = some type :=
  (extension.enumeration? name (hasType_of_enumeration? found)).trans found

private theorem member?_eq_some
    {member : String}
    {definition : MemberDefinition}
    (extension : larger.Extends smaller)
    (found : smaller.member? name member = some definition) :
    larger.member? name member = some definition := by
  obtain ⟨type, isType, isMember⟩ := Option.bind_eq_some_iff.mp found
  exact Option.bind_eq_some_iff.mpr ⟨type, extension.type?_eq_some isType, isMember⟩

/-- The number that a registered enumeration gives to a text. -/
theorem valueOf?_eq_some
    {text : String}
    {value : Int64}
    (extension : larger.Extends smaller)
    (known : (smaller.enumeration? name).bind (·.valueOf? text) = some value) :
    (larger.enumeration? name).bind (·.valueOf? text) = some value := by
  obtain ⟨type, isType, isValue⟩ := Option.bind_eq_some_iff.mp known
  exact Option.bind_eq_some_iff.mpr ⟨type, extension.enumeration?_eq_some isType, isValue⟩

theorem keyMembers
    (extension : larger.Extends smaller)
    (taken : smaller.hasType name = true) : larger.keyMembers name = smaller.keyMembers name := by
  rw [Catalog.keyMembers, Catalog.keyMembers, extension.type? name taken]

end Extends

/-- One more definition, under a name that was free, leaves what stands under the others. -/
theorem extends_append
    {definition : Definition}
    (free : smaller.hasType definition.name = false) :
    (smaller.append definition).Extends smaller := by
  have isOther : ∀ name, smaller.hasType name = true → definition.name ≠ name := by
    rintro name taken rfl
    rw [free] at taken
    cases taken
  constructor
  case type? =>
    intro name taken
    rw [append_type?, if_neg (isOther name taken), Option.or_none]
  case enumeration? =>
    intro name taken
    rw [append_enumeration?, if_neg (isOther name taken), Option.or_none]
  case conversions => cases definition <;> rfl

/-- Registering a definition extends the catalog. -/
theorem extends_of_register
    {definition : Definition}
    (registered : smaller.change (.register definition) = (.ok (), larger)) :
    larger.Extends smaller := by
  cases taken : smaller.hasType definition.name with
  | true =>
      rw [change_register_of_taken taken] at registered
      cases registered
  | false =>
      rw [change_register_of_free taken] at registered
      obtain ⟨-, rfl⟩ := Prod.mk.inj registered
      exact extends_append taken

private theorem GrowsInto.extension (growth : smaller.GrowsInto larger) :
    larger.Extends smaller := by
  induction growth with
  | unchanged => exact .refl smaller
  | register _ _ registered extension => exact (extends_of_register registered).trans extension

end Catalog

/-! ## Rules -/

namespace Expression

variable {smaller larger : Catalog}

private theorem enumerationConstant?_refines
    (extension : larger.Extends smaller)
    (failure : Failure)
    (typeName : String)
    (literal : Expression) :
    Refines (enumerationConstant? smaller failure typeName literal)
      (enumerationConstant? larger failure typeName literal) := by
  unfold enumerationConstant?
  cases literal.textConstant? with
  | none => exact .refl _
  | some text =>
      dsimp only
      cases known : (smaller.enumeration? typeName).bind (·.valueOf? text) with
      | none => exact .of_error failure _
      | some value =>
          rw [extension.valueOf?_eq_some known]
          exact .refl _

private theorem resolveEnumerations_refines
    (extension : larger.Extends smaller)
    (operation : String)
    (left right : Expression) :
    Refines (resolveEnumerations smaller operation left right)
      (resolveEnumerations larger operation left right) := by
  have beside (operand literal : Expression) :
      Refines (besideEnumeration? smaller operation operand literal)
        (besideEnumeration? larger operation operand literal) := by
    unfold besideEnumeration?
    cases operand.enumerationName? with
    | none => exact .refl _
    | some typeName => exact enumerationConstant?_refines extension _ typeName literal
  apply (beside left right).bind
  intro rightNamed _
  cases rightNamed with
  | some named => exact .refl _
  | none => exact (beside right left).bind fun _ _ => .refl _

private theorem bindComparison_refines
    (extension : larger.Extends smaller)
    (operator : Comparison)
    (left right : Expression) :
    Refines (bindComparison smaller operator left right)
      (bindComparison larger operator left right) := by
  have ordinary : Refines (bindOrdinaryComparison smaller operator left right)
      (bindOrdinaryComparison larger operator left right) := by
    apply (resolveEnumerations_refines extension operator.keyword left right).bind
    intro resolved _
    rw [extension.conversions]
    exact .refl _
  unfold bindComparison
  split
  case isTrue => exact ordinary
  case isFalse =>
    cases left.isNullConstant <;> cases right.isNullConstant
    case false.false => exact ordinary
    all_goals exact .refl _

private theorem bindHas_refines
    (extension : larger.Extends smaller)
    (value flag : Expression) :
    Refines (bindHas smaller value flag) (bindHas larger value flag) := by
  unfold bindHas
  dsimp only
  cases value.enumerationName? with
  | none => exact .refl _
  | some typeName =>
      dsimp only
      by_cases flags : hasFlags smaller typeName = true
      · have flagsToo : hasFlags larger typeName = true := by
          obtain ⟨enumeration, registered, isFlags⟩ := exists_flags flags
          rw [hasFlags, extension.enumeration?_eq_some registered, Option.any_some, isFlags]
        rw [if_pos flags, if_pos flagsToo]
        exact (enumerationConstant?_refines extension _ typeName flag).bind fun _ _ => .refl _
      · rw [if_neg flags]
        exact .of_error _ _

private theorem bindBinary_refines
    (extension : larger.Extends smaller)
    (operator : BinaryOperator)
    (left right : Expression) :
    Refines (bindBinary smaller operator left right) (bindBinary larger operator left right) := by
  cases operator with
  | comparison operator => exact bindComparison_refines extension operator left right
  | connective operator => exact .refl _
  | arithmetic operator =>
      rw [bindBinary, bindBinary, bindArithmetic, bindArithmetic, extension.conversions]
      exact .refl _
  | has => exact bindHas_refines extension left right

private theorem bindMember_refines
    (extension : larger.Extends smaller)
    (source : Expression)
    (member : String) :
    Refines (bindMember smaller source member) (bindMember larger source member) := by
  intro expression bound
  obtain ⟨typeName, definition, structured, found, rfl⟩ := bindMember_eq_ok bound
  simp only [bindMember, structured, extension.member?_eq_some found]

private theorem bindCall_of_extends (extension : larger.Extends smaller) :
    bindCall larger = bindCall smaller := by
  funext name arguments
  rw [bindCall, bindCall, extension.conversions]

private theorem bindCast_of_extends (extension : larger.Extends smaller) :
    bindCast larger = bindCast smaller := by
  funext target operand
  unfold bindCast canCast
  rw [extension.conversions]

end Expression

/-! ## Clauses -/

/-- Derivations over a catalog are derivations over every one that extends it. -/
theorem Clause.Binds.of_extends
    {smaller larger : Catalog}
    {scope : List Parameter}
    {clause : Clause}
    {expression : Expression}
    (extension : larger.Extends smaller)
    (binds : Binds smaller scope clause expression) : Binds larger scope clause expression := by
  induction binds with
  | literal value type => exact .literal value type
  | reference found => exact .reference found
  | member _ bound sourceBinds =>
      exact .member sourceBinds (Expression.bindMember_refines extension _ _ _ bound)
  | binary _ _ bound leftBinds rightBinds =>
      exact .binary leftBinds rightBinds (Expression.bindBinary_refines extension _ _ _ _ bound)
  | unary _ bound operandBinds => exact .unary operandBinds bound
  | call paired _ bound argumentsBind =>
      rw [← Expression.bindCall_of_extends extension] at bound
      exact .call paired argumentsBind bound
  | cast _ bound operandBinds =>
      rw [← Expression.bindCast_of_extends extension] at bound
      exact .cast operandBinds bound
  | quantified _ collected _ bound sourceBinds bodyBinds =>
      exact .quantified sourceBinds collected bodyBinds bound
  | count _ collected sourceBinds => exact .count sourceBinds collected
  | countWhere _ collected _ isTruth sourceBinds conditionBinds =>
      exact .countWhere sourceBinds collected conditionBinds isTruth

/-! ## Filters and orders -/

def Context.over
    (context : Context)
    (catalog : Catalog) : Context :=
  { context with catalog }

section Contexts

variable {context : Context} {larger : Catalog} (extension : larger.Extends context.catalog)
include extension

private theorem FilterClause.bindOver_refines
    (filter : FilterClause)
    (type : ValueType) :
    Refines (filter.bindOver type context) (filter.bindOver type (context.over larger)) := by
  intro predicate bound
  obtain ⟨⟨condition, binds, made⟩, fits⟩ := FilterClause.bindOver_eq_ok_iff.mp bound
  exact FilterClause.bindOver_eq_ok_iff.mpr ⟨⟨condition, binds.of_extends extension, made⟩, fits⟩

private theorem Selector.bind_refines
    (key : Clause)
    (direction : Direction)
    (rangeVariable : String) :
    Refines (Selector.bind key direction rangeVariable context)
      (Selector.bind key direction rangeVariable (context.over larger)) := by
  intro selector bound
  obtain ⟨⟨body, binds, made⟩, fits⟩ := Selector.bind_eq_ok_iff.mp bound
  exact Selector.bind_eq_ok_iff.mpr ⟨⟨body, binds.of_extends extension, made⟩, fits⟩

namespace OrderClause

private theorem bindTerms_refines
    (rangeVariable : String)
    (terms : List OrderTerm) :
    Refines (bindTerms rangeVariable context terms)
      (bindTerms rangeVariable (context.over larger) terms) := by
  induction terms with
  | nil => exact .refl _
  | cons term rest inductionHypothesis =>
      apply (Selector.bind_refines extension term.key term.direction rangeVariable).bind
      intro selector _
      exact inductionHypothesis.bind fun _ _ => .refl _

private theorem appendKey_refines
    (rangeVariable : String)
    (selectors : List Selector)
    (key : List String) :
    Refines (appendKey rangeVariable context selectors key)
      (appendKey rangeVariable (context.over larger) selectors key) := by
  induction key generalizing selectors with
  | nil => exact .refl _
  | cons member rest inductionHypothesis =>
      unfold appendKey
      split
      case isTrue => exact inductionHypothesis selectors
      case isFalse =>
        apply (Selector.bind_refines extension _ _ rangeVariable).bind
        intro selector _
        exact inductionHypothesis (selectors ++ [selector])

/-- The members that an order has to read are the same, unless a structured type becomes
known by which orders are completed. -/
theorem keyMembers_of_extends
    (settled :
      (∀ typeName, context.elementType = .structured typeName →
          context.catalog.hasType typeName = true)
        ∨ context.configuration.stableOrder = false) :
    keyMembers (context.over larger) = keyMembers context := by
  have sameElement : (context.over larger).elementType = context.elementType := rfl
  have sameCompletion : (context.over larger).configuration = context.configuration := rfl
  rw [keyMembers, keyMembers, sameCompletion]
  rcases settled with registered | unstable
  · have sameKey : elementKey (context.over larger) = elementKey context := by
      rw [elementKey, elementKey, sameElement]
      split
      case h_1 typeName structured => exact extension.keyMembers (registered typeName structured)
      case h_2 => rfl
    rw [sameKey]
  · rw [unstable]
    rfl

private theorem bindIn_refines
    (order : OrderClause)
    (settled :
      (∀ typeName, context.elementType = .structured typeName →
          context.catalog.hasType typeName = true)
        ∨ context.configuration.stableOrder = false) :
    Refines (order.bindIn context) (order.bindIn (context.over larger)) := by
  rw [bindIn_eq_appendKey, bindIn_eq_appendKey, keyMembers_of_extends extension settled]
  apply (bindTerms_refines extension order.rangeVariable order.terms).bind
  intro selectors _
  exact appendKey_refines extension order.rangeVariable selectors _

end OrderClause

end Contexts

/-- What is bound over a catalog is bound to the same over all that it grows into, in every
context: filters, filters inside other clauses, and orders unless the element type is a
structured one that is not registered and orders are completed by its key. -/
theorem Catalog.growth_keeps_bindings
    {context : Context}
    {grown : Catalog}
    (growth : context.catalog.GrowsInto grown) :
    (∀ filter predicate,
        FilterClause.bind? (some filter) (some context) = .ok predicate →
          FilterClause.bind? (some filter) (some (context.over grown)) = .ok predicate)
      ∧ (∀ (filter : FilterClause) type predicate,
        filter.bindNested type context = .ok predicate →
          filter.bindNested type (context.over grown) = .ok predicate)
      ∧ ∀ order selectors,
        ((∀ typeName, context.elementType = .structured typeName →
            context.catalog.hasType typeName = true)
          ∨ context.configuration.stableOrder = false) →
        OrderClause.bind? (some order) (some context) = .ok selectors →
          OrderClause.bind? (some order) (some (context.over grown)) = .ok selectors := by
  have extension := growth.extension
  refine ⟨?filters, ?nested, ?orders⟩
  case filters =>
    intro filter predicate bound
    exact FilterClause.bindOver_refines extension filter _ predicate bound
  case nested =>
    intro filter type predicate bound
    obtain ⟨isolated, isolates, bound⟩ := bind_eq_ok.mp bound
    obtain rfl := Context.eq_of_isolate isolates
    have isolatesToo : (context.over grown).isolate =
        .ok { (context.over grown).deeper with scope := [] } := by
      obtain ⟨room, -⟩ := Context.fits_of_descend_bind isolates
      have noneBelow : (context.over grown).Fits (1 + 0) := room
      exact noneBelow.isolate
    rw [FilterClause.bindNested, isolatesToo, ok_bind]
    exact @FilterClause.bindOver_refines { context.deeper with scope := [] } _ extension
      filter type predicate bound
  case orders =>
    intro order selectors settled bound
    exact OrderClause.bindIn_refines extension order settled selectors bound

/-- Tiles, known by number, of which the colour may be missing. -/
def tileType : StructuredType where
  name := "Tile"
  members := [⟨"number", .int64, false⟩, ⟨"colour", .enumeration "Colour", true⟩]
  key := ["number"]

/-- Where filters and orders on tiles are bound, the orders completed by the number. -/
def tiles : Context where
  catalog := ⟨[("Tile", tileType)], [("Colour", ⟨"Colour", [("red", 0), ("blue", 1)], false⟩)],
    .standard⟩
  elementType := .structured "Tile"
  configuration := { stableOrder := true }
  scope := []
  depth := 0
  filterSeen := false

def tileShapes : EnumerationType := ⟨"Shape", [("square", 4), ("triangle", 3)], false⟩

/-- The blue tiles, by colour: neither changes once there are shapes. -/
theorem Catalog.growth_keeps_bindings_tiles :
    ∃ grown predicate selectors,
      tiles.catalog.change (.register (.enumeration tileShapes)) = (.ok (), grown)
        ∧ FilterClause.bind?
            (some ⟨.binary (.comparison .eq) (.member (.reference "tile") "colour")
              (.ofValue (.string "blue")), "tile"⟩)
            (some (tiles.over grown)) = .ok predicate
        ∧ OrderClause.bind?
            (some ⟨[⟨.member (.reference "tile") "colour", .descending⟩], "tile"⟩)
            (some (tiles.over grown)) = .ok selectors
        ∧ selectors.length = 2 := by
  have registered : tiles.catalog.change (.register (.enumeration tileShapes)) = (.ok (), _) := rfl
  obtain ⟨filters, -, orders⟩ :=
    @growth_keeps_bindings tiles _ (.register _ .unchanged registered)
  have settled : ∀ typeName, tiles.elementType = .structured typeName →
      tiles.catalog.hasType typeName = true := by
    intro typeName structured
    obtain rfl := DataType.structured.inj structured
    rfl
  exact ⟨_, _, _, registered, filters _ _ rfl, orders _ _ (.inl settled) rfl, rfl⟩

/-- The condition on orders is needed: one without terms gains a selector once tiles are
registered. -/
example :
    let unknown := tiles.over .empty
    ((OrderClause.bind? (some ⟨[], "tile"⟩) (some unknown)).toOption.map List.length,
      (OrderClause.bind? (some ⟨[], "tile"⟩) (some tiles)).toOption.map List.length) =
        (some 0, some 1) :=
  rfl

end ClauseBinding
