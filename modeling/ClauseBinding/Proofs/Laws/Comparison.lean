import ClauseBinding.Proofs.Clause.Condition
import ClauseBinding.Proofs.Data.Order
import ClauseBinding.Proofs.Meaning.Operators
import ClauseBinding.Proofs.Soundness.Clause

/-!
Contract: comparisons, the other way round and negated.

Owns:
- the comparison that holds of two operands the other way round;
- tables of conversions in which no two types promote to each other;
- that a comparison and the one the other way round are bound alike and accept alike;
- that operands differ where they are not equal.

Does not own: which literals conform.

Operands take turns in many places. A text beside an enumeration is looked for on the right
first, the common type prefers the right operand, and the left one is evaluated first, so
that of two failures it is the left one that is seen. Only the last makes a difference: the
two ways round may fail differently.
-/

namespace ClauseBinding

open ClauseBinding.Outcome

/-! ## Values -/

namespace Comparison

/-- The comparison that holds of the operands the other way round. -/
def mirrored : Comparison → Comparison
  | .eq => .eq
  | .ne => .ne
  | .lt => .gt
  | .le => .ge
  | .gt => .lt
  | .ge => .le

variable (operator : Comparison)

@[simp] theorem mirrored_mirrored : operator.mirrored.mirrored = operator := by
  cases operator <;> rfl

@[simp] theorem needsOrder_mirrored : operator.mirrored.needsOrder = operator.needsOrder := by
  cases operator <;> rfl

private theorem holds_swap (ordering : Ordering) :
    operator.mirrored.holds ordering.swap = operator.holds ordering := by
  cases operator <;> cases ordering <;> rfl

private theorem mirrored_beq_ne : (operator.mirrored == .ne) = (operator == .ne) := by
  cases operator <;> rfl

/-- Unordered values are unequal both ways round, and nothing else holds of them. -/
theorem apply_mirrored (left right : Value) :
    operator.mirrored.apply right left = operator.apply left right := by
  unfold apply
  rw [Bool.or_comm, Value.compare?_swap left right, mirrored_beq_ne]
  cases left.compare? right with
  | none => rfl
  | some ordering => simp only [Option.map_some, holds_swap]

/-- Values differ where they are not equal, unordered ones included; beside an absent value
neither is known. -/
theorem complement_apply_eq (left right : Value) :
    (eq.apply left right).complement = .ok (ne.apply left right) := by
  unfold apply
  split
  · rfl
  · cases left.compare? right with
    | none => rfl
    | some ordering => cases ordering <;> rfl

end Comparison

/-! ## Types -/

namespace ConversionTable

variable {table : ConversionTable} {left right : DataType}

/-- No two types promote to each other. -/
def Antisymmetric (table : ConversionTable) : Prop :=
  ∀ left right, table.canPromote left right = true → table.canPromote right left = true →
    left = right

/-- Where both operands could promote to the other, the common type would depend on the
order in which they are given. -/
theorem Antisymmetric.commonType?_comm (antisymmetric : table.Antisymmetric) :
    table.commonType? left right = table.commonType? right left := by
  by_cases same : left = right
  · rw [same]
  have other : right ≠ left := Ne.symm same
  simp only [commonType?, if_neg same, if_neg other]
  by_cases leftPromotes : table.canPromote left right = true
  · have rightStays : ¬ table.canPromote right left = true := by
      intro rightPromotes
      exact same (antisymmetric left right leftPromotes rightPromotes)
    rw [if_pos leftPromotes, if_neg rightStays, if_pos leftPromotes]
  · rw [if_neg leftPromotes, if_neg leftPromotes]
    split
    · rfl
    · simp only [Bool.and_comm]

/-- It is enough to look at pairs of entries that lead there and back. -/
theorem antisymmetric_iff :
    table.Antisymmetric ↔ ∀ first ∈ table.implicit, ∀ second ∈ table.implicit,
      first.target = second.source → second.target = first.source →
        first.source = first.target := by
  simp only [Antisymmetric, canPromote, Bool.or_eq_true, beq_iff_eq, List.contains_iff_mem]
  constructor
  · intro antisymmetric first isEntry second isBack there back
    have isReverse : ⟨first.target, first.source⟩ ∈ table.implicit := by
      rw [there, ← back]
      exact isBack
    exact antisymmetric first.source first.target (.inr isEntry) (.inr isReverse)
  · intro oneWay left right leftPromotes rightPromotes
    rcases leftPromotes with same | leftEntry
    · exact same
    · rcases rightPromotes with same | rightEntry
      · exact same.symm
      · exact oneWay _ leftEntry _ rightEntry rfl rfl

instance : Decidable table.Antisymmetric :=
  decidable_of_iff _ antisymmetric_iff.symm

/-- Every widening leads further from the narrowest type. -/
theorem standard_antisymmetric : standard.Antisymmetric := by
  decide

end ConversionTable

/-! ## Texts beside enumerations -/

/-- A text constant, if it is one, has the type of texts. No text is looked for beside it. -/
def Expression.PlainText (expression : Expression) : Prop :=
  ∀ text, expression.textConstant? = some text → expression.data = .string

/-- Literals that conform to the type they declare are no texts of another type. -/
theorem Clause.Binds.plainText
    {catalog : Catalog}
    {scope : List Parameter}
    {clause : Clause}
    {expression : Expression}
    (binds : Binds catalog scope clause expression)
    (literals : clause.LiteralsConform catalog) : expression.PlainText := by
  intro text isText
  rw [binds.literals.2] at isText
  unfold textLiteral? at isText
  split at isText
  case h_1 text type =>
    cases binds
    exact Value.Conforms.data_eq literals rfl
  case h_2 => cases isText

namespace Expression

variable {catalog : Catalog} {left right resolvedLeft resolvedRight : Expression}
variable {operation : String}

/-- Which operator asks for it makes no difference to the constant that a text stands for. -/
theorem besideEnumeration?_of_ok
    {named : Option Expression}
    (found : besideEnumeration? catalog operation left right = .ok named)
    (other : String) : besideEnumeration? catalog other left right = .ok named := by
  simp only [besideEnumeration?, enumerationConstant?] at found ⊢
  split at found
  case h_2 unnamed => simpa [unnamed] using found
  case h_1 typeName isName =>
    split at found
    case h_1 noText => simpa [isName, noText] using found
    case h_2 text isText =>
      split at found
      case h_1 value known => simpa [isName, isText, known] using found
      case h_2 => cases found

theorem besideEnumeration?_of_string
    (isString : left.data = .string) :
    besideEnumeration? catalog operation left right = .ok none := by
  simp [besideEnumeration?, enumerationName?, isString]

private theorem resolveEnumerations_of_ok
    (resolved : resolveEnumerations catalog operation left right =
      .ok (resolvedLeft, resolvedRight))
    (other : String) :
    resolveEnumerations catalog other left right = .ok (resolvedLeft, resolvedRight) := by
  obtain ⟨rightNamed, rightFound, resolved⟩ := bind_eq_ok.mp resolved
  rw [resolveEnumerations, besideEnumeration?_of_ok rightFound other, ok_bind]
  cases rightNamed with
  | some named => exact resolved
  | none =>
      obtain ⟨leftNamed, leftFound, resolved⟩ := bind_eq_ok.mp resolved
      rw [besideEnumeration?_of_ok leftFound other]
      exact resolved

/-- The same operand is replaced whichever is looked at first, as a text that is replaced has
not the type of an enumeration itself. -/
theorem resolveEnumerations_swap
    (rightPlain : right.PlainText)
    (resolved : resolveEnumerations catalog operation left right =
      .ok (resolvedLeft, resolvedRight)) :
    resolveEnumerations catalog operation right left = .ok (resolvedRight, resolvedLeft) := by
  obtain ⟨rightNamed, rightFound, resolved⟩ := bind_eq_ok.mp resolved
  cases rightNamed with
  | some named =>
      obtain ⟨rfl, rfl⟩ := Prod.mk.inj (Except.ok.inj resolved)
      obtain ⟨_, text, _, _, isText, _⟩ := besideEnumeration?_some rightFound
      rw [resolveEnumerations, besideEnumeration?_of_string (rightPlain text isText), ok_bind,
        rightFound]
      rfl
  | none =>
      obtain ⟨leftNamed, leftFound, resolved⟩ := bind_eq_ok.mp resolved
      rw [resolveEnumerations, leftFound, ok_bind]
      cases leftNamed with
      | some named =>
          obtain ⟨rfl, rfl⟩ := Prod.mk.inj (Except.ok.inj resolved)
          rfl
      | none =>
          obtain ⟨rfl, rfl⟩ := Prod.mk.inj (Except.ok.inj resolved)
          rw [rightFound]
          rfl

/-! ## Bound comparisons -/

variable {operator : Comparison} {expression : Expression}

private theorem isComparable_mirrored : isComparable operator.mirrored = isComparable operator := by
  cases operator <;> rfl

/-- Operands are compared in the same type both ways round. -/
theorem comparisonType?_mirrored
    {conversions : ConversionTable}
    (antisymmetric : conversions.Antisymmetric)
    (leftData rightData : DataType) :
    comparisonType? conversions operator.mirrored rightData leftData =
      comparisonType? conversions operator leftData rightData := by
  have common : conversions.commonType? rightData leftData =
      conversions.commonType? leftData rightData := antisymmetric.commonType?_comm
  simp only [comparisonType?, isComparable_mirrored, common]
  grind

theorem bindOrdinaryComparison_of_resolved
    {target : DataType}
    (resolved : resolveEnumerations catalog operation left right =
      .ok (resolvedLeft, resolvedRight))
    (chosen : comparisonType? catalog.conversions operator resolvedLeft.data resolvedRight.data =
      some target) :
    bindOrdinaryComparison catalog operator left right =
      .ok (compare operator (resolvedLeft.promote target) (resolvedRight.promote target)) := by
  rw [bindOrdinaryComparison, resolveEnumerations_of_ok resolved operator.keyword, ok_bind]
  simp only [chosen]
  rfl

/-- What a comparison is bound to, and what it is bound to the other way round: the same
test for absence, or the operands compared the other way round. -/
inductive Mirrors (operator : Comparison) : Expression → Expression → Prop where
  | same (expression : Expression) : Mirrors operator expression expression
  | compare (left right : Expression) :
      Mirrors operator (compare operator left right) (compare operator.mirrored right left)

namespace Mirrors

variable {mirror : Expression}

theorem type_guardNulls (mirrors : Mirrors operator expression mirror) :
    mirror.guardNulls.type = expression.guardNulls.type := by
  cases mirrors with
  | same => rfl
  | compare left right =>
      show (⟨.bool, right.isNullable || left.isNullable⟩ : ValueType) =
        ⟨.bool, left.isNullable || right.isNullable⟩
      rw [Bool.or_comm]

/-- The operands are evaluated in another order, which does not matter to values. -/
theorem refines
    (mirrors : Mirrors operator expression mirror)
    (bindings : Bindings) :
    Refines (expression.guardNulls.evaluate bindings) (mirror.guardNulls.evaluate bindings) := by
  cases mirrors with
  | same => exact .refl _
  | compare left right =>
      intro result computed
      obtain ⟨leftValue, leftIs, computed⟩ := bind_eq_ok.mp computed
      obtain ⟨rightValue, rightIs, computed⟩ := bind_eq_ok.mp computed
      obtain rfl := Except.ok.inj computed
      simp only [Expression.compare, guardNulls, evaluate, leftIs, rightIs, ok_bind, pure_eq_ok,
        operator.apply_mirrored]

end Mirrors

/-- Where a comparison is bound, so is the one the other way round. -/
theorem bindComparison_mirrored
    (antisymmetric : catalog.conversions.Antisymmetric)
    (rightPlain : right.PlainText)
    (bound : bindComparison catalog operator left right = .ok expression) :
    ∃ mirror, bindComparison catalog operator.mirrored right left = .ok mirror
      ∧ Mirrors operator expression mirror := by
  have ordinary : ∀ {expression : Expression},
      bindOrdinaryComparison catalog operator left right = .ok expression →
        ∃ mirror, bindOrdinaryComparison catalog operator.mirrored right left = .ok mirror
          ∧ Mirrors operator expression mirror := by
    intro expression bound
    obtain ⟨resolvedLeft, resolvedRight, target, resolved, chosen, rfl⟩ :=
      bindOrdinaryComparison_eq_ok bound
    rw [← comparisonType?_mirrored antisymmetric] at chosen
    have swapped := resolveEnumerations_swap rightPlain resolved
    exact ⟨_, bindOrdinaryComparison_of_resolved swapped chosen, .compare _ _⟩
  unfold bindComparison at bound ⊢
  rw [Comparison.needsOrder_mirrored, Comparison.mirrored_beq_ne]
  split at bound
  case isTrue order =>
    rw [if_pos order]
    exact ordinary bound
  case isFalse equality =>
    rw [if_neg equality]
    cases leftAbsent : left.isNullConstant <;> cases rightAbsent : right.isNullConstant <;>
      simp only [leftAbsent, rightAbsent] at bound ⊢
    case false.false => exact ordinary bound
    all_goals exact ⟨expression, bound, .same expression⟩

/-- Where operands are tested for difference they can be tested for equality, and the
negation of the one test is the other. -/
theorem bindComparison_ne
    (bound : bindComparison catalog .ne left right = .ok expression) :
    ∃ equal, bindComparison catalog .eq left right = .ok equal
      ∧ equal.data = .bool
      ∧ ∀ bindings,
        (negation equal).guardNulls.evaluate bindings = expression.guardNulls.evaluate bindings := by
  unfold bindComparison at bound ⊢
  simp only [Comparison.needsOrder, Bool.false_eq_true, if_false] at bound ⊢
  cases leftAbsent : left.isNullConstant <;> cases rightAbsent : right.isNullConstant <;>
    simp only [leftAbsent, rightAbsent] at bound ⊢
  case true.true =>
    obtain rfl := Except.ok.inj bound
    exact ⟨_, rfl, rfl, fun _ => rfl⟩
  case true.false | false.true =>
    obtain rfl := Except.ok.inj bound
    refine ⟨_, rfl, rfl, fun bindings => ?_⟩
    simp only [absence, negation, guardNulls, evaluate, bind_assoc]
    apply bind_congr_of_ok
    intro value _
    cases value.isNull <;> rfl
  case false.false =>
    obtain ⟨resolvedLeft, resolvedRight, target, resolved, chosen, rfl⟩ :=
      bindOrdinaryComparison_eq_ok bound
    -- Equality and difference ask for the same of the type.
    have chosenAlike : comparisonType? catalog.conversions .eq resolvedLeft.data
        resolvedRight.data = some target := chosen
    refine ⟨_, bindOrdinaryComparison_of_resolved resolved chosenAlike, rfl, fun bindings => ?_⟩
    simp only [compare, negation, guardNulls, evaluate, bind_assoc]
    apply bind_congr_of_ok
    intro leftValue _
    apply bind_congr_of_ok
    intro rightValue _
    exact Comparison.complement_apply_eq leftValue rightValue

end Expression

/-! ## Filters -/

namespace FilterClause

def comparing
    (operator : Comparison)
    (left right : Clause)
    (rangeVariable : String) : FilterClause :=
  ⟨.binary (.comparison operator) left right, rangeVariable⟩

def comparingNot
    (operator : Comparison)
    (left right : Clause)
    (rangeVariable : String) : FilterClause :=
  ⟨.unary .not (.binary (.comparison operator) left right), rangeVariable⟩

variable {operator : Comparison} {left right : Clause}

/-- A derivation of a comparison and one of the comparison the other way round go together. -/
theorem exists_binds_mirrored
    {catalog : Catalog}
    {scope : List Parameter}
    {expression : Expression}
    (antisymmetric : catalog.conversions.Antisymmetric)
    (rightLiterals : right.LiteralsConform catalog)
    (binds : Clause.Binds catalog scope (.binary (.comparison operator) left right) expression) :
    ∃ mirror,
      Clause.Binds catalog scope (.binary (.comparison operator.mirrored) right left) mirror
        ∧ Expression.Mirrors operator expression mirror := by
  cases binds with
  | binary leftBinds rightBinds bound =>
      have rightPlain := rightBinds.plainText rightLiterals
      obtain ⟨mirror, mirrorBound, mirrors⟩ :=
        Expression.bindComparison_mirrored antisymmetric rightPlain bound
      exact ⟨mirror, .binary rightBinds leftBinds mirrorBound, mirrors⟩

variable {rangeVariable : String} {context : Context}

theorem BindsIn.mirrored
    (antisymmetric : context.catalog.conversions.Antisymmetric)
    (rightLiterals : right.LiteralsConform context.catalog)
    (bound : BindsIn (comparing operator left right rangeVariable) context) :
    BindsIn (comparing operator.mirrored right left rangeVariable) context := by
  apply bound.alike
  · simp only [Clause.need]
    omega
  · intro expression binds
    obtain ⟨mirror, mirrorBinds, mirrors⟩ :=
      exists_binds_mirrored antisymmetric rightLiterals binds
    exact ⟨mirror, mirrorBinds, mirrors.type_guardNulls⟩

/-- What a comparison answers, the one the other way round answers alike. -/
theorem refines_mirrored
    {predicate mirror : Predicate}
    (antisymmetric : context.catalog.conversions.Antisymmetric)
    (rightLiterals : right.LiteralsConform context.catalog)
    (bound : (comparing operator left right rangeVariable).bindIn context = .ok predicate)
    (mirrorBound :
      (comparing operator.mirrored right left rangeVariable).bindIn context = .ok mirror)
    (value : Value) : Refines (predicate.accepts value) (mirror.accepts value) := by
  obtain ⟨expression, binds, _⟩ := bindOver_eq_ok bound
  obtain ⟨mirrorExpression, mirrorBinds, mirrors⟩ :=
    exists_binds_mirrored antisymmetric rightLiterals binds
  rw [(accepts_of_binds bound binds).2 value, (accepts_of_binds mirrorBound mirrorBinds).2 value]
  exact (mirrors.refines _).bind fun _ _ => .refl _

/-- The negation of equality does what difference does. -/
theorem accepts_ne_eq_accepts_not_eq
    {different unequal : Predicate}
    (differentBound : (comparing .ne left right rangeVariable).bindIn context = .ok different)
    (unequalBound : (comparingNot .eq left right rangeVariable).bindIn context = .ok unequal)
    (value : Value) : different.accepts value = unequal.accepts value := by
  obtain ⟨expression, binds, _⟩ := bindOver_eq_ok differentBound
  cases id binds with
  | binary leftBinds rightBinds bound =>
      obtain ⟨equal, equalBound, isTruth, negated⟩ := Expression.bindComparison_ne bound
      have equalBinds : Clause.Binds _ _ (.binary (.comparison .eq) left right) equal :=
        .binary leftBinds rightBinds equalBound
      have unequalBinds := equalBinds.unary (Expression.bindUnary_not_of_truth isTruth)
      rw [(accepts_of_binds differentBound binds).2 value,
        (accepts_of_binds unequalBound unequalBinds).2 value, negated]
      rfl

/-- Comparisons are consistent with each other. Under a table in which no two types promote
to each other, a comparison and the one of the operands the other way round are bound in the
same contexts and have the same answers, where they have any; and the negation of equality
does what difference does, failures included. -/
theorem comparisons_consistent
    (antisymmetric : context.catalog.conversions.Antisymmetric)
    (leftLiterals : left.LiteralsConform context.catalog)
    (rightLiterals : right.LiteralsConform context.catalog) :
    (∀ operator : Comparison,
        (BindsIn (comparing operator left right rangeVariable) context ↔
          BindsIn (comparing operator.mirrored right left rangeVariable) context)
        ∧ ∀ predicate mirror,
          (comparing operator left right rangeVariable).bindIn context = .ok predicate →
          (comparing operator.mirrored right left rangeVariable).bindIn context = .ok mirror →
            ∀ value accepted,
              predicate.accepts value = .ok accepted ↔ mirror.accepts value = .ok accepted)
      ∧ ∀ different unequal,
        (comparing .ne left right rangeVariable).bindIn context = .ok different →
        (comparingNot .eq left right rangeVariable).bindIn context = .ok unequal →
          ∀ value, different.accepts value = unequal.accepts value := by
  refine ⟨fun operator => ⟨⟨?forth, ?back⟩, ?answers⟩, ?negated⟩
  case forth => exact fun bound => bound.mirrored antisymmetric rightLiterals
  case back =>
    intro mirrorBound
    have back := mirrorBound.mirrored antisymmetric leftLiterals
    rwa [operator.mirrored_mirrored] at back
  case answers =>
    intro predicate mirror bound mirrorBound value accepted
    have back := bound
    rw [← operator.mirrored_mirrored] at back
    exact ⟨refines_mirrored antisymmetric rightLiterals bound mirrorBound value accepted,
      refines_mirrored antisymmetric leftLiterals mirrorBound back value accepted⟩
  case negated =>
    intro different unequal differentBound unequalBound value
    exact accepts_ne_eq_accepts_not_eq differentBound unequalBound value

/-- Paints whose colour may be missing, the colours in an order of their own. -/
def paintCatalog : Catalog where
  types := [("Paint", ⟨"Paint", [⟨"colour", .enumeration "Colour", true⟩], []⟩)]
  enumerations := [("Colour", ⟨"Colour", [("red", 0), ("blue", 1)], false⟩)]
  conversions := .standard

def paints : Context := .start paintCatalog (.structured "Paint") {}

def red : Clause := .literal (.string "red") (.required .string)

def colour : Clause := .member (.reference "item") "colour"

/-- The text stands on the left and on the right of the colour, which is blue here. -/
theorem comparisons_consistent_paints :
    paints.catalog.conversions.Antisymmetric
      ∧ red.LiteralsConform paints.catalog
      ∧ colour.LiteralsConform paints.catalog
      ∧ ∃ predicate mirror different unequal,
        (comparing .lt red colour "item").bindIn paints = .ok predicate
          ∧ (comparing .gt colour red "item").bindIn paints = .ok mirror
          ∧ (comparing .ne red colour "item").bindIn paints = .ok different
          ∧ (comparingNot .eq red colour "item").bindIn paints = .ok unequal
          ∧ mirror.accepts (.record [("colour", .enumeration "Colour" 1)]) = .ok true
          ∧ different.accepts (.record []) = unequal.accepts (.record []) := by
  have antisymmetric : paints.catalog.conversions.Antisymmetric :=
    ConversionTable.standard_antisymmetric
  have redConforms : red.LiteralsConform paints.catalog := .single rfl
  have colourConforms : colour.LiteralsConform paints.catalog := trivial
  refine ⟨antisymmetric, redConforms, colourConforms, _, _, _, _, rfl, rfl, rfl, rfl, ?_⟩
  obtain ⟨pairs, negated⟩ :=
    @comparisons_consistent red colour "item" paints antisymmetric redConforms colourConforms
  obtain ⟨-, answers⟩ := pairs .lt
  exact ⟨(answers _ _ rfl rfl _ true).mp rfl, negated _ _ rfl rfl _⟩

end FilterClause

end ClauseBinding
