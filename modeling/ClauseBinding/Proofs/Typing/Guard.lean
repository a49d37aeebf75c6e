import ClauseBinding.Proofs.Clause.Condition
import ClauseBinding.Proofs.Scope.Filter

/-!
Contract: expressions every node of which is typed by its operands.

Owns:
- what each kind of node asks of the data types of its operands, and gives as its own;
- when the nullability recorded at a node is that of its operands, and no other;
- that guarding keeps both at every node, although it never updates the type that is
  recorded above a guard.

Does not own: the binding of clauses, or the values of expressions.

Data types are right whatever the conversions and the literals. Nullability is exact only
where every absent constant is recorded as possibly absent. Both are shown in one pass: the
proposition `declared` stands for that condition.
-/

namespace ClauseBinding

namespace Expression

/-! ## Nodes -/

/-- Whether the operands of a node have the data types that the node works on, and its
result the one that it yields. -/
def OperandsTyped
    (catalog : Catalog) : Expression → Prop
  | .constant _ _ | .parameter _ _ | .convert _ _ => True
  | .read source member type =>
      ∃ typeName definition, source.data = .structured typeName
        ∧ catalog.member? typeName member = some definition
        ∧ type.data = definition.data
  | .comparison operator left right type =>
      left.data = right.data
        ∧ (left.data.isPrimitive = true ∨ left.data.isEnumeration = true)
        ∧ (operator.needsOrder = true →
            left.data.isNumeric = true ∨ left.data = .date ∨ left.data = .moment
              ∨ left.data.isEnumeration = true)
        ∧ type.data = .bool
  | .logical _ left right type => left.data = .bool ∧ right.data = .bool ∧ type.data = .bool
  | .arithmetic _ left right type => left.data = type.data ∧ right.data = type.data
  | .has value flag type =>
      ∃ typeName enumeration, value.data = .enumeration typeName
        ∧ flag.data = .enumeration typeName
        ∧ catalog.enumeration? typeName = some enumeration
        ∧ enumeration.isFlags = true
        ∧ type.data = .bool
  | .not operand type => operand.data = .bool ∧ type.data = .bool
  | .negate operand type => operand.data.isNumeric = true ∧ type.data = operand.data
  | .isNull _ _ type => type.data = .bool
  | .coalesce operand fallback type => operand.data = type.data ∧ fallback.data = type.data
  | .conditional test whenTrue whenFalse _ type =>
      test.data = .bool ∧ whenTrue.data = type.data ∧ whenFalse.data = type.data
  | .call function arguments type =>
      ∃ signature ∈ function.signatures,
        arguments.map data = signature.parameters ∧ type.data = signature.result
  | .quantified _ source item body type =>
      source.data.element? = some item.type ∧ body.data = .bool ∧ type.data = .bool
  | .count source type => source.data.element?.isSome = true ∧ type.data = .int64
  | .countWhere source item condition type =>
      source.data.element? = some item.type ∧ condition.data = .bool ∧ type.data = .int64

/-- Whether a node is recorded as possibly absent exactly where its operands say so. A
conversion may add absence, and a guard stands before a node that may be absent anyway. -/
def NullabilityExact
    (catalog : Catalog) : Expression → Prop
  | .constant value type => value.isNull = true → type.nullable = true
  | .parameter _ _ => True
  | .read source member type =>
      ∃ typeName definition, source.data = .structured typeName
        ∧ catalog.member? typeName member = some definition
        ∧ type.nullable = (definition.nullable || source.isNullable)
  | .comparison _ left right type | .logical _ left right type | .arithmetic _ left right type
  | .has left right type => type.nullable = (left.isNullable || right.isNullable)
  | .not operand type | .negate operand type => type.nullable = operand.isNullable
  | .isNull _ _ type => type.nullable = false
  | .coalesce _ fallback type => type.nullable = fallback.isNullable
  | .convert operand type => operand.isNullable = true → type.nullable = true
  | .conditional _ whenTrue whenFalse isGuard type =>
      type.nullable = (whenTrue.isNullable || whenFalse.isNullable)
        ∧ (isGuard = true → whenFalse.isNullable = true)
  | .call _ arguments type => type.nullable = arguments.any isNullable
  | .quantified _ source _ _ type | .count source type | .countWhere source _ _ type =>
      type.nullable = source.isNullable

/-- A node that is typed by its operands, nullability included where nulls are declared. -/
structure NodeTyped
    (catalog : Catalog)
    (declared : Prop)
    (node : Expression) : Prop where
  operands : node.OperandsTyped catalog
  nullability : declared → node.NullabilityExact catalog

/-- Every node of an expression, down to the leaves, is typed by its operands. -/
def WellTyped
    (catalog : Catalog)
    (declared : Prop)
    (expression : Expression) : Prop :=
  ∀ part, Within part expression → part.NodeTyped catalog declared

/-- The one expression can take the place of the other one below any node. -/
structure KeepsType
    (declared : Prop)
    (before after : Expression) : Prop where
  data : after.data = before.data
  nullability : declared → after.isNullable = before.isNullable

namespace KeepsType

variable {declared : Prop} {before between after : Expression}

private theorem of_type (same : after.type = before.type) : KeepsType declared before after where
  data := congrArg ValueType.data same
  nullability _ := congrArg ValueType.nullable same

theorem trans
    (first : KeepsType declared before between)
    (second : KeepsType declared between after) : KeepsType declared before after where
  data := second.data.trans first.data
  nullability isDeclared := (second.nullability isDeclared).trans (first.nullability isDeclared)

/-- Where nulls are declared, the whole type is kept. -/
theorem type
    (kept : KeepsType declared before after)
    (isDeclared : declared) : after.type = before.type := by
  have sameData : after.type.data = before.type.data := kept.data
  have sameNullability : after.type.nullable = before.type.nullable := kept.nullability isDeclared
  cases afterType : after.type
  cases beforeType : before.type
  simp_all

end KeepsType

variable {catalog : Catalog} {declared : Prop}
variable {node operand left right test expression : Expression}

/-! ## Expressions by their root -/

/-- An expression is well typed if its root is typed by well-typed children. -/
theorem wellTyped_iff :
    node.WellTyped catalog declared ↔
      node.NodeTyped catalog declared ∧ ∀ child ∈ node.children, child.WellTyped catalog declared := by
  constructor
  · intro typed
    exact ⟨typed node .whole, fun child member part within => typed part (.inside member within)⟩
  · rintro ⟨root, children⟩ part within
    cases within with
    | whole => exact root
    | inside member within => exact children _ member part within

theorem wellTyped_iff_of_leaf (leaf : node.children = []) :
    node.WellTyped catalog declared ↔ node.NodeTyped catalog declared := by
  rw [wellTyped_iff, leaf]
  exact and_iff_left (List.forall_mem_nil _)

theorem wellTyped_iff_of_operand (only : node.children = [operand]) :
    node.WellTyped catalog declared ↔
      node.NodeTyped catalog declared ∧ operand.WellTyped catalog declared := by
  rw [wellTyped_iff, only, List.forall_mem_singleton]

theorem wellTyped_iff_of_operands (both : node.children = [left, right]) :
    node.WellTyped catalog declared ↔
      node.NodeTyped catalog declared
        ∧ left.WellTyped catalog declared ∧ right.WellTyped catalog declared := by
  rw [wellTyped_iff, both, List.forall_mem_cons, List.forall_mem_singleton]

private theorem wellTyped_iff_of_branches (branches : node.children = [test, left, right]) :
    node.WellTyped catalog declared ↔
      node.NodeTyped catalog declared
        ∧ test.WellTyped catalog declared
        ∧ left.WellTyped catalog declared ∧ right.WellTyped catalog declared := by
  rw [wellTyped_iff, branches, List.forall_mem_cons, List.forall_mem_cons,
    List.forall_mem_singleton]

theorem any_isNullable_congr
    {before after : List Expression}
    (same : after.map isNullable = before.map isNullable) :
    after.any isNullable = before.any isNullable := by
  simpa only [List.any_map, Function.id_comp] using congrArg (List.any · id) same

/-- A constant is well typed if it is recorded as possibly absent where it is absent. -/
theorem wellTyped_constant
    {value : Value}
    {type : ValueType}
    (allowed : declared → value.isNull = true → type.nullable = true) :
    (constant value type).WellTyped catalog declared :=
  (wellTyped_iff_of_leaf rfl).mpr ⟨trivial, allowed⟩

theorem wellTyped_nullOf (data : DataType) : (nullOf data).WellTyped catalog declared :=
  wellTyped_constant fun _ _ => rfl

theorem wellTyped_ofBool (value : Bool) : (ofBool value).WellTyped catalog declared :=
  wellTyped_constant fun _ absent => nomatch absent

namespace WellTyped

theorem connect
    (operator : Connective)
    (leftTyped : left.WellTyped catalog declared)
    (rightTyped : right.WellTyped catalog declared)
    (leftTruth : left.data = .bool)
    (rightTruth : right.data = .bool) :
    (connect operator left right).WellTyped catalog declared := by
  refine (wellTyped_iff_of_operands rfl).mpr ⟨⟨?_, fun _ => rfl⟩, leftTyped, rightTyped⟩
  exact ⟨leftTruth, rightTruth, rfl⟩

theorem absence
    (typed : operand.WellTyped catalog declared)
    (negated : Bool) : (absence operand negated).WellTyped catalog declared :=
  (wellTyped_iff_of_operand rfl).mpr ⟨⟨rfl, fun _ => rfl⟩, typed⟩

/-! ## Guards -/

/-- The tests for absence are truth values, and so is their disjunction. -/
theorem disjunction
    {first : Expression}
    {rest : List Expression}
    (firstTyped : first.WellTyped catalog declared ∧ first.data = .bool)
    (restTyped : ∀ test ∈ rest, test.WellTyped catalog declared ∧ test.data = .bool) :
    (rest.foldl (Expression.connect .or) first).WellTyped catalog declared
      ∧ (rest.foldl (Expression.connect .or) first).data = .bool := by
  induction rest generalizing first with
  | nil => exact firstTyped
  | cons second rest inductionHypothesis =>
      obtain ⟨secondTyped, restTyped⟩ := List.forall_mem_cons.mp restTyped
      have together := firstTyped.1.connect .or secondTyped.1 firstTyped.2 secondTyped.2
      exact inductionHypothesis ⟨together, rfl⟩ restTyped

private theorem mem_children_of_dereferenced
    (member : operand ∈ node.dereferenced) : operand ∈ node.children := by
  cases node with
  | read | count | call => exact member
  | quantified | countWhere =>
      obtain rfl := List.mem_singleton.mp member
      exact List.mem_cons_self
  | _ => exact absurd member List.not_mem_nil

theorem absenceTest?
    (typed : node.WellTyped catalog declared)
    (tested : node.absenceTest? = some test) :
    test.WellTyped catalog declared ∧ test.data = .bool := by
  have each : ∀ absent ∈ (node.dereferenced.filter isNullable).map (Expression.absence · false),
      absent.WellTyped catalog declared ∧ absent.data = .bool := by
    intro absent member
    obtain ⟨operand, isOperand, rfl⟩ := List.mem_map.mp member
    have isChild := mem_children_of_dereferenced (List.mem_of_mem_filter isOperand)
    have operandTyped := (wellTyped_iff.mp typed).2 operand isChild
    exact ⟨operandTyped.absence false, rfl⟩
  unfold Expression.absenceTest? at tested
  split at tested
  case h_1 => cases tested
  case h_2 first rest tests =>
    obtain rfl := Option.some.inj tested
    rw [tests] at each
    obtain ⟨firstTyped, restTyped⟩ := List.forall_mem_cons.mp each
    exact disjunction firstTyped restTyped

/-- A node that would fail on an absent operand may itself be absent where that operand
may be. -/
theorem nullable_of_dereferenced
    (exact : node.NullabilityExact catalog)
    (member : operand ∈ node.dereferenced)
    (nullable : operand.isNullable = true) : node.isNullable = true := by
  cases node with
  | read =>
      obtain rfl := List.mem_singleton.mp member
      obtain ⟨_, definition, _, _, isExact⟩ := exact
      exact isExact.trans (by rw [nullable, Bool.or_true])
  | quantified | count | countWhere =>
      obtain rfl := List.mem_singleton.mp member
      exact exact.trans nullable
  | call => exact exact.trans (List.any_eq_true.mpr ⟨operand, member, nullable⟩)
  | _ => exact absurd member List.not_mem_nil

/-- A guarded node has the type that was recorded before, as far as nulls are declared. -/
theorem guardAbsence
    {before : Expression}
    (typed : node.WellTyped catalog declared)
    (same : node.type = before.type) :
    node.guardAbsence.WellTyped catalog declared
      ∧ KeepsType declared before node.guardAbsence := by
  have allowed : declared →
      ∀ operand ∈ node.dereferenced, operand.isNullable = true → node.isNullable = true := by
    intro isDeclared operand member nullable
    exact nullable_of_dereferenced ((typed node .whole).nullability isDeclared) member nullable
  have kept : KeepsType declared node node.guardAbsence :=
    ⟨data_guardAbsence node, fun isDeclared =>
      congrArg ValueType.nullable (type_guardAbsence (allowed isDeclared))⟩
  refine ⟨?_, .trans (.of_type same) kept⟩
  unfold Expression.guardAbsence at kept ⊢
  split
  case h_1 => exact typed
  case h_2 test tested =>
    obtain ⟨testTyped, isTruth⟩ := typed.absenceTest? tested
    rw [tested] at kept
    refine (wellTyped_iff_of_branches rfl).mpr
      ⟨⟨⟨isTruth, rfl, rfl⟩, ?_⟩, testTyped, wellTyped_nullOf node.data, typed⟩
    intro isDeclared
    have nullable : node.isNullable = true := (kept.nullability isDeclared).symm
    exact ⟨rfl, fun _ => nullable⟩

/-- Folding an unknown condition to false keeps its data type; it is never unknown then. -/
theorem unknownToFalse
    (typed : expression.WellTyped catalog declared) :
    expression.unknownToFalse.WellTyped catalog declared := by
  unfold Expression.unknownToFalse
  split
  case isTrue unknown =>
    refine (wellTyped_iff_of_operands rfl).mpr
      ⟨⟨⟨rfl, ?_⟩, fun _ => rfl⟩, typed, wellTyped_ofBool false⟩
    exact (congrArg ValueType.data unknown).symm
  case isFalse => exact typed

end WellTyped

/-! ## Guarding by the kind of node -/

/-- Guarding makes of an expression a well-typed one that can take its place. -/
structure GuardsTyped
    (catalog : Catalog)
    (declared : Prop)
    (expression : Expression) : Prop where
  typed : expression.guardNulls.WellTyped catalog declared
  kept : KeepsType declared expression expression.guardNulls

namespace GuardsTyped

variable {source body whenTrue whenFalse : Expression} {type : ValueType}
variable {item : Parameter} {arguments : List Expression}

private theorem of_guardAbsence
    {rebuilt : Expression}
    (guards : expression.guardNulls = rebuilt.guardAbsence)
    (typed : rebuilt.WellTyped catalog declared)
    (same : rebuilt.type = expression.type) : GuardsTyped catalog declared expression := by
  obtain ⟨guardedTyped, kept⟩ := typed.guardAbsence same
  exact ⟨guards ▸ guardedTyped, guards ▸ kept⟩

private theorem read
    {member : String}
    (root : (Expression.read source member type).NodeTyped catalog declared)
    (sourceGuards : GuardsTyped catalog declared source) :
    GuardsTyped catalog declared (.read source member type) := by
  obtain ⟨sourceTyped, sourceKept⟩ := sourceGuards
  refine of_guardAbsence rfl
    ((wellTyped_iff_of_operand rfl).mpr ⟨⟨?operands, ?nullability⟩, sourceTyped⟩) rfl
  case operands => simpa only [OperandsTyped, sourceKept.data] using root.operands
  case nullability =>
    intro isDeclared
    simpa only [NullabilityExact, sourceKept.data, sourceKept.nullability isDeclared]
      using root.nullability isDeclared

private theorem count
    (root : (Expression.count source type).NodeTyped catalog declared)
    (sourceGuards : GuardsTyped catalog declared source) :
    GuardsTyped catalog declared (.count source type) := by
  obtain ⟨sourceTyped, sourceKept⟩ := sourceGuards
  refine of_guardAbsence rfl
    ((wellTyped_iff_of_operand rfl).mpr ⟨⟨?operands, ?nullability⟩, sourceTyped⟩) rfl
  case operands => simpa only [OperandsTyped, sourceKept.data] using root.operands
  case nullability =>
    intro isDeclared
    simpa only [NullabilityExact, sourceKept.nullability isDeclared]
      using root.nullability isDeclared

private theorem quantified
    {quantifier : Quantifier}
    (root : (Expression.quantified quantifier source item body type).NodeTyped catalog declared)
    (sourceGuards : GuardsTyped catalog declared source)
    (bodyGuards : GuardsTyped catalog declared body) :
    GuardsTyped catalog declared (.quantified quantifier source item body type) := by
  obtain ⟨sourceTyped, sourceKept⟩ := sourceGuards
  obtain ⟨bodyTyped, bodyKept⟩ := bodyGuards
  refine of_guardAbsence rfl ((wellTyped_iff_of_operands rfl).mpr
    ⟨⟨?operands, ?nullability⟩, sourceTyped, bodyTyped.unknownToFalse⟩) rfl
  case operands =>
    simpa only [OperandsTyped, sourceKept.data, data_unknownToFalse, bodyKept.data]
      using root.operands
  case nullability =>
    intro isDeclared
    simpa only [NullabilityExact, sourceKept.nullability isDeclared]
      using root.nullability isDeclared

private theorem countWhere
    (root : (Expression.countWhere source item body type).NodeTyped catalog declared)
    (sourceGuards : GuardsTyped catalog declared source)
    (bodyGuards : GuardsTyped catalog declared body) :
    GuardsTyped catalog declared (.countWhere source item body type) := by
  obtain ⟨sourceTyped, sourceKept⟩ := sourceGuards
  obtain ⟨bodyTyped, bodyKept⟩ := bodyGuards
  refine of_guardAbsence rfl ((wellTyped_iff_of_operands rfl).mpr
    ⟨⟨?operands, ?nullability⟩, sourceTyped, bodyTyped.unknownToFalse⟩) rfl
  case operands =>
    simpa only [OperandsTyped, sourceKept.data, data_unknownToFalse, bodyKept.data]
      using root.operands
  case nullability =>
    intro isDeclared
    simpa only [NullabilityExact, sourceKept.nullability isDeclared]
      using root.nullability isDeclared

private theorem call
    {function : Function}
    (root : (Expression.call function arguments type).NodeTyped catalog declared)
    (guards : ∀ argument ∈ arguments, GuardsTyped catalog declared argument) :
    GuardsTyped catalog declared (.call function arguments type) := by
  have sameData : (arguments.map Expression.guardNulls).map data = arguments.map data := by
    rw [List.map_map]
    exact List.map_congr_left fun argument member => (guards argument member).kept.data
  have rebuilt : (Expression.call function arguments type).guardNulls =
      (Expression.call function (arguments.map Expression.guardNulls) type).guardAbsence := by
    rw [Expression.guardNulls, guardNullsAll_eq_map]
  refine of_guardAbsence rebuilt
    (wellTyped_iff.mpr ⟨⟨?operands, ?nullability⟩, ?children⟩) rfl
  case operands => simpa only [OperandsTyped, sameData] using root.operands
  case nullability =>
    intro isDeclared
    have sameNullability :
        (arguments.map Expression.guardNulls).map isNullable = arguments.map isNullable := by
      rw [List.map_map]
      exact List.map_congr_left fun argument member =>
        (guards argument member).kept.nullability isDeclared
    simpa only [NullabilityExact, any_isNullable_congr sameNullability]
      using root.nullability isDeclared
  case children =>
    intro argument member
    obtain ⟨unguarded, isArgument, rfl⟩ := List.mem_map.mp member
    exact (guards unguarded isArgument).typed

/-- A guard is taken away; what it guarded was recorded as possibly absent anyway. -/
private theorem ofGuard
    (root : (Expression.conditional test whenTrue whenFalse true type).NodeTyped catalog declared)
    (guards : GuardsTyped catalog declared whenFalse) :
    GuardsTyped catalog declared (.conditional test whenTrue whenFalse true type) := by
  refine ⟨guards.typed, .trans ⟨root.operands.2.2, ?_⟩ guards.kept⟩
  intro isDeclared
  obtain ⟨isExact, isGuard⟩ := root.nullability isDeclared
  have nullable : whenFalse.isNullable = true := isGuard rfl
  exact nullable.trans (isExact.trans (by rw [nullable, Bool.or_true])).symm

private theorem choice
    (root : (Expression.conditional test whenTrue whenFalse false type).NodeTyped catalog declared)
    (testGuards : GuardsTyped catalog declared test)
    (trueGuards : GuardsTyped catalog declared whenTrue)
    (falseGuards : GuardsTyped catalog declared whenFalse) :
    GuardsTyped catalog declared (.conditional test whenTrue whenFalse false type) := by
  refine ⟨(wellTyped_iff_of_branches rfl).mpr ⟨⟨?operands, ?nullability⟩,
    testGuards.typed, trueGuards.typed, falseGuards.typed⟩, .of_type rfl⟩
  case operands =>
    simpa only [Expression.guardNulls, Bool.false_eq_true, if_false, OperandsTyped,
      testGuards.kept.data, trueGuards.kept.data, falseGuards.kept.data] using root.operands
  case nullability =>
    intro isDeclared
    simpa only [Expression.guardNulls, Bool.false_eq_true, if_false, NullabilityExact,
      trueGuards.kept.nullability isDeclared, falseGuards.kept.nullability isDeclared]
      using root.nullability isDeclared

end GuardsTyped

namespace WellTyped

/-- Guarding keeps every node typed, and the type of the whole: a node that is rebuilt over
guarded operands finds them of the same types, and so can keep the type recorded for it. -/
theorem guardNulls
    (typed : expression.WellTyped catalog declared) :
    GuardsTyped catalog declared expression := by
  induction expression with
  | constant | parameter => exact ⟨typed, .of_type rfl⟩
  | comparison operator left right type leftGuards rightGuards
  | logical operator left right type leftGuards rightGuards
  | arithmetic operator left right type leftGuards rightGuards
  | has left right type leftGuards rightGuards
  | coalesce left right type leftGuards rightGuards =>
      obtain ⟨root, leftTyped, rightTyped⟩ := (wellTyped_iff_of_operands rfl).mp typed
      obtain ⟨leftTyped, leftKept⟩ := leftGuards leftTyped
      obtain ⟨rightTyped, rightKept⟩ := rightGuards rightTyped
      refine ⟨(wellTyped_iff_of_operands rfl).mpr ⟨⟨?_, ?_⟩, leftTyped, rightTyped⟩,
        .of_type rfl⟩
      · simpa only [Expression.guardNulls, OperandsTyped, leftKept.data, rightKept.data]
          using root.operands
      · intro isDeclared
        simpa only [Expression.guardNulls, NullabilityExact, leftKept.nullability isDeclared,
          rightKept.nullability isDeclared] using root.nullability isDeclared
  | not operand type operandGuards
  | negate operand type operandGuards
  | isNull operand negated type operandGuards =>
      obtain ⟨root, operandTyped⟩ := (wellTyped_iff_of_operand rfl).mp typed
      obtain ⟨operandTyped, operandKept⟩ := operandGuards operandTyped
      refine ⟨(wellTyped_iff_of_operand rfl).mpr ⟨⟨?_, ?_⟩, operandTyped⟩, .of_type rfl⟩
      · simpa only [Expression.guardNulls, OperandsTyped, operandKept.data] using root.operands
      · intro isDeclared
        simpa only [Expression.guardNulls, NullabilityExact, operandKept.nullability isDeclared]
          using root.nullability isDeclared
  | convert operand type operandGuards =>
      obtain ⟨root, operandTyped⟩ := (wellTyped_iff_of_operand rfl).mp typed
      obtain ⟨operandTyped, operandKept⟩ := operandGuards operandTyped
      refine ⟨(wellTyped_iff_of_operand rfl).mpr ⟨⟨trivial, ?_⟩, operandTyped⟩, .of_type rfl⟩
      intro isDeclared
      simpa only [Expression.guardNulls, NullabilityExact, operandKept.nullability isDeclared]
        using root.nullability isDeclared
  | conditional test whenTrue whenFalse isGuard type testGuards trueGuards falseGuards =>
      obtain ⟨root, testTyped, trueTyped, falseTyped⟩ := (wellTyped_iff_of_branches rfl).mp typed
      cases isGuard with
      | true => exact .ofGuard root (falseGuards falseTyped)
      | false =>
          exact .choice root (testGuards testTyped) (trueGuards trueTyped)
            (falseGuards falseTyped)
  | read source member type sourceGuards =>
      obtain ⟨root, sourceTyped⟩ := (wellTyped_iff_of_operand rfl).mp typed
      exact .read root (sourceGuards sourceTyped)
  | count source type sourceGuards =>
      obtain ⟨root, sourceTyped⟩ := (wellTyped_iff_of_operand rfl).mp typed
      exact .count root (sourceGuards sourceTyped)
  | quantified quantifier source item body type sourceGuards bodyGuards =>
      obtain ⟨root, sourceTyped, bodyTyped⟩ := (wellTyped_iff_of_operands rfl).mp typed
      exact .quantified root (sourceGuards sourceTyped) (bodyGuards bodyTyped)
  | countWhere source item body type sourceGuards bodyGuards =>
      obtain ⟨root, sourceTyped, bodyTyped⟩ := (wellTyped_iff_of_operands rfl).mp typed
      exact .countWhere root (sourceGuards sourceTyped) (bodyGuards bodyTyped)
  | call function arguments type argumentsGuard =>
      obtain ⟨root, argumentsTyped⟩ := wellTyped_iff.mp typed
      exact .call root fun argument member =>
        argumentsGuard argument member (argumentsTyped argument member)

theorem guardCondition
    (typed : expression.WellTyped catalog declared) :
    expression.guardCondition.WellTyped catalog declared :=
  typed.guardNulls.typed.unknownToFalse

end WellTyped

end Expression

end ClauseBinding
