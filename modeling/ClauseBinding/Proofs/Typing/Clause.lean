import ClauseBinding.Proofs.Order.Binding
import ClauseBinding.Proofs.Typing.Guard

/-!
Contract: bound clauses are typed at every node.

Owns:
- clauses whose absent literals are declared as possibly absent;
- that every rule of binding yields nodes typed by their operands, whatever the conversions
  and whatever types the literals declare;
- the same for filters and orders, before their expressions are guarded and after.

Does not own: the values that the expressions have.
-/

namespace ClauseBinding

open ClauseBinding.Outcome

namespace Clause

mutual

/-- Every absent literal is declared as possibly absent. -/
def NullsDeclared : Clause → Prop
  | .literal value type => value.isNull = true → type.nullable = true
  | .reference _ => True
  | .member source _ => NullsDeclared source
  | .binary _ left right => NullsDeclared left ∧ NullsDeclared right
  | .unary _ operand => NullsDeclared operand
  | .call _ arguments => AllNullsDeclared arguments
  | .cast _ operand => NullsDeclared operand
  | .quantified _ source _ body => NullsDeclared source ∧ NullsDeclared body
  | .count source => NullsDeclared source
  | .countWhere source _ condition => NullsDeclared source ∧ NullsDeclared condition
termination_by structural clause => clause

def AllNullsDeclared : List Clause → Prop
  | [] => True
  | first :: rest => NullsDeclared first ∧ AllNullsDeclared rest
termination_by structural clauses => clauses

end

theorem AllNullsDeclared.each
    {clauses : List Clause}
    (nulls : AllNullsDeclared clauses) : ∀ clause ∈ clauses, clause.NullsDeclared := by
  induction clauses with
  | nil => exact fun _ absurd => nomatch absurd
  | cons first rest inductionHypothesis =>
      exact List.forall_mem_cons.mpr ⟨nulls.1, inductionHypothesis nulls.2⟩

end Clause

namespace Expression

variable {catalog : Catalog} {declared : Prop}
variable {source operand left right expression : Expression}

/-- A comparison works in a type of single values, with an order if it needs one. -/
theorem comparable_of_comparisonType?
    {conversions : ConversionTable}
    {operator : Comparison}
    {left right target : DataType}
    (found : comparisonType? conversions operator left right = some target) :
    (target.isPrimitive = true ∨ target.isEnumeration = true)
      ∧ (operator.needsOrder = true →
          target.isNumeric = true ∨ target = .date ∨ target = .moment
            ∨ target.isEnumeration = true) := by
  have comparable := (Option.filter_eq_some_iff.mp found).2
  constructor
  · exact Bool.or_eq_true_iff.mp (isOrderable_of_isComparable comparable)
  · intro ordered
    simpa [isComparable, ordered, or_assoc] using comparable

namespace WellTyped

/-! ## Promotion -/

theorem promote
    (typed : operand.WellTyped catalog declared)
    (target : DataType) : (operand.promote target).WellTyped catalog declared := by
  unfold Expression.promote
  split
  · exact typed
  · split
    · exact wellTyped_nullOf target
    · exact (wellTyped_iff_of_operand rfl).mpr ⟨⟨trivial, fun _ nullable => nullable⟩, typed⟩

/-- A retyped absent constant is nullable, and so was the constant, where nulls are declared. -/
theorem isNullable_promote
    (typed : operand.WellTyped catalog declared)
    (isDeclared : declared)
    (target : DataType) : (operand.promote target).isNullable = operand.isNullable := by
  unfold Expression.promote
  split
  · rfl
  · split
    case isTrue absent =>
      obtain ⟨type, rfl⟩ := eq_of_isNullConstant absent
      have nullable : type.nullable = true := (typed _ .whole).nullability isDeclared rfl
      exact nullable.symm
    case isFalse => rfl

/-- Promoted arguments are recorded as possibly absent where the arguments are. -/
theorem map_isNullable_promote
    {parameters : List DataType}
    {arguments : List Expression}
    (typed : ∀ argument ∈ arguments, argument.WellTyped catalog declared)
    (isDeclared : declared)
    (paired : arguments.length = parameters.length) :
    (arguments.zipWith Expression.promote parameters).map isNullable =
      arguments.map isNullable := by
  rw [← List.map_uncurry_zip_eq_zipWith, List.map_map]
  calc (arguments.zip parameters).map (isNullable ∘ Function.uncurry Expression.promote)
      = (arguments.zip parameters).map (isNullable ∘ Prod.fst) := by
        apply List.map_congr_left
        intro pair isPair
        have isArgument := (List.of_mem_zip isPair).1
        exact (typed pair.1 isArgument).isNullable_promote isDeclared pair.2
    _ = ((arguments.zip parameters).map Prod.fst).map isNullable := (List.map_map ..).symm
    _ = arguments.map isNullable := by rw [List.map_fst_zip (Nat.le_of_eq paired)]

/-! ## Operators -/

theorem compare
    {operator : Comparison}
    {target : DataType}
    (leftTyped : left.WellTyped catalog declared)
    (rightTyped : right.WellTyped catalog declared)
    (leftData : left.data = target)
    (rightData : right.data = target)
    (single : target.isPrimitive = true ∨ target.isEnumeration = true)
    (ordered : operator.needsOrder = true →
      target.isNumeric = true ∨ target = .date ∨ target = .moment
        ∨ target.isEnumeration = true) :
    (compare operator left right).WellTyped catalog declared := by
  subst leftData
  refine (wellTyped_iff_of_operands rfl).mpr ⟨⟨?_, fun _ => rfl⟩, leftTyped, rightTyped⟩
  exact ⟨rightData.symm, single, ordered, rfl⟩

theorem ofNamed
    (typeName : String)
    (value : Int64) : (ofNamed typeName value).WellTyped catalog declared :=
  wellTyped_constant fun _ absent => nomatch absent

/-- Every operator gets operands of the types it works on. Arithmetic records the nullability
that its operands had before their promotion, which is theirs after it. -/
theorem bindBinary
    {operator : BinaryOperator}
    (leftTyped : left.WellTyped catalog declared)
    (rightTyped : right.WellTyped catalog declared)
    (bound : Expression.bindBinary catalog operator left right = .ok expression) :
    expression.WellTyped catalog declared := by
  cases binaryRule_of_bind bound with
  | bothAbsent => exact wellTyped_ofBool _
  | leftAbsent => exact rightTyped.absence _
  | rightAbsent => exact leftTyped.absence _
  | @compared _ first second target _ resolves chosen =>
      obtain ⟨firstTyped, secondTyped⟩ := resolves.both leftTyped rightTyped ofNamed
      obtain ⟨single, ordered⟩ := comparable_of_comparisonType? chosen
      exact (firstTyped.promote target).compare (secondTyped.promote target)
        (data_promote first target) (data_promote second target) single ordered
  | @connected operator =>
      exact (leftTyped.promote .bool).connect operator (rightTyped.promote .bool)
        (data_promote left .bool) (data_promote right .bool)
  | @calculated _ target =>
      refine (wellTyped_iff_of_operands rfl).mpr
        ⟨⟨⟨data_promote left target, data_promote right target⟩, ?_⟩,
          leftTyped.promote target, rightTyped.promote target⟩
      intro isDeclared
      simp only [NullabilityExact, leftTyped.isNullable_promote isDeclared,
        rightTyped.isNullable_promote isDeclared]
  | namedFlag enumerated flags =>
      obtain ⟨enumeration, registered, isFlags⟩ := exists_flags flags
      refine (wellTyped_iff_of_operands rfl).mpr ⟨⟨?_, fun _ => rfl⟩, leftTyped, ofNamed _ _⟩
      exact ⟨_, enumeration, enumerated, rfl, registered, isFlags, rfl⟩
  | flag enumerated flags _ same =>
      obtain ⟨enumeration, registered, isFlags⟩ := exists_flags flags
      refine (wellTyped_iff_of_operands rfl).mpr ⟨⟨?_, fun _ => rfl⟩, leftTyped, rightTyped⟩
      exact ⟨_, enumeration, enumerated, same.trans enumerated, registered, isFlags, rfl⟩

theorem bindUnary
    {operator : UnaryOperator}
    (typed : operand.WellTyped catalog declared)
    (bound : Expression.bindUnary operator operand = .ok expression) :
    expression.WellTyped catalog declared := by
  cases unaryRule_of_bind bound with
  | not =>
      have truth := data_promote operand .bool
      exact (wellTyped_iff_of_operand rfl).mpr
        ⟨⟨⟨truth, truth⟩, fun _ => rfl⟩, typed.promote .bool⟩
  | negate numeric =>
      exact (wellTyped_iff_of_operand rfl).mpr ⟨⟨⟨numeric, rfl⟩, fun _ => rfl⟩, typed⟩

/-! ## Members, calls, casts and quantifiers -/

theorem bindMember
    {member : String}
    (typed : source.WellTyped catalog declared)
    (bound : Expression.bindMember catalog source member = .ok expression) :
    expression.WellTyped catalog declared := by
  obtain ⟨typeName, definition, structured, declaredMember, rfl⟩ := bindMember_eq_ok bound
  refine (wellTyped_iff_of_operand rfl).mpr ⟨⟨?_, fun _ => ?_⟩, typed⟩
  · exact ⟨typeName, definition, structured, declaredMember, rfl⟩
  · exact ⟨typeName, definition, structured, declaredMember, rfl⟩

/-- The arguments of a call are promoted to the parameters of its overload, whether they have
these types already or not. -/
theorem bindCall
    {name : String}
    {arguments : List Expression}
    (typed : ∀ argument ∈ arguments, argument.WellTyped catalog declared)
    (bound : Expression.bindCall catalog name arguments = .ok expression) :
    expression.WellTyped catalog declared := by
  obtain ⟨function, signature, resolved, rfl⟩ := bindCall_eq_ok bound
  obtain ⟨overload, accepted⟩ := Signature.resolve_spec resolved
  have paired : arguments.length = signature.parameters.length := by
    simpa using accepted.length_eq.symm
  refine wellTyped_iff.mpr ⟨⟨?_, ?_⟩, ?_⟩
  · exact ⟨signature, overload, map_data_promote paired, rfl⟩
  · intro isDeclared
    have sameNullability := map_isNullable_promote typed isDeclared paired
    exact (List.any_map ..).trans (any_isNullable_congr sameNullability).symm
  · intro promoted member
    obtain ⟨argument, isArgument, parameter, rfl⟩ := exists_of_mem_promoted member
    exact (typed argument isArgument).promote parameter

theorem bindCast
    {target : DataType}
    (typed : operand.WellTyped catalog declared)
    (bound : Expression.bindCast catalog target operand = .ok expression) :
    expression.WellTyped catalog declared := by
  cases castRule_of_bind bound with
  | absent => exact wellTyped_nullOf target
  | convert =>
      exact (wellTyped_iff_of_operand rfl).mpr ⟨⟨trivial, fun _ _ => rfl⟩, typed⟩

theorem bindQuantified
    {quantifier : Quantifier}
    {item : Parameter}
    {body : Expression}
    (typed : source.WellTyped catalog declared)
    (collected : source.data.element? = some item.type)
    (bodyTyped : body.WellTyped catalog declared)
    (bound : Expression.bindQuantified quantifier source item body = .ok expression) :
    expression.WellTyped catalog declared := by
  obtain ⟨_, rfl⟩ := bindQuantified_eq_ok bound
  exact (wellTyped_iff_of_operands rfl).mpr
    ⟨⟨⟨collected, data_promote body .bool, rfl⟩, fun _ => rfl⟩, typed, bodyTyped.promote .bool⟩

end WellTyped

end Expression

/-! ## Clauses -/

/-- Whatever a clause is bound to is typed at every node, with exact nullability if the
absent literals of the clause are declared as such. -/
theorem Clause.Binds.wellTyped
    {catalog : Catalog}
    {declared : Prop}
    {scope : List Parameter}
    {clause : Clause}
    {expression : Expression}
    (binds : Binds catalog scope clause expression)
    (nulls : declared → clause.NullsDeclared) : expression.WellTyped catalog declared := by
  induction binds with
  | literal value type => exact Expression.wellTyped_constant nulls
  | reference found => exact (Expression.wellTyped_iff_of_leaf rfl).mpr ⟨trivial, fun _ => trivial⟩
  | member _ bound sourceTyped => exact (sourceTyped nulls).bindMember bound
  | binary _ _ bound leftTyped rightTyped =>
      exact (leftTyped fun isDeclared => (nulls isDeclared).1).bindBinary
        (rightTyped fun isDeclared => (nulls isDeclared).2) bound
  | unary _ bound operandTyped => exact (operandTyped nulls).bindUnary bound
  | call paired _ bound argumentsTyped =>
      refine Expression.WellTyped.bindCall ?_ bound
      intro boundArgument isBound
      obtain ⟨argument, isArgument, isPaired⟩ := exists_paired paired isBound
      exact argumentsTyped argument boundArgument isPaired fun isDeclared =>
        AllNullsDeclared.each (nulls isDeclared) argument isArgument
  | cast _ bound operandTyped => exact (operandTyped nulls).bindCast bound
  | quantified _ collected _ bound sourceTyped bodyTyped =>
      exact (sourceTyped fun isDeclared => (nulls isDeclared).1).bindQuantified collected
        (bodyTyped fun isDeclared => (nulls isDeclared).2) bound
  | count _ collected sourceTyped =>
      exact (Expression.wellTyped_iff_of_operand rfl).mpr
        ⟨⟨⟨by rw [collected]; rfl, rfl⟩, fun _ => rfl⟩, sourceTyped nulls⟩
  | countWhere _ collected _ isTruth sourceTyped conditionTyped =>
      have sourceTyped := sourceTyped fun isDeclared => (nulls isDeclared).1
      have conditionTyped := conditionTyped fun isDeclared => (nulls isDeclared).2
      exact (Expression.wellTyped_iff_of_operands rfl).mpr
        ⟨⟨⟨collected, congrArg ValueType.data isTruth, rfl⟩, fun _ => rfl⟩,
          sourceTyped, conditionTyped.guardCondition⟩

/-! ## Filters and orders -/

def OrderClause.NullsDeclared (order : OrderClause) : Prop :=
  ∀ term ∈ order.terms, term.key.NullsDeclared

namespace FilterClause

private theorem bindOver_wellTyped
    {filter : FilterClause}
    {type : ValueType}
    {context : Context}
    {predicate : Predicate}
    (bound : filter.bindOver type context = .ok predicate) :
    ∃ condition,
      (context.declare ⟨filter.rangeVariable, type⟩ >>= filter.condition.bind) = .ok condition
        ∧ predicate.lambda.body = condition.guardCondition
        ∧ condition.WellTyped context.catalog filter.condition.NullsDeclared := by
  obtain ⟨inside, declares, bound⟩ := bind_eq_ok.mp bound
  obtain ⟨condition, conditionBound, made⟩ := bind_eq_ok.mp bound
  have isGuarded := (Predicate.ofCondition_eq_ok made).1
  refine ⟨condition, bind_eq_ok.mpr ⟨inside, declares, conditionBound⟩,
    congrArg Lambda.body isGuarded, ?_⟩
  have binds := Clause.binds_of_bind conditionBound
  rw [Context.eq_of_declare declares] at binds
  exact binds.wellTyped id

end FilterClause

/-- A selector is typed at every node; members of the key have no literals at all. -/
theorem OrderClause.bindIn_wellTyped
    {order : OrderClause}
    {context : Context}
    {selectors : List Selector}
    {selector : Selector}
    (bound : order.bindIn context = .ok selectors)
    (member : selector ∈ selectors) :
    selector.lambda.body.WellTyped context.catalog order.NullsDeclared
      ∧ selector.lambda.body.data.isOrderable = true := by
  obtain ⟨key, direction, origin, keyBound⟩ := mem_of_bindIn bound selector member
  obtain ⟨body, binds, orderable, rfl⟩ := Selector.bind_eq_ok keyBound
  refine ⟨binds.wellTyped ?_, orderable⟩
  intro nulls
  rcases origin with ⟨term, isTerm, rfl⟩ | ⟨name, rfl⟩
  · exact nulls term isTerm
  · exact trivial

/-- Whatever a filter or an order is bound to is well typed, for every catalog with every
table of conversions, and every literal with every declared type: in the condition before
it is guarded and in the predicate, and in each selector before it is guarded and in its
sort key, every node has operands of the types that it works on. If the absent literals
are declared as possibly absent, moreover, every node of all these is recorded as possibly
absent exactly where its operands say so, and guarding keeps the type of the whole. -/
theorem bound_expressions_well_typed :
    (∀ (filter : FilterClause) (type : ValueType) (context : Context) (predicate : Predicate),
      filter.bindOver type context = .ok predicate →
        ∃ condition,
          (context.declare ⟨filter.rangeVariable, type⟩ >>= filter.condition.bind) =
              .ok condition
            ∧ predicate.lambda.body = condition.guardCondition
            ∧ condition.WellTyped context.catalog filter.condition.NullsDeclared
            ∧ predicate.lambda.body.WellTyped context.catalog filter.condition.NullsDeclared
            ∧ predicate.lambda.body.type = .required .bool
            ∧ condition.KeepsType filter.condition.NullsDeclared condition.guardNulls)
      ∧ ∀ (order : OrderClause) (context : Context) (selectors : List Selector),
        order.bindIn context = .ok selectors →
          ∀ selector ∈ selectors,
            selector.lambda.body.WellTyped context.catalog order.NullsDeclared
              ∧ selector.sortKey.body.WellTyped context.catalog order.NullsDeclared
              ∧ selector.sortKey.body.data.isOrderable = true
              ∧ selector.lambda.body.KeepsType order.NullsDeclared selector.sortKey.body := by
  constructor
  · intro filter type context predicate bound
    obtain ⟨condition, conditionBound, isGuarded, typed⟩ := FilterClause.bindOver_wellTyped bound
    refine ⟨condition, conditionBound, isGuarded, typed, ?_, predicate.isTruth,
      typed.guardNulls.kept⟩
    rw [isGuarded]
    exact typed.guardCondition
  · intro order context selectors bound selector member
    obtain ⟨typed, orderable⟩ := OrderClause.bindIn_wellTyped bound member
    obtain ⟨guardedTyped, kept⟩ := typed.guardNulls
    refine ⟨typed, guardedTyped, ?_, kept⟩
    rw [← orderable]
    exact congrArg DataType.isOrderable kept.data

def OrderClause.mostLines : OrderClause where
  terms := [⟨.count (.member (.reference "item") "lines"), .descending⟩]
  rangeVariable := "item"

private theorem OrderClause.mostLines_binds :
    ∃ selector,
      OrderClause.mostLines.bindIn
          (.start FilterClause.orderCatalog (.structured "Order") {}) = .ok [selector] :=
  ⟨_, rfl⟩

/-- The lines of an order may be missing: the predicate and the sort key hold guards. -/
theorem bound_expressions_well_typed_orders :
    FilterClause.someSeveralPieces.condition.NullsDeclared
      ∧ OrderClause.mostLines.NullsDeclared
      ∧ (∃ predicate,
        FilterClause.someSeveralPieces.bindIn
            (.start FilterClause.orderCatalog (.structured "Order") {}) = .ok predicate
          ∧ ∀ part, Expression.Within part predicate.lambda.body →
            part.OperandsTyped FilterClause.orderCatalog
              ∧ part.NullabilityExact FilterClause.orderCatalog)
      ∧ ∃ selector,
        OrderClause.mostLines.bindIn
            (.start FilterClause.orderCatalog (.structured "Order") {}) = .ok [selector]
          ∧ ∀ part, Expression.Within part selector.sortKey.body →
            part.OperandsTyped FilterClause.orderCatalog
              ∧ part.NullabilityExact FilterClause.orderCatalog := by
  have filterNulls : FilterClause.someSeveralPieces.condition.NullsDeclared :=
    ⟨⟨trivial, trivial, fun absent => nomatch absent⟩, fun absent => nomatch absent⟩
  have orderNulls : OrderClause.mostLines.NullsDeclared :=
    List.forall_mem_singleton.mpr trivial
  refine ⟨filterNulls, orderNulls, ?_, ?_⟩
  · obtain ⟨predicate, _, _, _, _, bound, _⟩ := FilterClause.someSeveralPieces_binds
    obtain ⟨_, _, _, _, typed, _⟩ := bound_expressions_well_typed.1 _ _ _ _ bound
    exact ⟨predicate, bound, fun part within =>
      ⟨(typed part within).operands, (typed part within).nullability filterNulls⟩⟩
  · obtain ⟨selector, bound⟩ := OrderClause.mostLines_binds
    obtain ⟨_, typed, _⟩ :=
      bound_expressions_well_typed.2 _ _ _ bound selector List.mem_cons_self
    exact ⟨selector, bound, fun part within =>
      ⟨(typed part within).operands, (typed part within).nullability orderNulls⟩⟩

end ClauseBinding
