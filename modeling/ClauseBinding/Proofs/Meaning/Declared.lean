import ClauseBinding.Proofs.Meaning.Interpreter
import ClauseBinding.Proofs.Meaning.Literals
import ClauseBinding.Proofs.Soundness.Clause

/-!
Contract: bound clauses have the types that the clauses declare.

Owns:
- environments that agree with the scope of a clause and with bindings;
- that the type recorded at a bound clause is the one that the clause declares.

Does not own: values.
-/

namespace ClauseBinding

variable {catalog : Catalog} {scope : List Parameter} {bindings : Bindings}
  {environment : Environment}

/-! ## Environments -/

/-- An environment in which each variable in scope has the type that the scope gives it and
the value that it is bound to. -/
def Environment.Agrees
    (scope : List Parameter)
    (bindings : Bindings)
    (environment : Environment) : Prop :=
  ∀ name parameter, scope.find? (·.name == name) = some parameter →
    ∃ found, environment.innermost? name = some found
      ∧ found.type = parameter.type
      ∧ bindings.lookup name = some found.value

namespace Environment.Agrees

theorem of_empty
    (bindings : Bindings)
    (environment : Environment) : Agrees [] bindings environment :=
  fun _ _ absurd => nomatch absurd

theorem push
    (agrees : Agrees scope bindings environment)
    (item : Parameter)
    (value : Value) :
    Agrees (item :: scope) (bindings.push item.name value)
      (⟨item.name, item.type, value⟩ :: environment) := by
  intro name parameter found
  by_cases same : item.name = name
  · rw [List.find?_cons_of_pos (by simp [same])] at found
    obtain rfl := Option.some.inj found
    exact ⟨⟨item.name, item.type, value⟩, List.find?_cons_of_pos (by simp [same]), rfl,
      by simp [Bindings.lookup, Bindings.push, Table.find?, same]⟩
  · rw [List.find?_cons_of_neg (by simp [same])] at found
    obtain ⟨outer, isOuter, sameType, isBound⟩ := agrees name parameter found
    refine ⟨outer, ?_, sameType, ?_⟩
    · rwa [innermost?, List.find?_cons_of_neg (by simp [same])]
    · simpa [Bindings.lookup, Bindings.push, Table.find?, same] using isBound

end Environment.Agrees

/-! ## Operands -/

namespace Clause

variable {left right : Clause} {boundLeft boundRight expression : Expression}

/-- A text literal has the type of texts. -/
private theorem declared_of_textLiteral?
    {clause : Clause}
    {text : String}
    (literals : clause.LiteralsConform catalog)
    (isText : clause.textLiteral? = some text) :
    (clause.declared catalog environment).data = .string := by
  unfold textLiteral? at isText
  split at isText
  case h_1 => exact literals.data_eq rfl
  case h_2 => cases isText

/-- What is no text, or stands beside no enumeration, may be absent where its type says so. -/
private theorem mayBeAbsent_of_unnamed
    {operand : Clause}
    (type : ValueType)
    {beside : ValueType}
    (unnamed : operand.textLiteral? = none ∨ beside.data.isEnumeration = false) :
    operand.mayBeAbsent type beside = type.nullable := by
  rcases unnamed with noText | other
  · simp [mayBeAbsent, noText]
  · simp [mayBeAbsent, other]

/-- A text that names a member of the enumeration beside it is present. -/
private theorem mayBeAbsent_of_named
    {operand : Clause}
    {typeName text : String}
    (type : ValueType)
    {beside : ValueType}
    (isText : operand.textLiteral? = some text)
    (enumerated : beside.data = .enumeration typeName) :
    operand.mayBeAbsent type beside = false := by
  simp [mayBeAbsent, isText, enumerated, DataType.isEnumeration]

/-- Beside an operand that is no text of its enumeration, binding finds no text to replace. -/
private theorem unnamed_of_besideEnumeration?_none
    {operation : String}
    (found : Expression.besideEnumeration? catalog operation boundLeft boundRight = .ok none) :
    boundRight.textConstant? = none ∨ boundLeft.type.data.isEnumeration = false := by
  unfold Expression.besideEnumeration? at found
  split at found
  case h_1 => exact .inl (Expression.enumerationConstant?_none found)
  case h_2 unnamed =>
    right
    cases data : boundLeft.type.data with
    | enumeration typeName =>
        simp [Expression.enumerationName?, Expression.data, data] at unnamed
    | _ => rfl

/-- An operand and what it is bound to, of one type. -/
private structure Typed
    (catalog : Catalog)
    (environment : Environment)
    (clause : Clause)
    (expression : Expression) : Prop where
  type : expression.type = clause.declared catalog environment
  literals : clause.LiteralsConform catalog
  isNullConstant : expression.isNullConstant = clause.isNullLiteral
  textConstant? : expression.textConstant? = clause.textLiteral?

private theorem Typed.isNullable
    {clause : Clause}
    (typed : Typed catalog environment clause expression) :
    expression.isNullable = (clause.declared catalog environment).nullable := by
  rw [Expression.isNullable, typed.type]

private theorem Typed.data
    {clause : Clause}
    (typed : Typed catalog environment clause expression) :
    expression.data = (clause.declared catalog environment).data := by
  rw [Expression.data, typed.type]

/-- An operand of an enumeration is no text. -/
private theorem Typed.noText
    {clause : Clause}
    {typeName : String}
    (typed : Typed catalog environment clause expression)
    (enumerated : expression.data = .enumeration typeName) : clause.textLiteral? = none := by
  cases isText : clause.textLiteral? with
  | none => rfl
  | some text =>
      have isString :=
        @declared_of_textLiteral? catalog environment clause text typed.literals isText
      rw [← typed.data, enumerated] at isString
      cases isString

/-- Resolved operands may be absent where the clauses say that the operands may. -/
private theorem Typed.isNullable_of_resolves
    {operation : String}
    {resolvedLeft resolvedRight : Expression}
    (leftTyped : Typed catalog environment left boundLeft)
    (rightTyped : Typed catalog environment right boundRight)
    (resolves : Expression.Resolves catalog operation boundLeft boundRight resolvedLeft
      resolvedRight) :
    resolvedLeft.isNullable =
        left.mayBeAbsent (left.declared catalog environment) (right.declared catalog environment)
      ∧ resolvedRight.isNullable =
        right.mayBeAbsent (right.declared catalog environment)
          (left.declared catalog environment) := by
  cases resolves with
  | namedRight enumerated isText known =>
      rw [rightTyped.textConstant?] at isText
      have noText := leftTyped.noText enumerated
      rw [leftTyped.data] at enumerated
      rw [mayBeAbsent_of_unnamed _ (.inl noText), mayBeAbsent_of_named _ isText enumerated]
      exact ⟨leftTyped.isNullable, rfl⟩
  | namedLeft enumerated isText known =>
      rw [leftTyped.textConstant?] at isText
      have noText := rightTyped.noText enumerated
      rw [rightTyped.data] at enumerated
      rw [mayBeAbsent_of_unnamed _ (.inl noText), mayBeAbsent_of_named _ isText enumerated]
      exact ⟨rfl, rightTyped.isNullable⟩
  | asTheyAre rightFound leftFound =>
      have rightUnnamed := unnamed_of_besideEnumeration?_none rightFound
      have leftUnnamed := unnamed_of_besideEnumeration?_none leftFound
      rw [rightTyped.textConstant?, leftTyped.type] at rightUnnamed
      rw [leftTyped.textConstant?, rightTyped.type] at leftUnnamed
      rw [mayBeAbsent_of_unnamed _ rightUnnamed, mayBeAbsent_of_unnamed _ leftUnnamed]
      exact ⟨leftTyped.isNullable, rightTyped.isNullable⟩

private theorem data_ofNumbers
    {conversions : ConversionTable}
    {leftType rightType : ValueType}
    {target : DataType}
    (chosen : Expression.arithmeticType? conversions leftType.data rightType.data = some target) :
    (leftType.ofNumbers conversions rightType).data = target := by
  unfold Expression.arithmeticType? at chosen
  unfold ValueType.ofNumbers
  split at chosen
  case isTrue leftNull => simpa [leftNull.1] using chosen
  case isFalse =>
    split at chosen
    case isTrue rightNull =>
      obtain ⟨rightNull, numeric⟩ := rightNull
      have typed : leftType.data ≠ .null := by
        intro untyped
        rw [untyped] at numeric
        cases numeric
      simpa [typed, rightNull] using chosen
    case isFalse =>
      split at chosen
      case isTrue numeric =>
        have leftTyped : leftType.data ≠ .null := by
          intro untyped
          rw [untyped] at numeric
          cases numeric
        have rightTyped : rightType.data ≠ .null := by
          intro untyped
          rw [untyped, Bool.and_comm] at numeric
          cases numeric
        simp [leftTyped, rightTyped, chosen]
      case isFalse => cases chosen

private theorem Typed.binary
    {operator : BinaryOperator}
    (leftTyped : Typed catalog environment left boundLeft)
    (rightTyped : Typed catalog environment right boundRight)
    (leftSound : Expression.Sound catalog scope boundLeft)
    (rightSound : Expression.Sound catalog scope boundRight)
    (rule : Expression.BinaryRule catalog boundLeft boundRight operator expression) :
    expression.type = (binary operator left right).declared catalog environment := by
  cases rule with
  | bothAbsent equality leftAbsent | leftAbsent equality leftAbsent =>
      rw [leftTyped.isNullConstant] at leftAbsent
      simp only [declared, equality, leftAbsent, Bool.not_false, Bool.true_or, Bool.and_true,
        if_true]
      rfl
  | rightAbsent equality _ rightAbsent =>
      rw [rightTyped.isNullConstant] at rightAbsent
      simp only [declared, equality, rightAbsent, Bool.not_false, Bool.or_true, Bool.and_true,
        if_true]
      rfl
  | @compared operator resolvedLeft resolvedRight target ordinary resolves chosen =>
      obtain ⟨resolvedLeftSound, resolvedRightSound⟩ :=
        resolves.both leftSound rightSound Expression.ofNamed_sound
      obtain ⟨leftNullable, rightNullable⟩ := leftTyped.isNullable_of_resolves rightTyped resolves
      rw [leftTyped.isNullConstant, rightTyped.isNullConstant] at ordinary
      simp only [declared, ordinary, Expression.compare, Expression.type,
        resolvedLeftSound.isNullable_promote, resolvedRightSound.isNullable_promote, leftNullable,
        rightNullable]
      rfl
  | connected =>
      simp only [declared, Expression.connect, Expression.type, leftSound.isNullable_promote,
        rightSound.isNullable_promote, leftTyped.isNullable, rightTyped.isNullable]
  | @calculated _ target chosen =>
      rw [leftTyped.data, rightTyped.data] at chosen
      rw [Expression.type, ← data_ofNumbers chosen, leftTyped.isNullable, rightTyped.isNullable]
      rfl
  | namedFlag enumerated _ isText known =>
      rw [rightTyped.textConstant?] at isText
      rw [leftTyped.data] at enumerated
      simp only [declared, mayBeAbsent_of_named _ isText enumerated, Expression.type,
        leftTyped.isNullable]
      rfl
  | flag _ _ noText =>
      rw [rightTyped.textConstant?] at noText
      simp only [declared, mayBeAbsent_of_unnamed _ (.inl noText), Expression.type,
        leftTyped.isNullable, rightTyped.isNullable]

theorem allDeclared_eq_map
    (clauses : List Clause)
    (environment : Environment) :
    allDeclared catalog clauses environment = clauses.map (·.declared catalog environment) := by
  induction clauses with
  | nil => rfl
  | cons first rest inductionHypothesis => rw [allDeclared, inductionHypothesis, List.map_cons]

/-- The type recorded at a bound clause is the one that the clause declares. Bodies and
conditions of collections have no part in it. -/
theorem Binds.type_eq_declared
    {clause : Clause}
    (conservative : catalog.conversions.Conservative)
    (binds : Binds catalog scope clause expression)
    (literals : clause.LiteralsConform catalog)
    (agrees : environment.Agrees scope bindings) :
    expression.type = clause.declared catalog environment := by
  induction binds with
  | literal => rfl
  | @reference scope name parameter found =>
      obtain ⟨innermost, isInnermost, sameType, _⟩ := agrees name parameter found
      rw [declared, isInnermost]
      exact sameType.symm
  | member _ bound sourceTyped =>
      obtain ⟨typeName, definition, structured, isMember, rfl⟩ :=
        Expression.bindMember_eq_ok bound
      rw [Expression.data] at structured
      rw [declared, ← sourceTyped literals agrees, ValueType.ofMember]
      simp only [structured, isMember]
      rfl
  | binary leftBinds rightBinds bound leftTyped rightTyped =>
      have left : Typed catalog environment _ _ :=
        ⟨leftTyped literals.1 agrees, literals.1, leftBinds.literals.1, leftBinds.literals.2⟩
      have right : Typed catalog environment _ _ :=
        ⟨rightTyped literals.2 agrees, literals.2, rightBinds.literals.1, rightBinds.literals.2⟩
      exact left.binary right (leftBinds.sound conservative literals.1)
        (rightBinds.sound conservative literals.2) (Expression.binaryRule_of_bind bound)
  | unary operandBinds bound operandTyped =>
      have operandType := operandTyped literals agrees
      cases Expression.unaryRule_of_bind bound with
      | not =>
          have sound := operandBinds.sound conservative literals
          rw [declared, ← operandType]
          exact sound.type_promote .bool
      | negate => exact operandType
  | @call scope name arguments boundArguments expression paired argumentsBind bound
      argumentsTyped =>
      obtain ⟨function, signature, resolved, rfl⟩ := Expression.bindCall_eq_ok bound
      have each := AllLiteralsConform.each literals
      have types : allDeclared catalog arguments environment =
          boundArguments.map Expression.type := by
        rw [allDeclared_eq_map]
        apply map_eq_of_paired paired
        intro argument boundArgument isPaired
        have literal := each argument (List.of_mem_zip isPaired).1
        exact (argumentsTyped argument boundArgument isPaired literal agrees).symm
      simp only [declared, ValueType.ofCall, types, resolved, Expression.type]
  | cast _ bound _ => cases Expression.castRule_of_bind bound <;> rfl
  | quantified _ _ _ bound sourceTyped _ =>
      obtain ⟨_, rfl⟩ := Expression.bindQuantified_eq_ok bound
      rw [declared, ← sourceTyped literals.1 agrees]
      rfl
  | count _ _ sourceTyped =>
      rw [declared, ← sourceTyped literals agrees]
      rfl
  | countWhere _ _ _ _ sourceTyped _ =>
      rw [declared, ← sourceTyped literals.1 agrees]
      rfl

/-- The variable of a body ranges over the items that the clause declares. -/
theorem Binds.ofItem_declared
    {source : Clause}
    {item : ValueType}
    (conservative : catalog.conversions.Conservative)
    (binds : Binds catalog scope source expression)
    (literals : source.LiteralsConform catalog)
    (agrees : environment.Agrees scope bindings)
    (collected : expression.data.element? = some item) :
    (source.declared catalog environment).ofItem = item := by
  rw [← binds.type_eq_declared conservative literals agrees, ValueType.ofItem]
  exact congrArg (Option.getD · .null) collected

end Clause

end ClauseBinding
