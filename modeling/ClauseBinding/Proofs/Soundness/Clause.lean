import ClauseBinding.Proofs.Clause.Derivation
import ClauseBinding.Proofs.Soundness.Call
import ClauseBinding.Proofs.Soundness.Operator

/-!
Contract: soundness of bound clauses on conforming data.

Owns:
- clauses whose literals conform to the types they declare;
- that whatever such a clause is bound to is sound;
- that a predicate decides every conforming element, or fails as numbers make it fail.

Does not own: what the decision is.
-/

namespace ClauseBinding

open ClauseBinding.Outcome

namespace Clause

mutual

/-- Every literal is one of the type it declares. -/
def LiteralsConform
    (catalog : Catalog) : Clause → Prop
  | .literal value type => value.Conforms catalog type
  | .reference _ => True
  | .member source _ => LiteralsConform catalog source
  | .binary _ left right => LiteralsConform catalog left ∧ LiteralsConform catalog right
  | .unary _ operand => LiteralsConform catalog operand
  | .call _ arguments => AllLiteralsConform catalog arguments
  | .cast _ operand => LiteralsConform catalog operand
  | .quantified _ source _ body => LiteralsConform catalog source ∧ LiteralsConform catalog body
  | .count source => LiteralsConform catalog source
  | .countWhere source _ condition =>
      LiteralsConform catalog source ∧ LiteralsConform catalog condition
termination_by structural clause => clause

def AllLiteralsConform
    (catalog : Catalog) : List Clause → Prop
  | [] => True
  | first :: rest => LiteralsConform catalog first ∧ AllLiteralsConform catalog rest
termination_by structural clauses => clauses

end

theorem AllLiteralsConform.each
    {catalog : Catalog}
    {clauses : List Clause}
    (literals : AllLiteralsConform catalog clauses) :
    ∀ clause ∈ clauses, clause.LiteralsConform catalog := by
  induction clauses with
  | nil => exact fun _ absurd => nomatch absurd
  | cons first rest inductionHypothesis =>
      exact List.forall_mem_cons.mpr ⟨literals.1, inductionHypothesis literals.2⟩

end Clause

variable {catalog : Catalog} {scope : List Parameter}

namespace Expression

variable {source operand expression : Expression}

/-! ## Rules of binding -/

private theorem bindMember_sound
    {member : String}
    (sound : Sound catalog scope source)
    (bound : bindMember catalog source member = .ok expression) :
    Sound catalog scope expression := by
  obtain ⟨_, _, structured, declared, rfl⟩ := bindMember_eq_ok bound
  exact sound.read structured declared

private theorem bindCall_sound
    {name : String}
    {arguments : List Expression}
    (conservative : catalog.conversions.Conservative)
    (sound : ∀ argument ∈ arguments, Sound catalog scope argument)
    (bound : bindCall catalog name arguments = .ok expression) :
    Sound catalog scope expression := by
  obtain ⟨_, _, resolved, rfl⟩ := bindCall_eq_ok bound
  obtain ⟨overload, accepted⟩ := Signature.resolve_spec resolved
  exact Sound.call conservative overload sound (List.forall₂_map_right_iff.mp accepted)

private theorem bindCast_sound
    {target : DataType}
    (conservative : catalog.conversions.Conservative)
    (sound : Sound catalog scope operand)
    (bound : bindCast catalog target operand = .ok expression) :
    Sound catalog scope expression := by
  cases castRule_of_bind bound with
  | absent => exact Sound.of_constant .absent
  | convert _ allowed => exact sound.convert conservative allowed

private theorem bindQuantified_sound
    {quantifier : Quantifier}
    {name : String}
    {element : ValueType}
    {body : Expression}
    (conservative : catalog.conversions.Conservative)
    (sound : Sound catalog scope source)
    (collected : source.data.element? = some element)
    (bodySound : Sound catalog (⟨name, element⟩ :: scope) body)
    (bound : bindQuantified quantifier source ⟨name, element⟩ body = .ok expression) :
    Sound catalog scope expression := by
  obtain ⟨truthLike, rfl⟩ := bindQuantified_eq_ok bound
  exact sound.quantified quantifier collected
    (bodySound.promote conservative (isTruthLike_accepts truthLike))
    (data_promote body .bool)

end Expression

/-! ## Clauses -/

/-- Whatever a clause is bound to is sound in the scope it is bound in. -/
theorem Clause.Binds.sound
    {clause : Clause}
    {expression : Expression}
    (conservative : catalog.conversions.Conservative)
    (binds : Binds catalog scope clause expression)
    (literals : clause.LiteralsConform catalog) :
    Expression.Sound catalog scope expression := by
  induction binds with
  | literal value type => exact Expression.Sound.of_constant literals
  | reference found => exact Expression.Sound.of_parameter found
  | member _ bound sourceSound => exact Expression.bindMember_sound (sourceSound literals) bound
  | binary _ _ bound leftSound rightSound =>
      exact Expression.bindBinary_sound conservative (leftSound literals.1) (rightSound literals.2)
        bound
  | unary _ bound operandSound =>
      exact Expression.bindUnary_sound conservative (operandSound literals) bound
  | call paired _ bound argumentsSound =>
      refine Expression.bindCall_sound conservative ?_ bound
      intro boundArgument isBound
      obtain ⟨argument, isArgument, isPaired⟩ := exists_paired paired isBound
      exact argumentsSound argument boundArgument isPaired
        (AllLiteralsConform.each literals argument isArgument)
  | cast _ bound operandSound =>
      exact Expression.bindCast_sound conservative (operandSound literals) bound
  | quantified _ collected _ bound sourceSound bodySound =>
      exact Expression.bindQuantified_sound conservative (sourceSound literals.1) collected
        (bodySound literals.2) bound
  | count _ collected sourceSound => exact (sourceSound literals).count collected
  | countWhere _ collected _ isTruth sourceSound conditionSound =>
      exact (sourceSound literals.1).countWhere collected (conditionSound literals.2) isTruth

/-! ## Filters -/

namespace FilterClause

/-- A filter that binds in a fresh context decides every conforming element: its
predicate has a truth value, never an absent one, or fails because of a division
by zero, an overflow, or a length or position that 32 bits do not hold. -/
theorem predicate_decides
    {filter : FilterClause}
    {elementType : DataType}
    {configuration : Configuration}
    {predicate : Predicate}
    {value : Value}
    (conservative : catalog.conversions.Conservative)
    (literals : filter.condition.LiteralsConform catalog)
    (bound : filter.bindIn (.start catalog elementType configuration) = .ok predicate)
    (conforms : value.Conforms catalog (.required elementType)) :
    (∃ decision, predicate.lambda.apply value = .ok (.bool decision))
      ∨ ∃ failure, predicate.lambda.apply value = .error failure ∧ failure.IsNumeric := by
  obtain ⟨condition, binds, isGuarded, isTruth⟩ := bindIn_eq_ok bound
  have sound := binds.sound conservative literals
  have conform : Bindings.Conform catalog [⟨filter.rangeVariable, .required elementType⟩]
      (Bindings.push [] filter.rangeVariable value) :=
    (Bindings.Conform.of_empty []).push conforms
  have decides := sound.guardCondition isTruth conform
  rw [Lambda.apply, isGuarded]
  cases outcome : condition.guardCondition.evaluate
      (Bindings.push [] filter.rangeVariable value) with
  | ok result =>
      obtain ⟨decision, rfl⟩ := decides.of_ok outcome
      exact .inl ⟨decision, rfl⟩
  | error failure =>
      rw [outcome] at decides
      exact .inr ⟨failure, rfl, decides⟩

/-- Products of which the price may be missing, under standard conversions. -/
def productCatalog : Catalog where
  types := [("Product", ⟨"Product", [⟨"price", .int32, true⟩], []⟩)]
  enumerations := []
  conversions := .standard

/-- Products two of which cost more than ten. -/
def pairOverTen : FilterClause where
  condition :=
    .binary (.comparison .gt)
      (.binary (.arithmetic .add)
        (.member (.reference "item") "price") (.member (.reference "item") "price"))
      (.literal (.int64 10) (.required .int64))
  rangeVariable := "item"

/-- A product conforms if its price does; one without a price has an absent one. -/
theorem product_conforms
    {members : Record}
    (price : (Record.read members "price").Conforms productCatalog (.optional .int32)) :
    (Value.record members).Conforms productCatalog (.required (.structured "Product")) := by
  apply Value.Conforms.record
  intro member definition declared
  by_cases isPrice : member = "price"
  · subst isPrice
    obtain rfl := Option.some.inj declared
    exact price
  · simp [Catalog.member?, Catalog.type?, productCatalog, Table.find?, StructuredType.member?,
      Ne.symm isPrice] at declared

theorem pairOverTen_literals : pairOverTen.condition.LiteralsConform productCatalog :=
  ⟨⟨trivial, trivial⟩, .single rfl⟩

private theorem pairOverTen_binds :
    ∃ predicate,
      pairOverTen.bindIn (.start productCatalog (.structured "Product") {}) = .ok predicate :=
  ⟨_, rfl⟩

theorem predicate_decides_pairOverTen :
    productCatalog.conversions.Conservative
      ∧ pairOverTen.condition.LiteralsConform productCatalog
      ∧ ∃ predicate,
        pairOverTen.bindIn (.start productCatalog (.structured "Product") {}) = .ok predicate
          ∧ ((∃ decision, predicate.lambda.apply (.record []) = .ok (.bool decision))
            ∨ ∃ failure, predicate.lambda.apply (.record []) = .error failure
              ∧ failure.IsNumeric) := by
  have conservative : productCatalog.conversions.Conservative :=
    ConversionTable.standard_conservative
  obtain ⟨predicate, bound⟩ := pairOverTen_binds
  exact ⟨conservative, pairOverTen_literals, predicate, bound,
    predicate_decides conservative pairOverTen_literals bound (product_conforms .absent)⟩

end FilterClause

end ClauseBinding
