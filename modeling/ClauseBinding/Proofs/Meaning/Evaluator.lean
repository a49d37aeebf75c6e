import ClauseBinding.Proofs.Calendar.Day
import ClauseBinding.Proofs.Data.Table
import ClauseBinding.Proofs.Evaluation.Operations
import ClauseBinding.Proofs.Meaning.Tables

/-!
Contract: clauses are evaluated with operators that follow the tables of their meaning.

Owns: for each operator on values, and for quantifiers and counts, the equation between what
is computed and what the tables say.

Does not own: the operands, and functions.

All equations hold of any values, but that for flags, which is about values of enumerations.
-/

namespace ClauseBinding

open ClauseBinding.Calendar
open ClauseBinding.Number
open ClauseBinding.Outcome

/-! ## Comparisons -/

namespace Comparison

/-- A comparison looked up by the outcome of an order is the one asked of the order. -/
private theorem holds_eq_relates
    {α : Type}
    [DecidableEq α]
    [LT α]
    [DecidableLT α]
    (operator : Comparison)
    {ordering : Ordering}
    {left right : α}
    (less : ordering = .lt ↔ left < right)
    (same : ordering = .eq ↔ left = right)
    (greater : ordering = .gt ↔ right < left) :
    operator.holds ordering = operator.relates left right := by
  cases operator <;> simp only [holds, relates, ne_eq, ← less, ← same, ← greater] <;>
    cases ordering <;> rfl

private theorem holds_compare
    {α : Type}
    [LinearOrder α]
    (operator : Comparison)
    (left right : α) :
    operator.holds (compare left right) = operator.relates left right :=
  operator.holds_eq_relates compare_lt_iff_lt compare_eq_iff_eq compare_gt_iff_gt

/-- Instants are in the order of their seconds and fractions, one after the other. -/
private theorem holds_compare_moments
    (operator : Comparison)
    (left right : Moment) :
    operator.holds (left.compare right) =
      operator.relates [left.universalSecond, (left.fraction.val : Int)]
        [right.universalSecond, (right.fraction.val : Int)] := by
  apply operator.holds_eq_relates
  · simp [Moment.compare, Ordering.then_eq_lt, compare_lt_iff_lt, List.cons_lt_cons_iff]
  · simp [Moment.compare, Ordering.then_eq_eq]
  · simp only [Moment.compare, Ordering.then_eq_gt, compare_gt_iff_gt, compare_eq_iff_eq,
      List.cons_lt_cons_iff, Int.ofNat_lt]
    simp [eq_comm]

/-- Values that have an order are compared by it. -/
private theorem holds_eq_onPresent
    (operator : Comparison)
    {left right : Value}
    {ordering : Ordering}
    (compares : Value.Compares left right ordering) :
    operator.holds ordering = operator.onPresent left right := by
  cases compares with
  | int32 | int64 | string => exact operator.holds_compare _ _
  | bool left right => cases operator <;> cases left <;> cases right <;> rfl
  | float32 leftHas rightHas | float64 leftHas rightHas =>
      rw [onPresent, onPatterns, leftHas, rightHas]
      exact operator.holds_compare _ _
  | date left right =>
      rw [Date.compare_eq_compare_dayNumber]
      exact operator.holds_compare _ _
  | moment left right => exact operator.holds_compare_moments left right
  | enumeration typeName left right =>
      rw [onPresent, if_pos rfl]
      exact operator.holds_compare _ _

/-- Values that have none are unequal, and nothing else. -/
private theorem onPresent_of_unordered
    (operator : Comparison)
    {left right : Value}
    (unordered : left.compare? right = none) :
    operator.onPresent left right = (operator == .ne) := by
  fun_cases onPresent operator left right with
  | case4 left right | case5 left right =>
      unfold onPatterns
      split
      case h_1 leftHas rightHas =>
        simp [Value.compare?, Single.compare?, Double.compare?, leftHas, rightHas] at unordered
      case h_2 => rfl
  | case9 left typeName right => simp [Value.compare?] at unordered
  | case10 | case11 => rfl
  | _ => cases unordered

theorem apply_eq_onOperands
    (operator : Comparison)
    (left right : Value) : operator.apply left right = operator.onOperands left right := by
  fun_cases onOperands operator left right with
  | case1 => rfl
  | case2 => simp [apply, Value.isNull]
  | case3 left right leftPresent rightPresent =>
      have present : (left.isNull || right.isNull) = false := by
        rw [Bool.or_eq_false_iff]
        exact ⟨Bool.eq_false_iff.mpr (mt Value.isNull_iff.mp leftPresent),
          Bool.eq_false_iff.mpr (mt Value.isNull_iff.mp rightPresent)⟩
      simp only [apply, present, Bool.false_eq_true, if_false]
      split
      case h_1 ordering compared =>
        rw [operator.holds_eq_onPresent (Value.compare?_eq_some_iff.mp compared)]
      case h_2 unordered => rw [operator.onPresent_of_unordered unordered]

/-- Beside an absent literal equality is a test for absence, and inequality its opposite. -/
theorem isNull_eq_onAbsence
    {operator : Comparison}
    (equality : operator.needsOrder = false)
    (left right : Value) :
    Value.bool ((left.isNull && right.isNull) != (operator == .ne)) =
      operator.onAbsence left right := by
  fun_cases onAbsence operator left right with
  | case1 => cases operator <;> first | rfl | cases equality
  | case2 left right someValue =>
      have present : (left.isNull && right.isNull) = false := by
        rw [Bool.and_eq_false_iff, Bool.eq_false_iff, Bool.eq_false_iff, ne_eq, ne_eq,
          Value.isNull_iff, Value.isNull_iff, ← not_and_or]
        exact fun absent => someValue absent.1 absent.2
      rw [present]
      cases operator <;> rfl

end Comparison

/-! ## Arithmetic -/

namespace Arithmetic

variable {operator : Arithmetic} {width : Width} {left right : Int}

private theorem number_eq_exact
    (operator : Arithmetic)
    (left right : Int) : operator.number left right = operator.exact left right := by
  cases operator with
  | mod =>
      have divides := Int.mul_tdiv_add_tmod left right
      simp only [number, exact]
      omega
  | _ => rfl

/-- What the tables say of whole numbers is the answer of their width, if a remainder has a
quotient that fits. -/
private theorem answers_inWidth
    (quotient : operator = .mod → Width.whole64.Holds (left.tdiv right)) :
    operator.Answers width left right (operator.inWidth width left right) := by
  unfold inWidth
  split
  case isTrue zero => exact .divisionByZero zero.1 zero.2
  case isFalse noZero =>
    have yields : operator.Yields left right (operator.number left right) := by
      rw [number_eq_exact]
      exact yields_exact (Bool.eq_false_iff.mpr (mt dividesByZero_iff.mp noZero))
    split
    case isTrue fits => exact .fits yields fits.1
    case isFalse beyond => exact .overflows yields fun holds => beyond ⟨holds, quotient⟩

private theorem apply_int32 (left right : Int32) :
    operator.apply (.int32 left) (.int32 right) =
      operator.inWidth .whole32 left.toInt right.toInt := by
  apply (apply_int32_answers left right).unique
  apply answers_inWidth
  intro _
  have leftHolds := Width.whole32_holds left
  apply whole64_holds_tdiv (Width.wider leftHolds)
  rw [Width.whole32_holds_iff] at leftHolds
  omega

private theorem apply_int64 (left right : Int64) :
    operator.apply (.int64 left) (.int64 right) =
      operator.inWidth .whole64 left.toInt right.toInt := by
  by_cases exception : operator = .mod ∧ left = Int64.minValue ∧ right = -1
  · obtain ⟨rfl, rfl, rfl⟩ := exception
    rfl
  · apply (apply_int64_answers exception).unique
    apply answers_inWidth
    rintro rfl
    apply whole64_holds_tdiv (Width.whole64_holds left)
    rintro ⟨least, minusOne⟩
    exact exception ⟨rfl, Int64.toInt_inj.mp least, Int64.toInt_inj.mp minusOne⟩

private theorem inFormat_eq_onSingle
    (operator : Arithmetic)
    (left right : Float32) :
    operator.inFormat Number.Single.remainder left right = operator.onSingle left right := by
  cases operator <;> rfl

private theorem inFormat_eq_onDouble
    (operator : Arithmetic)
    (left right : Float) :
    operator.inFormat Number.Double.remainder left right = operator.onDouble left right := by
  cases operator <;> rfl

theorem apply_eq_onOperands
    (operator : Arithmetic)
    (left right : Value) : operator.apply left right = operator.onOperands left right := by
  fun_cases onOperands operator left right with
  | case1 => rfl
  | case2 => exact apply_null operator left
  | case3 left right => exact apply_int32 left right
  | case4 left right => exact apply_int64 left right
  | case5 left right => rw [inFormat_eq_onSingle, apply]
  | case6 left right => rw [inFormat_eq_onDouble, apply]
  | case7 => rw [apply] <;> assumption

end Arithmetic

/-! ## Operators of one operand -/

/-- The least number of a width is the one that has no opposite. -/
private theorem Width.opposite_eq
    {width : Width}
    {number : Int}
    (uneven : width.greatest = -width.least - 1)
    (holds : width.Holds number) :
    width.opposite number =
      if number = width.least then .error (.evaluation (.overflow "-"))
      else .ok (width.value (-number)) := by
  have fits : width.Holds (-number) ↔ ¬ number = width.least := by
    unfold Width.Holds at holds ⊢
    omega
  simp only [opposite, fits, ite_not]
  rfl

namespace UnaryOperator

theorem complement_eq_onOperand (operand : Value) :
    operand.complement = UnaryOperator.not.onOperand operand := by
  cases operand with
  | bool truth => cases truth <;> rfl
  | _ => rfl

theorem negate_eq_onOperand (operand : Value) :
    operand.negate = UnaryOperator.negate.onOperand operand := by
  cases operand with
  | int32 number =>
      rw [Value.negate_int32, ← Width.opposite_eq rfl (Width.whole32_holds number)]
      rfl
  | int64 number =>
      rw [Value.negate_int64, ← Width.opposite_eq rfl (Width.whole64_holds number)]
      rfl
  | bool truth => cases truth <;> rfl
  | _ => rfl

end UnaryOperator

/-! ## Truth values -/

namespace Value

private theorem truth?_eq_known (value : Value) : value.truth? = value.known := by
  cases value <;> rfl

private theorem ofTruth?_eq_ofKnown (truth? : Option Bool) : ofTruth? truth? = ofKnown truth? := by
  cases truth? <;> rfl

theorem truth_eq_condition (value : Value) : value.truth = value.condition := by
  cases value <;> rfl

end Value

namespace Connective

private theorem isDecidedBy_iff
    {operator : Connective}
    {left : Option Bool} : operator.isDecidedBy left = true ↔ left = some operator.deciding := by
  cases operator <;> rcases left with _ | _ | _ <;> decide

/-- Where the left operand does not decide, the evaluator follows the tables. -/
theorem combine_eq_kleene
    (operator : Connective)
    {left : Option Bool}
    (right : Option Bool)
    (undecided : left ≠ some operator.deciding) :
    operator.combine left right = operator.kleene left right := by
  cases operator <;> rcases left with _ | _ | _ <;> rcases right with _ | _ | _ <;>
    first | rfl | exact absurd rfl undecided

/-- A connective by its table, with the operand that decides it. -/
theorem onOutcomes_eq
    (operator : Connective)
    (left right : Except Failure Value) :
    operator.onOutcomes left right =
      (do
        let left ← left
        let left ← left.truth?
        if left = some operator.deciding then pure (.bool operator.deciding)
        else do
          let right ← right
          let right ← right.truth?
          pure (Value.ofTruth? (operator.kleene left right))) := by
  simp only [onOutcomes, isDecidedBy_iff, Value.truth?_eq_known, Value.ofTruth?_eq_ofKnown]
  apply bind_congr_of_ok
  intro leftValue _
  apply bind_congr_of_ok
  intro leftKnown _
  split
  case isTrue decided => rw [decided, Value.ofKnown]
  case isFalse => rfl

end Connective

/-! ## Flags -/

/-- A value that is left as it is under the mask of some flags has each of their bits. -/
theorem Value.hasFlags_eq_includesFlags
    (typeName flagsName : String)
    (number flags : Int64) :
    (Value.enumeration typeName number).hasFlags (.enumeration flagsName flags) =
      (Value.enumeration typeName number).includesFlags (.enumeration flagsName flags) := by
  apply congrArg Value.bool
  rw [Bool.eq_iff_iff, beq_iff_eq, ← Int64.toBitVec_inj, Int64.toBitVec_and,
    BitVec.eq_of_getLsbD_eq_iff]
  simp only [BitVec.getLsbD_and, List.all_eq_true, List.mem_range, decide_eq_true_eq,
    Bool.and_eq_right_iff_imp]

/-! ## Members and items -/

namespace Value

theorem member_eq_readMember
    {value : Value}
    (name : String)
    (present : value.isNull = false) : value.member name = value.readMember name := by
  cases value with
  | null => cases present
  | record members => rw [member, readMember, Record.read, Table.find?_eq_lookup]
  | _ => rfl

theorem ofCount_eq_itemCount (count : Nat) : ofCount count = itemCount count := by
  have sameBound : count ≤ Int64.maxValue.toInt.toNat ↔ Width.whole64.Holds count := by
    have most : Int64.maxValue.toInt.toNat = 9223372036854775807 := rfl
    rw [Width.whole64_holds_iff]
    omega
  simp only [ofCount, itemCount, sameBound]
  rfl

end Value

/-- The items up to the first that settles the matter are those that are looked at. -/
theorem Quantifier.test_eq_onOutcomes
    (quantifier : Quantifier)
    (holds : Value → Except Failure Bool)
    (items : List Value) :
    (quantifier.test holds items >>= fun held => .ok (.bool held)) =
      quantifier.onOutcomes (items.map holds) := by
  induction items with
  | nil => cases quantifier <;> rfl
  | cons item rest inductionHypothesis =>
      rw [test, onOutcomes, List.map_cons, bind_assoc]
      cases outcome : holds item with
      | error failure => cases quantifier <;> rfl
      | ok held =>
          rw [onOutcomes] at inductionHypothesis
          cases quantifier <;> cases held
          all_goals first | rfl | exact inductionHypothesis

/-- As many conditions hold as are counted. -/
theorem countHolding_eq_countOf
    (holds : Value → Except Failure Bool)
    (items : List Value) :
    (countHolding holds items >>= Value.ofCount) = Value.countOf (items.map holds) := by
  have counted : countHolding holds items =
      all (items.map holds) >>= fun held => .ok (held.count true) := by
    induction items with
    | nil => rfl
    | cons item rest inductionHypothesis =>
        rw [countHolding, inductionHypothesis, List.map_cons, all]
        cases holds item with
        | error failure => rfl
        | ok held =>
            cases all (rest.map holds) with
            | error failure => rfl
            | ok others => cases held <;> simp
  rw [counted, Value.countOf, bind_assoc]
  apply bind_congr_of_ok
  intro held _
  exact Value.ofCount_eq_itemCount _

end ClauseBinding
