import Mathlib.Data.String.Basic
import Mathlib.Order.Compare
import ClauseBinding.Data.Comparison
import ClauseBinding.Proofs.Data.Conformance

/-!
Contract: the order of values.

Owns:
- the comparison of two values, by cases;
- that a comparison the other way round has the opposite outcome, and that values in
  order are in order transitively, the first alike to the last only if all are;
- values among which the order is a total preorder: those of one type, not-a-number
  apart, which compares with nothing.

Does not own: which values are compared, and absent values.
-/

namespace ClauseBinding

open ClauseBinding.Calendar
open ClauseBinding.Number

/-! ## Days and moments -/

private theorem Calendar.Date.compare_eq_compareLex :
    Date.compare =
      compareLex (compareOn Date.year) (compareLex (compareOn Date.month) (compareOn Date.day)) :=
  rfl

private theorem Calendar.Moment.compare_eq_compareLex :
    Moment.compare =
      compareLex (compareOn Moment.universalSecond) (compareOn fun moment => moment.fraction.val) :=
  rfl

instance : Std.TransCmp Date.compare := by
  rw [Date.compare_eq_compareLex]
  infer_instance

instance : Std.TransCmp Moment.compare := by
  rw [Moment.compare_eq_compareLex]
  infer_instance

/-! ## Numbers -/

/-- A pattern has a place in numeric order unless it is not-a-number. -/
theorem Number.Layout.exists_place
    {layout : Layout}
    {pattern : Nat}
    (isNumber : layout.read pattern ≠ .notANumber) :
    ∃ place, layout.place? pattern = some place := by
  by_cases beyond : layout.infinity < layout.magnitude pattern
  · exact absurd (by simp [Layout.read, beyond]) isNumber
  · by_cases negative : layout.isNegative pattern
    · simp [Layout.place?, beyond, negative]
    · simp [Layout.place?, beyond, negative]

/-- Not-a-number has none. -/
theorem Number.Layout.place?_of_notANumber
    {layout : Layout}
    {pattern : Nat}
    (unordered : layout.read pattern = .notANumber) : layout.place? pattern = none := by
  by_cases beyond : layout.infinity < layout.magnitude pattern
  · exact if_pos beyond
  · have isNumber : layout.read pattern ≠ .notANumber := by
      unfold read
      simp only [if_neg beyond]
      split
      · exact nofun
      · split <;> exact nofun
    exact absurd unordered isNumber

namespace Value

def IsNotANumber : Value → Prop
  | .float32 value => Single.reading value = .notANumber
  | .float64 value => Double.reading value = .notANumber
  | _ => False

/-! ## Comparisons -/

/-- The outcome of the comparison of two values that have an order. -/
inductive Compares : Value → Value → Ordering → Prop where
  | int32 (left right : Int32) :
      Compares (.int32 left) (.int32 right) (compare left.toInt right.toInt)
  | int64 (left right : Int64) :
      Compares (.int64 left) (.int64 right) (compare left.toInt right.toInt)
  | float32 {left right : Float32} {leftPlace rightPlace : Int}
      (leftHas : Layout.single.place? left.toBits.toNat = some leftPlace)
      (rightHas : Layout.single.place? right.toBits.toNat = some rightPlace) :
      Compares (.float32 left) (.float32 right) (compare leftPlace rightPlace)
  | float64 {left right : Float} {leftPlace rightPlace : Int}
      (leftHas : Layout.double.place? left.toBits.toNat = some leftPlace)
      (rightHas : Layout.double.place? right.toBits.toNat = some rightPlace) :
      Compares (.float64 left) (.float64 right) (compare leftPlace rightPlace)
  | bool (left right : Bool) :
      Compares (.bool left) (.bool right) (compare left.toNat right.toNat)
  | string (left right : String) : Compares (.string left) (.string right) (compare left right)
  | date (left right : Date) : Compares (.date left) (.date right) (left.compare right)
  | moment (left right : Moment) : Compares (.moment left) (.moment right) (left.compare right)
  | enumeration (typeName : String) (left right : Int64) :
      Compares (.enumeration typeName left) (.enumeration typeName right)
        (compare left.toInt right.toInt)

theorem compare?_eq_some_iff
    {left right : Value}
    {ordering : Ordering} :
    left.compare? right = some ordering ↔ Compares left right ordering := by
  constructor
  · intro compared
    cases left <;> cases right <;>
      simp only [compare?, Single.compare?, Double.compare?, Option.some.injEq, reduceCtorEq,
        Option.bind_eq_bind, Option.bind_eq_some_iff, Option.pure_def] at compared
    case float32 | float64 =>
      obtain ⟨leftPlace, leftHas, rightPlace, rightHas, rfl⟩ := compared
      constructor <;> assumption
    case enumeration leftType left rightType right =>
      by_cases same : leftType = rightType
      · obtain rfl := same
        obtain rfl : compare left.toInt right.toInt = ordering := by simpa using compared
        exact .enumeration leftType left right
      · simp [same] at compared
    all_goals
      subst compared
      constructor
  · intro compares
    cases compares with
    | float32 leftHas rightHas => simp [compare?, Single.compare?, leftHas, rightHas]
    | float64 leftHas rightHas => simp [compare?, Double.compare?, leftHas, rightHas]
    | _ => simp [compare?]

theorem Compares.swap
    {left right : Value}
    {ordering : Ordering}
    (compares : Compares left right ordering) : Compares right left ordering.swap := by
  cases compares with
  | float32 leftHas rightHas =>
      rw [← Std.OrientedCmp.eq_swap]
      exact .float32 rightHas leftHas
  | float64 leftHas rightHas =>
      rw [← Std.OrientedCmp.eq_swap]
      exact .float64 rightHas leftHas
  | _ =>
      rw [← Std.OrientedCmp.eq_swap]
      constructor

theorem compare?_swap (left right : Value) :
    right.compare? left = (left.compare? right).map Ordering.swap := by
  cases compared : left.compare? right with
  | some ordering =>
      exact compare?_eq_some_iff.mpr (compare?_eq_some_iff.mp compared).swap
  | none =>
      rw [Option.map_none, Option.eq_none_iff_forall_ne_some]
      intro ordering other
      have back := compare?_eq_some_iff.mpr (compare?_eq_some_iff.mp other).swap
      rw [compared] at back
      cases back

def AtMost (left right : Value) : Prop :=
  ∃ ordering, left.compare? right = some ordering ∧ ordering.isLE = true

theorem AtMost.trans
    {first second third : Value}
    (firstLess : first.AtMost second)
    (secondLess : second.AtMost third) : first.AtMost third := by
  obtain ⟨firstOrdering, firstCompared, firstLE⟩ := firstLess
  obtain ⟨secondOrdering, secondCompared, secondLE⟩ := secondLess
  have firstCompares := compare?_eq_some_iff.mp firstCompared
  have secondCompares := compare?_eq_some_iff.mp secondCompared
  have found : ∃ ordering, Compares first third ordering ∧ ordering.isLE = true := by
    cases firstCompares with
    | float32 firstHas middleHas =>
        cases secondCompares with
        | float32 middleHas' thirdHas =>
            obtain rfl := Option.some.inj (middleHas.symm.trans middleHas')
            exact ⟨_, .float32 firstHas thirdHas, Std.TransCmp.isLE_trans firstLE secondLE⟩
    | float64 firstHas middleHas =>
        cases secondCompares with
        | float64 middleHas' thirdHas =>
            obtain rfl := Option.some.inj (middleHas.symm.trans middleHas')
            exact ⟨_, .float64 firstHas thirdHas, Std.TransCmp.isLE_trans firstLE secondLE⟩
    | _ =>
        cases secondCompares
        exact ⟨_, by constructor, Std.TransCmp.isLE_trans firstLE secondLE⟩
  obtain ⟨ordering, compares, isLE⟩ := found
  exact ⟨ordering, compare?_eq_some_iff.mpr compares, isLE⟩

/-- What is greater is not at most. -/
theorem not_atMost_of_gt
    {left right : Value}
    (greater : left.compare? right = some .gt) : ¬ left.AtMost right := by
  rintro ⟨ordering, compared, isLE⟩
  obtain rfl := Option.some.inj (greater.symm.trans compared)
  cases isLE

private theorem compare?_gt_of_lt
    {left right : Value}
    (less : left.compare? right = some .lt) : right.compare? left = some .gt := by
  rw [compare?_swap, less]
  rfl

private theorem atMost_of_eq
    {left right : Value}
    (alike : left.compare? right = some .eq) : left.AtMost right ∧ right.AtMost left := by
  have other : right.compare? left = some .eq := by
    rw [compare?_swap, alike]
    rfl
  exact ⟨⟨.eq, alike, rfl⟩, ⟨.eq, other, rfl⟩⟩

/-- Of three values in order the first is less than the last, or all are alike. -/
theorem compare?_chain
    {first second third : Value}
    (firstAtMost : first.AtMost second)
    (secondAtMost : second.AtMost third) :
    first.compare? third = some .lt
      ∨ first.compare? second = some .eq ∧ second.compare? third = some .eq
        ∧ first.compare? third = some .eq := by
  obtain ⟨ends, endsCompared, endsLE⟩ := firstAtMost.trans secondAtMost
  cases ends with
  | gt => cases endsLE
  | lt => exact .inl endsCompared
  | eq =>
      have back : third.AtMost first := (atMost_of_eq endsCompared).2
      obtain ⟨firstOrdering, firstCompared, firstLE⟩ := id firstAtMost
      obtain ⟨secondOrdering, secondCompared, secondLE⟩ := id secondAtMost
      right
      refine ⟨?_, ?_, endsCompared⟩
      · cases firstOrdering with
        | gt => cases firstLE
        | eq => exact firstCompared
        | lt =>
            have around : second.AtMost first := secondAtMost.trans back
            exact absurd around (not_atMost_of_gt (compare?_gt_of_lt firstCompared))
      · cases secondOrdering with
        | gt => cases secondLE
        | eq => exact secondCompared
        | lt =>
            have around : third.AtMost second := back.trans firstAtMost
            exact absurd around (not_atMost_of_gt (compare?_gt_of_lt secondCompared))

/-! ## Total preorders -/

/-- The order of values is a total preorder among some of them. -/
structure TotallyPreordered (among : Value → Prop) : Prop where
  total : ∀ {left right}, among left → among right → left.AtMost right ∨ right.AtMost left
  transitive : ∀ {first second third}, among first → among second → among third →
    first.AtMost second → second.AtMost third → first.AtMost third

/-- Transitivity holds of all values, so it is enough that any two are compared. -/
theorem totallyPreordered_of_compared
    {among : Value → Prop}
    (compared : ∀ {left right}, among left → among right →
      ∃ ordering, left.compare? right = some ordering) : TotallyPreordered among where
  total leftAmong rightAmong := by
    obtain ⟨ordering, outcome⟩ := compared leftAmong rightAmong
    cases isLE : ordering.isLE with
    | true => exact .inl ⟨ordering, outcome, isLE⟩
    | false =>
        refine .inr ⟨ordering.swap, by rw [compare?_swap, outcome]; rfl, ?_⟩
        cases ordering <;> first | rfl | cases isLE
  transitive _ _ _ := AtMost.trans

theorem TotallyPreordered.compared
    {among : Value → Prop}
    (preordered : TotallyPreordered among)
    {left right : Value}
    (leftAmong : among left)
    (rightAmong : among right) : ∃ ordering, left.compare? right = some ordering := by
  rcases preordered.total leftAmong rightAmong with
    ⟨ordering, outcome, -⟩ | ⟨ordering, outcome, -⟩
  · exact ⟨ordering, outcome⟩
  · exact ⟨ordering.swap, by rw [compare?_swap, outcome]; rfl⟩

theorem TotallyPreordered.mono
    {among fewer : Value → Prop}
    (preordered : TotallyPreordered among)
    (fewerAmong : ∀ {value}, fewer value → among value) : TotallyPreordered fewer :=
  totallyPreordered_of_compared fun left right =>
    preordered.compared (fewerAmong left) (fewerAmong right)

/-- Two values of one type that show it are compared, unless one is not-a-number. -/
theorem exists_compare?
    {left right : Value}
    {data : DataType}
    (leftOwn : left.dataType? = some data)
    (rightOwn : right.dataType? = some data)
    (leftNumber : ¬ left.IsNotANumber)
    (rightNumber : ¬ right.IsNotANumber) :
    ∃ ordering, left.compare? right = some ordering := by
  have leftLooks := looksLike_of_dataType? leftOwn
  have rightLooks := looksLike_of_dataType? rightOwn
  cases data with
  | structured | collection | null => exact leftLooks.elim
  | float32 =>
      obtain ⟨left, rfl⟩ := leftLooks
      obtain ⟨right, rfl⟩ := rightLooks
      obtain ⟨_, leftHas⟩ := Layout.exists_place leftNumber
      obtain ⟨_, rightHas⟩ := Layout.exists_place rightNumber
      exact ⟨_, compare?_eq_some_iff.mpr (.float32 leftHas rightHas)⟩
  | float64 =>
      obtain ⟨left, rfl⟩ := leftLooks
      obtain ⟨right, rfl⟩ := rightLooks
      obtain ⟨_, leftHas⟩ := Layout.exists_place leftNumber
      obtain ⟨_, rightHas⟩ := Layout.exists_place rightNumber
      exact ⟨_, compare?_eq_some_iff.mpr (.float64 leftHas rightHas)⟩
  | _ =>
      obtain ⟨left, rfl⟩ := leftLooks
      obtain ⟨right, rfl⟩ := rightLooks
      exact ⟨_, compare?_eq_some_iff.mpr (by constructor)⟩

/-- Not-a-number compares with nothing. -/
theorem compare?_of_notANumber
    {left : Value}
    (unordered : left.IsNotANumber)
    (right : Value) : left.compare? right = none := by
  rw [Option.eq_none_iff_forall_ne_some]
  intro ordering compared
  cases compare?_eq_some_iff.mp compared with
  | float32 leftHas _ | float64 leftHas _ =>
      have noPlace := Number.Layout.place?_of_notANumber unordered
      rw [noPlace] at leftHas
      cases leftHas
  | _ => exact unordered

end Value

end ClauseBinding
