import ClauseBinding.Proofs.Calendar.Instant
import ClauseBinding.Proofs.Text.Unicode

/-!
Contract: the order of values as a total order on each type.

Owns:
- which values are compared: those of one type, not-a-number apart;
- that values are alike in the order exactly if they are equal;
- with that, that the order is total on each type, and what it is on texts, dates and moments.

Does not own: rows, and the places of absent values among others.

Equality is defined apart from the order. The two meet type by type: numbers, texts and dates
are known by their place in the order, and equality of moments forgets offsets as the order
does.
-/

namespace ClauseBinding.Value

open ClauseBinding.Calendar
open ClauseBinding.Number

variable {left right : Value}

/-! ## Where values are compared -/

theorem Compares.dataType?
    {ordering : Ordering}
    (compares : Compares left right ordering) :
    ∃ data, left.dataType? = some data ∧ right.dataType? = some data := by
  cases compares <;> exact ⟨_, rfl, rfl⟩

/-- Values are compared exactly if they are of one type and neither is not-a-number. -/
theorem isSome_compare?_iff :
    (left.compare? right).isSome = true ↔
      (∃ data, left.dataType? = some data ∧ right.dataType? = some data)
        ∧ ¬ left.IsNotANumber
        ∧ ¬ right.IsNotANumber := by
  rw [Option.isSome_iff_exists]
  constructor
  · rintro ⟨ordering, compared⟩
    refine ⟨(compare?_eq_some_iff.mp compared).dataType?, fun leftUnordered => ?_,
      fun rightUnordered => ?_⟩
    · rw [compare?_of_notANumber leftUnordered right] at compared
      cases compared
    · rw [compare?_swap, compare?_of_notANumber rightUnordered left] at compared
      cases compared
  · rintro ⟨⟨data, leftOwn, rightOwn⟩, leftNumber, rightNumber⟩
    exact exists_compare? leftOwn rightOwn leftNumber rightNumber

/-! ## Order and equality -/

/-- Of two values that are compared, those alike are equal and no others. -/
theorem Compares.eq_iff_equal
    {ordering : Ordering}
    (compares : Compares left right ordering) : ordering = .eq ↔ left.equal right = true := by
  cases compares with
  | int32 left right =>
      rw [compare_eq_iff_eq, Int32.toInt_inj]
      simp [equal]
  | int64 left right =>
      rw [compare_eq_iff_eq, Int64.toInt_inj]
      simp [equal]
  | float32 leftHas rightHas =>
      simp [equal, Single.equal, Single.compare?, leftHas, rightHas]
  | float64 leftHas rightHas =>
      simp [equal, Double.equal, Double.compare?, leftHas, rightHas]
  | bool left right =>
      cases left <;> cases right <;> decide
  | string left right =>
      rw [compare_eq_iff_eq]
      simp [equal]
  | date left right =>
      rw [Date.compare_eq_eq_iff]
      simp [equal]
  | moment left right =>
      simp [equal, Moment.equal, Moment.compare, Ordering.then_eq_eq, Fin.val_inj]
  | enumeration typeName left right =>
      rw [compare_eq_iff_eq, Int64.toInt_inj]
      simp [equal]

/-! ## Texts, dates and moments -/

/-- Texts are in the order of their code points, which is that of their bytes. -/
theorem string_compare?_eq_lt_iff (left right : String) :
    ((Value.string left).compare? (.string right) = some .lt ↔
        Text.codePoints left < Text.codePoints right)
      ∧ ((Value.string left).compare? (.string right) = some .lt ↔
        Text.bytes left < Text.bytes right) :=
  ⟨Option.some_inj.trans Text.compare_eq_lt_iff_codePoints,
    Option.some_inj.trans Text.compare_eq_lt_iff_bytes⟩

/-- Dates are in the order of the calendar: of two years the earlier is first, of two months
of a year, of two days of a month; and the later date is reached day by day. -/
theorem date_compare?_eq_lt_iff (left right : Date) :
    ((Value.date left).compare? (.date right) = some .lt ↔
        left.year < right.year
          ∨ left.year = right.year ∧
            (left.month < right.month ∨ left.month = right.month ∧ left.day < right.day))
      ∧ ((Value.date left).compare? (.date right) = some .lt ↔
        Relation.TransGen (fun day after : Date => day.next? = some after) left right) :=
  ⟨Option.some_inj.trans Date.compare_eq_lt_iff,
    Option.some_inj.trans Date.compare_eq_lt_iff_reaches⟩

/-- Moments are ordered and equated by their clocks of universal time. -/
theorem moment_compare?_eq_of_clocks
    {left right : Moment}
    {leftDate rightDate : Date}
    {leftSecond rightSecond : Nat}
    (leftClock : left.UniversalClock leftDate leftSecond)
    (rightClock : right.UniversalClock rightDate rightSecond) :
    (Value.moment left).compare? (.moment right) =
        some ((leftDate.compare rightDate).then
          ((compare leftSecond rightSecond).then
            (compare left.fraction.val right.fraction.val)))
      ∧ ((Value.moment left).equal (.moment right) = true ↔
        leftDate = rightDate ∧ leftSecond = rightSecond ∧ left.fraction = right.fraction) :=
  ⟨congrArg some (Moment.compare_eq_of_clocks leftClock rightClock),
    Moment.equal_iff_of_clocks leftClock rightClock⟩

/-! ## The order -/

/-- What holds of the order of any values. Two are compared exactly if they are of one type
and neither is not-a-number, which only floating numbers can be, and then they are alike
exactly if they are equal; the other way round the outcome is the opposite, and values in
order are so transitively. Texts are in the order of their code points, dates in that of the
calendar, and moments, all of which within the calendar have a clock of universal time, in
that of their universal times, offsets apart. -/
theorem order_total_on_each_type (first second third : Value) :
    ((first.compare? second).isSome = true ↔
        (∃ data, first.dataType? = some data ∧ second.dataType? = some data)
          ∧ ¬ first.IsNotANumber
          ∧ ¬ second.IsNotANumber)
      ∧ second.compare? first = (first.compare? second).map Ordering.swap
      ∧ (first.AtMost second → second.AtMost third → first.AtMost third)
      ∧ (∀ ordering, first.compare? second = some ordering →
        (ordering = .eq ↔ first.equal second = true))
      ∧ (∀ left right : String,
        ((Value.string left).compare? (.string right) = some .lt ↔
            Text.codePoints left < Text.codePoints right)
          ∧ ((Value.string left).compare? (.string right) = some .lt ↔
            Text.bytes left < Text.bytes right))
      ∧ (∀ left right : Date,
        ((Value.date left).compare? (.date right) = some .lt ↔
            left.year < right.year
              ∨ left.year = right.year ∧
                (left.month < right.month ∨ left.month = right.month ∧ left.day < right.day))
          ∧ ((Value.date left).compare? (.date right) = some .lt ↔
            Relation.TransGen (fun day after : Date => day.next? = some after) left right))
      ∧ (∀ moment : Moment, moment.hasUniversalDate = true ↔
        ∃ date second, moment.UniversalClock date second)
      ∧ ∀ (left right : Moment) (leftDate rightDate : Date) (leftSecond rightSecond : Nat),
        left.UniversalClock leftDate leftSecond → right.UniversalClock rightDate rightSecond →
          (Value.moment left).compare? (.moment right) =
              some ((leftDate.compare rightDate).then
                ((compare leftSecond rightSecond).then
                  (compare left.fraction.val right.fraction.val)))
            ∧ ((Value.moment left).equal (.moment right) = true ↔
              leftDate = rightDate ∧ leftSecond = rightSecond ∧ left.fraction = right.fraction) :=
  ⟨isSome_compare?_iff, compare?_swap first second, AtMost.trans,
    fun _ compared => (compare?_eq_some_iff.mp compared).eq_iff_equal,
    string_compare?_eq_lt_iff, date_compare?_eq_lt_iff, fun _ => Moment.hasUniversalDate_iff,
    fun _ _ _ _ _ _ => moment_compare?_eq_of_clocks⟩

/-- A leap second is one instant at either offset, on either side of midnight, and comes
before the next day. -/
theorem order_total_on_each_type_leapSecond :
    let evening : Moment :=
      ⟨⟨2016, 12, 31, by decide⟩, 86399, 1500000000, 0, by decide⟩
    let night : Moment :=
      ⟨⟨2017, 1, 1, by decide⟩, 7199, 1500000000, 7200, by decide⟩
    let newYear : Moment :=
      ⟨⟨2016, 12, 31, by decide⟩, 82800, 0, -3600, by decide⟩
    (Value.moment evening).equal (.moment night) = true
      ∧ (Value.moment night).compare? (.moment newYear) = some .lt
      ∧ (Value.moment evening).AtMost (.moment newYear)
      ∧ (Value.date ⟨-44, 3, 15, by decide⟩).compare? (.date ⟨14, 8, 19, by decide⟩) =
        some .lt := by
  intro evening night newYear
  have eveningClock : evening.UniversalClock ⟨2016, 12, 31, by decide⟩ 86399 :=
    .sameDay (by decide) (by decide)
  have nightClock : night.UniversalClock ⟨2016, 12, 31, by decide⟩ 86399 :=
    .dayBefore (by decide) (by decide) (by decide)
  have newYearClock : newYear.UniversalClock ⟨2017, 1, 1, by decide⟩ 0 :=
    .dayAfter (by decide) (by decide) (by decide)
  obtain ⟨_, _, transitive, alike, _, dates, _, moments⟩ :=
    order_total_on_each_type (.moment evening) (.moment night) (.moment newYear)
  have same := (moments _ _ _ _ _ _ eveningClock nightClock).2.mpr ⟨rfl, rfl, rfl⟩
  have compared := (moments _ _ _ _ _ _ eveningClock nightClock).1
  have before := (moments _ _ _ _ _ _ nightClock newYearClock).1
  have first := (alike _ compared).mpr same
  exact ⟨same, before, transitive ⟨_, compared, by rw [first]; rfl⟩ ⟨_, before, rfl⟩,
    (dates _ _).1.mpr (.inl (by decide))⟩

end ClauseBinding.Value
