import Mathlib.Logic.Relation
import Mathlib.Order.Monotone.Basic
import Mathlib.Tactic.IntervalCases
import ClauseBinding.Proofs.Calendar.Date
import ClauseBinding.Proofs.Data.Order

/-!
Contract: days of the calendar in succession.

Owns:
- the day after a date, by the lengths of months;
- that the count of days goes up by one from each day to the next;
- that dates are in the order of the calendar as they are in the count, and that a date
  comes before another if it is reached from it day by day.

Does not own: times of day.

The count is a sum over months: years begin in March there, so that a month starts where
the one before it ends, the leap day included. Months are numbered through from March of
year zero for that, which puts dates of different months in order at once.
-/

namespace ClauseBinding.Calendar

namespace Date

variable {first second : Date}

/-! ## Months -/

/-- The number of the month of a date, counted from March of year zero. -/
def monthNumber
    (year : Int)
    (month : Nat) : Int :=
  12 * year + month - 3

/-- The number of the first day of a month in the count of days. -/
def monthStart (number : Int) : Int :=
  daysBeforeYear (number / 12) + (153 * (number % 12) + 2) / 5

theorem month_pos (date : Date) : 1 ≤ date.month := by
  obtain ⟨-, -, atLeast, atMost⟩ := date.isDate
  by_contra none
  have noDays : monthLength date.year date.month = 0 := by
    rw [show date.month = 0 by omega]
    rfl
  omega

theorem month_le_twelve (date : Date) : date.month ≤ 12 :=
  month_le (Nat.le_trans date.isDate.2.2.1 date.isDate.2.2.2)

private theorem dayNumber_eq (date : Date) :
    date.dayNumber = monthStart (monthNumber date.year date.month) + (date.day - 1) := by
  have atLeast := date.month_pos
  have atMost := date.month_le_twelve
  unfold dayNumber monthStart monthNumber
  dsimp only
  split
  case isTrue early =>
    rw [show (12 * date.year + date.month - 3) / 12 = date.year - 1 by omega,
      show (12 * date.year + date.month - 3 : Int) % 12 = date.month + 9 by omega]
  case isFalse late =>
    rw [show (12 * date.year + date.month - 3) / 12 = date.year by omega,
      show (12 * date.year + date.month - 3 : Int) % 12 = date.month - 3 by omega]

/-- A year has one day more than 365 if it is a leap year. -/
theorem daysBeforeYear_eq (year : Int) :
    daysBeforeYear year = daysBeforeYear (year - 1) + if isLeapYear year then 366 else 365 := by
  unfold daysBeforeYear
  split
  case isTrue leap =>
    simp only [isLeapYear, Bool.and_eq_true, Bool.or_eq_true, beq_iff_eq, bne_iff_ne] at leap
    omega
  case isFalse common =>
    simp only [isLeapYear, Bool.and_eq_true, Bool.or_eq_true, beq_iff_eq, bne_iff_ne] at common
    omega

/-- A month starts where the one before it ends. Only with February a year ends, of those
that begin in March. -/
theorem monthStart_succ
    {year : Int}
    {month : Nat}
    (atLeast : 1 ≤ month)
    (atMost : month ≤ 12) :
    monthStart (monthNumber year month + 1) =
      monthStart (monthNumber year month) + monthLength year month := by
  by_cases february : month = 2
  · subst february
    have yearEnds := daysBeforeYear_eq year
    rw [monthStart, monthStart, show (monthNumber year 2 + 1) / 12 = year by
        unfold monthNumber; omega,
      show monthNumber year 2 / 12 = year - 1 by unfold monthNumber; omega,
      show (monthNumber year 2 + 1) % 12 = 0 by unfold monthNumber; omega,
      show monthNumber year 2 % 12 = 11 by unfold monthNumber; omega]
    cases leap : isLeapYear year <;>
      simp only [monthLength, leap, if_true, Bool.false_eq_true, if_false] at yearEnds ⊢ <;>
      omega
  · have sameYear : (monthNumber year month + 1) / 12 = monthNumber year month / 12 := by
      unfold monthNumber
      omega
    rw [monthStart, monthStart, sameYear]
    interval_cases month <;> simp only [monthLength, monthNumber] <;> omega

private theorem monthLength_pos
    {year : Int}
    {month : Nat}
    (atLeast : 1 ≤ month)
    (atMost : month ≤ 12) : 1 ≤ monthLength year month := by
  by_cases february : month = 2
  · subst february
    cases leap : isLeapYear year <;> simp [monthLength, leap]
  · interval_cases month <;> simp only [monthLength] <;> omega

private theorem monthStart_le
    {earlier later : Int}
    (order : earlier ≤ later) : monthStart earlier ≤ monthStart later := by
  apply monotone_int_of_le_succ _ order
  intro number
  -- Any number is that of a month of some year.
  obtain ⟨year, month, atLeast, atMost, rfl⟩ : ∃ (year : Int) (month : Nat),
      1 ≤ month ∧ month ≤ 12 ∧ monthNumber year month = number :=
    ⟨(number + 2) / 12, ((number + 2) % 12 + 1).toNat, by omega, by omega, by
      unfold monthNumber
      omega⟩
  rw [monthStart_succ atLeast atMost]
  omega

/-! ## The count of days -/

/-- A date lies within its month. -/
theorem dayNumber_within (date : Date) :
    monthStart (monthNumber date.year date.month) ≤ date.dayNumber
      ∧ date.dayNumber < monthStart (monthNumber date.year date.month + 1) := by
  obtain ⟨-, -, atLeast, atMost⟩ := date.isDate
  rw [monthStart_succ date.month_pos date.month_le_twelve, dayNumber_eq]
  omega

private theorem dayNumber_lt_of_month
    (before : monthNumber first.year first.month < monthNumber second.year second.month) :
    first.dayNumber < second.dayNumber :=
  calc first.dayNumber
      < monthStart (monthNumber first.year first.month + 1) := first.dayNumber_within.2
    _ ≤ monthStart (monthNumber second.year second.month) := monthStart_le before
    _ ≤ second.dayNumber := second.dayNumber_within.1

theorem compare_eq_lt_iff :
    first.compare second = .lt ↔
      first.year < second.year
        ∨ first.year = second.year ∧
          (first.month < second.month ∨ first.month = second.month ∧ first.day < second.day) := by
  simp only [compare, Ordering.then_eq_lt, compare_lt_iff_lt, compare_eq_iff_eq]

theorem compare_eq_eq_iff : first.compare second = .eq ↔ first = second := by
  simp only [compare, Ordering.then_eq_eq, compare_eq_iff_eq]
  constructor
  · intro same
    cases first
    cases second
    simpa using same
  · rintro rfl
    exact ⟨rfl, rfl, rfl⟩

private theorem dayNumber_lt (before : first.compare second = .lt) :
    first.dayNumber < second.dayNumber := by
  have firstMonth := first.month_le_twelve
  have secondMonth := second.month_pos
  rcases compare_eq_lt_iff.mp before with earlierYear | ⟨sameYear, earlierMonth | ⟨sameMonth, day⟩⟩
  · apply dayNumber_lt_of_month
    unfold monthNumber
    omega
  · apply dayNumber_lt_of_month
    unfold monthNumber
    omega
  · rw [dayNumber_eq, dayNumber_eq, sameYear, sameMonth]
    omega

/-- Dates are in the order of the calendar as they are in the count of days. -/
theorem compare_eq_compare_dayNumber (first second : Date) :
    first.compare second = Ord.compare first.dayNumber second.dayNumber := by
  cases order : first.compare second with
  | lt => exact (compare_lt_iff_lt.mpr (dayNumber_lt order)).symm
  | eq =>
      rw [compare_eq_eq_iff.mp order]
      exact (compare_eq_iff_eq.mpr rfl).symm
  | gt =>
      have back : second.compare first = .lt := by
        rw [@Std.OrientedCmp.eq_swap _ Date.compare, order]
        rfl
      exact (compare_gt_iff_gt.mpr (dayNumber_lt back)).symm

/-! ## Day by day -/

/-- The day after a date: the next of its month, else the first of the next month, else the
first of the next year. The last day of the calendar has none. -/
def next? (date : Date) : Option Date :=
  (ofFields? date.year date.month (date.day + 1)).or
    ((ofFields? date.year (date.month + 1) 1).or (ofFields? (date.year + 1) 1 1))

private theorem fields_of_ofFields?
    {year : Int}
    {month day : Nat}
    {date : Date}
    (made : ofFields? year month day = some date) :
    date.year = year ∧ date.month = month ∧ date.day = day := by
  unfold ofFields? at made
  split at made
  case isTrue =>
    obtain rfl := Option.some.inj made
    exact ⟨rfl, rfl, rfl⟩
  case isFalse => cases made

private theorem ofFields?_eq_none_iff
    {year : Int}
    {month day : Nat} : ofFields? year month day = none ↔ ¬ IsDate year month day := by
  simp [ofFields?]

/-- The first of the next month comes right after the last of a month. -/
theorem dayNumber_of_first
    (monthEnds : ofFields? first.year first.month (first.day + 1) = none)
    (nextMonth : monthNumber second.year second.month =
      monthNumber first.year first.month + 1)
    (isFirst : second.day = 1) : second.dayNumber = first.dayNumber + 1 := by
  have isLast : first.day = monthLength first.year first.month := by
    have noDate := ofFields?_eq_none_iff.mp monthEnds
    have isDate := first.isDate
    unfold IsDate at noDate isDate
    omega
  rw [dayNumber_eq, dayNumber_eq, nextMonth, isFirst, isLast,
    monthStart_succ first.month_pos first.month_le_twelve]
  omega

/-- The count goes up by one from each day to the next. -/
theorem dayNumber_next (follows : first.next? = some second) :
    second.dayNumber = first.dayNumber + 1 := by
  rw [next?, Option.or_eq_some_iff, Option.or_eq_some_iff] at follows
  rcases follows with sameMonth | ⟨monthEnds, nextMonth | ⟨yearEnds, nextYear⟩⟩
  · obtain ⟨year, month, day⟩ := fields_of_ofFields? sameMonth
    rw [dayNumber_eq, dayNumber_eq, year, month, day]
    omega
  · obtain ⟨year, month, day⟩ := fields_of_ofFields? nextMonth
    refine dayNumber_of_first monthEnds ?_ day
    rw [year, month]
    unfold monthNumber
    omega
  · obtain ⟨year, month, day⟩ := fields_of_ofFields? nextYear
    have december : first.month = 12 := by
      have noDate := ofFields?_eq_none_iff.mp yearEnds
      have atLeast := first.month_pos
      have atMost := first.month_le_twelve
      by_contra earlier
      have hasDays := @monthLength_pos first.year (first.month + 1) (by omega) (by omega)
      exact noDate ⟨first.isDate.1, first.isDate.2.1, Nat.le_refl 1, hasDays⟩
    refine dayNumber_of_first monthEnds ?_ day
    rw [year, month, december]
    unfold monthNumber
    omega

/-- A date that comes before another has a day after it. -/
theorem exists_next (before : first.compare second = .lt) :
    ∃ after, first.next? = some after := by
  obtain ⟨firstLeast, -, -, -⟩ := first.isDate
  obtain ⟨secondLeast, secondGreatest, secondDay, secondFits⟩ := second.isDate
  rw [← Option.ne_none_iff_exists']
  intro isLast
  simp only [next?, Option.or_eq_none_iff, ofFields?_eq_none_iff] at isLast
  obtain ⟨noDay, noMonth, noYear⟩ := isLast
  rcases compare_eq_lt_iff.mp before with earlierYear | ⟨sameYear, earlierMonth | ⟨sameMonth, day⟩⟩
  · exact noYear ⟨by omega, by omega, Nat.le_refl 1,
      monthLength_pos (Nat.le_refl 1) (by decide)⟩
  · have atMost := second.month_le_twelve
    exact noMonth ⟨firstLeast, sameYear ▸ secondGreatest, Nat.le_refl 1,
      monthLength_pos (by omega) (by omega)⟩
  · refine noDay ⟨firstLeast, sameYear ▸ secondGreatest, by omega, ?_⟩
    rw [sameYear, sameMonth]
    omega

theorem eq_of_dayNumber_eq (same : first.dayNumber = second.dayNumber) : first = second := by
  rw [← compare_eq_eq_iff, compare_eq_compare_dayNumber, compare_eq_iff_eq]
  exact same

/-- A date comes before another exactly if it is reached from it day by day. -/
theorem compare_eq_lt_iff_reaches :
    first.compare second = .lt ↔
      Relation.TransGen (fun day after : Date => day.next? = some after) first second := by
  constructor
  · intro before
    -- By induction on the number of days between.
    obtain ⟨between, apart⟩ : ∃ between : Nat,
        second.dayNumber = first.dayNumber + between + 1 :=
      ⟨(second.dayNumber - first.dayNumber - 1).toNat, by
        have later := dayNumber_lt before
        omega⟩
    induction between generalizing first with
    | zero =>
        obtain ⟨after, follows⟩ := exists_next before
        have same : after = second := by
          apply eq_of_dayNumber_eq
          rw [dayNumber_next follows, apart]
          omega
        exact .single (same ▸ follows)
    | succ between inductionHypothesis =>
        obtain ⟨after, follows⟩ := exists_next before
        have closer : second.dayNumber = after.dayNumber + between + 1 := by
          rw [dayNumber_next follows, apart]
          omega
        have stillBefore : after.compare second = .lt := by
          rw [compare_eq_compare_dayNumber, compare_lt_iff_lt]
          omega
        exact .head follows (inductionHypothesis stillBefore closer)
  · intro reaches
    rw [compare_eq_compare_dayNumber, compare_lt_iff_lt]
    induction reaches with
    | single follows =>
        rw [dayNumber_next follows]
        omega
    | tail _ follows inductionHypothesis =>
        rw [dayNumber_next follows]
        omega

end Date

end ClauseBinding.Calendar
