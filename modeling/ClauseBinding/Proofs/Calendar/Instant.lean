import ClauseBinding.Proofs.Calendar.Day

/-!
Contract: moments on the clock of universal time.

Owns:
- the date and the second of the day of universal time at a moment, which its clock time and
  its offset give;
- that every moment within the calendar has them;
- that moments are ordered and equated by them, then by their fractions.

Does not own: the texts of moments.

An offset is less than a day, so universal time is on the day of the local clock, the day
before it or the day after it. Leap seconds are not seconds of the day: they are fractions
that are longer than a second, and so come after the second they are counted in.
-/

namespace ClauseBinding.Calendar.Moment

variable {moment left right : Moment}

/-- The date and the second of the day of universal time at a moment: the time of the local
clock less the offset, on the same day, the day before or the day after. -/
inductive UniversalClock (moment : Moment) : Date → Nat → Prop where
  | sameDay {second : Nat}
      (within : second < 86400)
      (clock : (second : Int) = moment.second.val - moment.offset) :
      UniversalClock moment moment.date second
  | dayBefore {date : Date} {second : Nat}
      (follows : date.next? = some moment.date)
      (within : second < 86400)
      (clock : (second : Int) = moment.second.val - moment.offset + 86400) :
      UniversalClock moment date second
  | dayAfter {date : Date} {second : Nat}
      (follows : moment.date.next? = some date)
      (within : second < 86400)
      (clock : (second : Int) = moment.second.val - moment.offset - 86400) :
      UniversalClock moment date second

theorem UniversalClock.within
    {date : Date}
    {second : Nat}
    (clock : moment.UniversalClock date second) : second < 86400 := by
  cases clock <;> assumption

theorem UniversalClock.universalSecond
    {date : Date}
    {second : Nat}
    (clock : moment.UniversalClock date second) :
    moment.universalSecond = date.dayNumber * 86400 + second := by
  unfold Moment.universalSecond
  cases clock with
  | sameDay _ clock => omega
  | dayBefore follows _ clock =>
      rw [Date.dayNumber_next follows]
      omega
  | dayAfter follows _ clock =>
      rw [Date.dayNumber_next follows]
      omega

/-! ## Moments within the calendar -/

/-- A day of the calendar other than the first has a day before it. -/
theorem exists_dayBefore
    {date : Date}
    (later : Date.first.dayNumber < date.dayNumber) :
    ∃ before : Date, before.next? = some date := by
  have order : Date.first.compare date = .lt := by
    rw [Date.compare_eq_compare_dayNumber, compare_lt_iff_lt]
    exact later
  obtain ⟨before, -, follows⟩ :=
    Relation.TransGen.tail'_iff.mp (Date.compare_eq_lt_iff_reaches.mp order)
  exact ⟨before, follows⟩

/-- A day of the calendar other than the last has a day after it. -/
theorem exists_dayAfter
    {date : Date}
    (earlier : date.dayNumber < Date.last.dayNumber) : ∃ after, date.next? = some after := by
  apply @Date.exists_next date Date.last
  rw [Date.compare_eq_compare_dayNumber, compare_lt_iff_lt]
  exact earlier

private theorem within_calendar (date : Date) :
    Date.first.dayNumber ≤ date.dayNumber ∧ date.dayNumber ≤ Date.last.dayNumber := by
  obtain ⟨yearLeast, yearGreatest, dayLeast, dayGreatest⟩ := date.isDate
  have monthLeast := date.month_pos
  have monthGreatest := date.month_le_twelve
  have shortMonths := monthLength_le date.year date.month
  constructor
  · by_contra before
    have order : date.compare Date.first = .lt := by
      rw [Date.compare_eq_compare_dayNumber, compare_lt_iff_lt]
      omega
    have fields := Date.compare_eq_lt_iff.mp order
    simp only [Date.first] at fields
    omega
  · by_contra after
    have order : Date.last.compare date = .lt := by
      rw [Date.compare_eq_compare_dayNumber, compare_lt_iff_lt]
      omega
    have fields := Date.compare_eq_lt_iff.mp order
    simp only [Date.last] at fields
    omega

/-- A moment has a clock of universal time exactly if its instant lies within the calendar. -/
theorem hasUniversalDate_iff :
    moment.hasUniversalDate = true ↔ ∃ date second, moment.UniversalClock date second := by
  have offset := moment.offsetBound
  have clockTime := moment.second.isLt
  simp only [hasUniversalDate, Bool.and_eq_true, decide_eq_true_eq]
  constructor
  · rintro ⟨atLeast, atMost⟩
    unfold Moment.universalSecond at atLeast atMost
    by_cases negative : (moment.second.val : Int) - moment.offset < 0
    · obtain ⟨before, follows⟩ := @exists_dayBefore moment.date (by omega)
      exact ⟨before, ((moment.second.val : Int) - moment.offset + 86400).toNat,
        .dayBefore follows (by omega) (by omega)⟩
    · by_cases beyond : 86400 ≤ (moment.second.val : Int) - moment.offset
      · obtain ⟨after, follows⟩ := @exists_dayAfter moment.date (by omega)
        exact ⟨after, ((moment.second.val : Int) - moment.offset - 86400).toNat,
          .dayAfter follows (by omega) (by omega)⟩
      · exact ⟨moment.date, ((moment.second.val : Int) - moment.offset).toNat,
          .sameDay (by omega) (by omega)⟩
  · rintro ⟨date, second, clock⟩
    have within := clock.within
    have instant := clock.universalSecond
    have calendar := within_calendar date
    omega

/-! ## Order -/

/-- Moments are in the order of their dates in universal time, on one date in that of their
seconds, and within one second in that of their fractions. -/
theorem compare_eq_of_clocks
    {leftDate rightDate : Date}
    {leftSecond rightSecond : Nat}
    (leftClock : left.UniversalClock leftDate leftSecond)
    (rightClock : right.UniversalClock rightDate rightSecond) :
    left.compare right =
      (leftDate.compare rightDate).then
        ((Ord.compare leftSecond rightSecond).then
          (Ord.compare left.fraction.val right.fraction.val)) := by
  have leftWithin := leftClock.within
  have rightWithin := rightClock.within
  rw [compare, leftClock.universalSecond, rightClock.universalSecond,
    Date.compare_eq_compare_dayNumber, ← Ordering.then_assoc]
  congr 1
  rcases lt_trichotomy leftDate.dayNumber rightDate.dayNumber with earlier | same | later
  · rw [compare_lt_iff_lt.mpr earlier, compare_lt_iff_lt.mpr (by omega)]
    rfl
  · rw [same, compare_eq_iff_eq.mpr rfl, Ordering.eq_then]
    rcases lt_trichotomy leftSecond rightSecond with earlier | rfl | later
    · rw [compare_lt_iff_lt.mpr earlier, compare_lt_iff_lt.mpr (by omega)]
    · rw [compare_eq_iff_eq.mpr rfl, compare_eq_iff_eq.mpr rfl]
    · rw [compare_gt_iff_gt.mpr later, compare_gt_iff_gt.mpr (by omega)]
  · rw [compare_gt_iff_gt.mpr later, compare_gt_iff_gt.mpr (by omega)]
    rfl

theorem equal_iff_of_clocks
    {leftDate rightDate : Date}
    {leftSecond rightSecond : Nat}
    (leftClock : left.UniversalClock leftDate leftSecond)
    (rightClock : right.UniversalClock rightDate rightSecond) :
    left.equal right = true ↔
      leftDate = rightDate ∧ leftSecond = rightSecond ∧ left.fraction = right.fraction := by
  have leftWithin := leftClock.within
  have rightWithin := rightClock.within
  simp only [equal, Bool.and_eq_true, beq_iff_eq, leftClock.universalSecond,
    rightClock.universalSecond]
  constructor
  · rintro ⟨sameInstant, sameFraction⟩
    exact ⟨Date.eq_of_dayNumber_eq (by omega), by omega, sameFraction⟩
  · rintro ⟨rfl, rfl, sameFraction⟩
    exact ⟨rfl, sameFraction⟩

end ClauseBinding.Calendar.Moment
