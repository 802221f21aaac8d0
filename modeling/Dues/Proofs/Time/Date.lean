import Dues.Time.Date

/-! # The calendar has a date for every day

The start of a year is close to a straight line through the days. This bounds the year of a day, so
that the estimate is off by one at most, and the days left in the year lead to a month and a day.
The number of that date is the day again, so that dates are in the order of their days.
-/

namespace Dues.Time

theorem yearStart_bounds (year : Int) :
    146097 * (year - 1970) - 506 ≤ 400 * yearStart year ∧
      400 * yearStart year ≤ 146097 * (year - 1970) + 589 := by
  unfold yearStart
  omega

theorem daysBefore_thirteen (year : Int) : daysBefore year 13 = if isLeap year then 366 else 365 := by
  simp only [daysBefore, monthLength]
  split <;> rfl

theorem yearStart_succ (year : Int) :
    yearStart (year + 1) = yearStart year + daysBefore year 13 := by
  rw [daysBefore_thirteen]
  unfold yearStart isLeap
  split <;> simp_all <;> omega

theorem yearStart_le {year other : Int} (le : year ≤ other) : yearStart year ≤ yearStart other := by
  rcases Int.lt_or_eq_of_le le with before | rfl
  · have bounds := yearStart_bounds year
    have bounds' := yearStart_bounds other
    omega
  · exact Int.le_refl _

theorem yearOfDay_spec (day : Int) :
    yearStart (yearOfDay day) ≤ day ∧ day < yearStart (yearOfDay day + 1) := by
  unfold yearOfDay
  dsimp only
  generalize guessed : 1970 + 400 * day / 146097 = guess
  have below := yearStart_bounds (guess - 1)
  have above := yearStart_bounds (guess + 1 + 1)
  split
  next early =>
    rw [Int.sub_add_cancel]
    omega
  next =>
    split
    next late => omega
    next => omega

theorem daysBefore_succ (year : Int) (month : Nat) (first : 1 ≤ month) :
    daysBefore year (month + 1) = daysBefore year month + monthLength year month := by
  cases month with
  | zero => cases first
  | succ month => rfl

theorem daysBefore_le {year : Int} {month month' : Nat} (le : month ≤ month') :
    daysBefore year month ≤ daysBefore year month' := by
  induction le with
  | refl => exact Nat.le_refl _
  | @step later _ ih =>
      cases later with
      | zero => exact ih
      | succ later => exact Nat.le_trans ih (Nat.le_add_right _ _)

/-- With days of the year left from the first of `month` on, there is a month and a day for them. -/
theorem monthDay_spec (year : Int) (months month rest : Nat) (twelve : month + months = 12)
    (first : 1 ≤ month) (left : daysBefore year month + rest < daysBefore year 13) :
    1 ≤ (monthDay year months month rest).1 ∧ (monthDay year months month rest).1 ≤ 12 ∧
      1 ≤ (monthDay year months month rest).2 ∧
      (monthDay year months month rest).2 ≤ monthLength year (monthDay year months month rest).1 := by
  induction months generalizing month rest with
  | zero =>
      obtain rfl : month = 12 := twelve
      have december : daysBefore year 13 = _ := daysBefore_succ year 12 (by decide)
      simp only [monthDay]
      omega
  | succ months ih =>
      have next := daysBefore_succ year month first
      unfold monthDay
      split
      next =>
        dsimp only
        omega
      next => exact ih (month + 1) _ (by omega) (by omega) (by omega)

theorem monthDay_number (year : Int) (months month rest : Nat) (first : 1 ≤ month) :
    daysBefore year (monthDay year months month rest).1 + (monthDay year months month rest).2 =
      daysBefore year month + rest + 1 := by
  induction months generalizing month rest with
  | zero => rfl
  | succ months ih =>
      have next := daysBefore_succ year month first
      unfold monthDay
      split
      next => rfl
      next =>
        rw [ih (month + 1) _ (by omega)]
        omega

/-- The date of a day is a month and a day of its year, and has the number of that day. -/
theorem civil_spec (day : Int) :
    (civil day).1 = yearOfDay day ∧ 1 ≤ (civil day).2.1 ∧ (civil day).2.1 ≤ 12 ∧
      1 ≤ (civil day).2.2 ∧ (civil day).2.2 ≤ monthLength (yearOfDay day) (civil day).2.1 ∧
      dayNumber (yearOfDay day) (civil day).2.1 (civil day).2.2 = day := by
  obtain ⟨started, ends⟩ := yearOfDay_spec day
  rw [yearStart_succ] at ends
  have none : daysBefore (yearOfDay day) 1 = 0 := rfl
  obtain ⟨month, december, first, last⟩ := monthDay_spec (yearOfDay day) 11 1
    (day - yearStart (yearOfDay day)).toNat rfl (by decide) (by omega)
  have number := monthDay_number (yearOfDay day) 11 1 (day - yearStart (yearOfDay day)).toNat
    (by decide)
  refine ⟨rfl, month, december, first, last, ?_⟩
  simp only [civil]
  unfold dayNumber
  omega

theorem civil_month_lt_iff {day : Int} {month : Nat} :
    (civil day).2.1 < month ↔ day < dayNumber (yearOfDay day) month 1 := by
  obtain ⟨_, one, _, firstDay, lastDay, number⟩ := civil_spec day
  have next := daysBefore_succ (yearOfDay day) (civil day).2.1 one
  unfold dayNumber at number ⊢
  constructor
  · intro earlier
    have whole : daysBefore (yearOfDay day) ((civil day).2.1 + 1) ≤ _ := daysBefore_le earlier
    omega
  · intro before
    refine Nat.lt_of_not_le fun late => ?_
    have whole : daysBefore (yearOfDay day) month ≤ _ := daysBefore_le late
    omega

/-- Every day of the years that the clock can show has a date. -/
theorem ofDayNumber?_isSome {day : Int} (year : isYear (yearOfDay day)) :
    ∃ date, Date.ofDayNumber? day = some date := by
  obtain ⟨same, month, december, first, last, _⟩ := civil_spec day
  simp only [Date.ofDayNumber?, Date.of?]
  exact ⟨_, dif_pos ⟨year, ⟨month, december⟩, first, last⟩⟩

theorem isYear_of_ofDayNumber? {day : Int} {date : Date} (found : Date.ofDayNumber? day = some date) :
    isYear (yearOfDay day) := by
  simp only [Date.ofDayNumber?, Date.of?] at found
  split at found
  next valid => exact valid.1
  next => cases found

end Dues.Time
