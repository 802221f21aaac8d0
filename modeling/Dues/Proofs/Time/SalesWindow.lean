import Dues.Proofs.Time.MembershipYear

/-! # When sales for a year are open

Sales for a membership year are open from 1 October to 1 October, London time. What clocks in London
show is not in the order of time, but no change has ever moved them across a midnight of October.
So the windows follow each other without gaps or overlaps, and a membership that is bought in one of
them ends after it.
-/

namespace Dues.Time

theorem yearOfDay_le_iff {day year : Int} : yearOfDay day ≤ year ↔ day < yearStart (year + 1) := by
  obtain ⟨started, ends⟩ := yearOfDay_spec day
  constructor
  · intro le
    have start := yearStart_le (show yearOfDay day + 1 ≤ year + 1 by omega)
    omega
  · intro before
    refine Int.not_lt.mp fun later => ?_
    have start := yearStart_le (show year + 1 ≤ yearOfDay day from later)
    omega

namespace London

theorem le_latest_of_today {now : Instant} {date : Date} (shown : today now = .ok date) :
    now ≤ .latest := by
  unfold today at shown
  split at shown
  next found =>
    have before := yearOfDay_le_iff.mp (isYear_of_ofDayNumber? found).2
    have last : lastYear + 1 = 262143 := rfl
    have start : yearStart 262143 = 95026237 := by decide
    have common := @offset_nonneg now.seconds
    rw [last, start, clock] at before
    change now.nanoseconds ≤
      (secondsPerDay * yearStart (lastYear + 1) - 1) * Instant.perSecond + (Instant.perSecond - 1)
    rw [last, start]
    generalize offset now.seconds = ahead at before common
    unfold Instant.seconds secondsPerDay Instant.perSecond at *
    omega
  next => cases shown

end London

/-- So many days later in universal time. -/
def Instant.plusDays (t : Instant) (days : Int) : Instant :=
  ⟨t.nanoseconds + days * secondsPerDay * perSecond⟩

namespace MembershipYear

variable {year : Int} {now later : Instant}

theorem daysBefore_october (year : Int) : daysBefore year 10 = 273 ∨ daysBefore year 10 = 274 := by
  simp only [daysBefore, monthLength]
  split <;> omega

/-- Behind October there are the same days in every year. -/
theorem daysBefore_year_end (year : Int) : daysBefore year 13 = daysBefore year 10 + 92 := by
  change daysBefore year 10 + 31 + 30 + 31 = _
  omega

theorem october_not_short (year : Int) : dayNumber year 10 1 ≠ London.shortDay := by
  have before := yearStart_bounds year
  have october := daysBefore_october year
  unfold dayNumber London.shortDay
  omega

/-- The instant from which on sales are for the year after `year`: midnight of 1 October. -/
def salesOpening (year : Int) : Instant :=
  match London.secondsAt (secondsPerDay * dayNumber year 10 1) with
  | [] => .latest
  | t :: _ => .ofSeconds t 0

/-- Sales for a year are open from October of the year before. -/
def OnSale (year : Int) (now : Instant) : Prop :=
  salesOpening (year - 1) ≤ now ∧ now < salesOpening year

theorem salesOpening_near (year : Int) : ∃ s, salesOpening year = .ofSeconds s 0 ∧
    London.secondsAt (secondsPerDay * dayNumber year 10 1) = [s] ∧
      ∀ t, secondsPerDay * dayNumber year 10 1 ≤ t + London.offset t ↔ s ≤ t := by
  obtain ⟨s, shown, reaches⟩ := London.midnight_shown (october_not_short year)
  refine ⟨s, ?_, shown, reaches⟩
  unfold salesOpening
  rw [shown]

theorem instantAt_october (valid : isYear year) :
    London.instantAt year 10 1 0 0 0 = .ok (salesOpening year) := by
  obtain ⟨s, same, shown, _⟩ := salesOpening_near year
  have days : 1 ≤ 1 ∧ 1 ≤ monthLength year 10 := ⟨by decide, by simp [monthLength]⟩
  have first : Date.of? year 10 1 = some ⟨year, 10, 1, valid, by decide, days⟩ :=
    dif_pos ⟨valid, by decide, days⟩
  have midnight : clockSeconds (dayNumber year 10 1) 0 0 0 = secondsPerDay * dayNumber year 10 1 := by
    unfold clockSeconds
    omega
  unfold London.instantAt
  rw [first]
  dsimp only [Date.number]
  rw [if_pos (by decide), midnight, shown, same]

/-- Sales are for a year or an earlier one until the day of its October. -/
theorem sold_le_iff_day : sold now ≤ year ↔
    London.clock now / secondsPerDay < dayNumber year 10 1 := by
  obtain ⟨day, same⟩ : ∃ day, London.clock now / secondsPerDay = day := ⟨_, rfl⟩
  have october := daysBefore_october year
  have next := yearStart_succ year
  have length := year_length year
  have before : ∀ year, yearOfDay day ≤ year ↔ day < yearStart (year + 1) := fun _ => yearOfDay_le_iff
  have month := @civil_month_lt_iff day salesOpen
  have own : (civil day).1 = yearOfDay day := (civil_spec day).1
  unfold sold London.civil
  rw [same]
  dsimp only
  rw [own]
  generalize (civil day).2.1 = shownMonth at month ⊢
  rcases Int.lt_trichotomy (yearOfDay day) year with earlier | rfl | later
  · have passed := (before (year - 1)).mp (by omega)
    rw [Int.sub_add_cancel] at passed
    unfold dayNumber
    split <;> omega
  · unfold salesOpen at *
    split <;> omega
  · have notYet := mt (before year).mpr (by omega)
    unfold dayNumber
    split <;> omega

theorem sold_le_iff : sold now ≤ year ↔ now < salesOpening year := by
  obtain ⟨s, same, _, reaches⟩ := salesOpening_near year
  have reached := reaches now.seconds
  rw [sold_le_iff_day, same, London.clock]
  change _ ↔ now.nanoseconds < s * Instant.perSecond + 0
  generalize London.offset now.seconds = ahead at reached ⊢
  unfold Instant.seconds secondsPerDay Instant.perSecond at *
  omega

theorem onSale_iff : OnSale year now ↔ sold now = year := by
  have opened : ¬ now < salesOpening (year - 1) ↔ salesOpening (year - 1) ≤ now := Int.not_lt
  unfold OnSale
  rw [← opened, ← sold_le_iff, ← sold_le_iff]
  omega

theorem sold_mono (le : now ≤ later) : sold now ≤ sold later := by
  have before : later < salesOpening (sold later) := sold_le_iff.mp (Int.le_refl _)
  exact sold_le_iff.mpr (Int.lt_of_le_of_lt le before)

/-- Three months of the year are left when its sales are over. -/
theorem salesOpening_plusDays_le_ends (valid : isYear year) :
    (salesOpening year).plusDays 91 ≤ ends year := by
  obtain ⟨s, same, _, reaches⟩ := salesOpening_near year
  have near := (London.midnight_near reaches).2
  have next := yearStart_succ year
  rw [daysBefore_year_end] at next
  rw [same, ends_eq valid]
  change s * Instant.perSecond + 0 + 91 * secondsPerDay * Instant.perSecond ≤
    _ * Instant.perSecond + 999999000
  unfold dayNumber secondsPerDay at near
  unfold secondsPerDay Instant.perSecond
  omega

theorem salesOpening_le_ends (valid : isYear year) : salesOpening year ≤ ends year := by
  refine Int.le_trans ?_ (salesOpening_plusDays_le_ends valid)
  change (salesOpening year).nanoseconds ≤
    (salesOpening year).nanoseconds + 91 * secondsPerDay * Instant.perSecond
  unfold secondsPerDay Instant.perSecond
  omega

/-- A membership lasts for three months from the day that it is bought, or for as long as clocks
go. -/
theorem le_ends_of_le_plusDays (bought : later ≤ now.plusDays 91) (shown : later ≤ .latest) :
    later ≤ ends (sold now) := by
  by_cases valid : isYear (sold now)
  · have before : now < salesOpening (sold now) := sold_le_iff.mp (Int.le_refl _)
    have left := salesOpening_plusDays_le_ends valid
    change later.nanoseconds ≤ now.nanoseconds + _ at bought
    change now.nanoseconds < _ at before
    change (salesOpening (sold now)).nanoseconds + _ ≤ _ at left
    change later.nanoseconds ≤ (ends (sold now)).nanoseconds
    omega
  · rw [ends, if_neg valid]
    exact shown

theorem le_ends_sold {date : Date} (shown : London.today now = .ok date) : now ≤ ends (sold now) := by
  by_cases valid : isYear (sold now)
  · have before : now < salesOpening (sold now) := sold_le_iff.mp (Int.le_refl _)
    exact Int.le_of_lt (Int.lt_of_lt_of_le before (salesOpening_le_ends valid))
  · rw [ends, if_neg valid]
    exact London.le_latest_of_today shown

/-- Sales windows divide up time. Sales are for a year or an earlier one before midnight of 1 October
in London, whatever clocks there have shown in between. So they go on to later years only, and each
instant is in the window of one year; a membership that is bought and provided then lasts until
later. -/
theorem sales_windows_partition {date : Date} (shown : London.today now = .ok date) :
    (∀ year, isYear year → ∃ opening, London.instantAt year 10 1 0 0 0 = .ok opening ∧
      (sold now ≤ year ↔ now < opening)) ∧
    (∀ later, now ≤ later → sold now ≤ sold later) ∧
    (∀ year, OnSale year now ↔ sold now = year) ∧
    now ≤ ends (sold now) :=
  ⟨fun year valid => ⟨salesOpening year, instantAt_october valid, sold_le_iff⟩,
    fun _ => sold_mono, fun _ => onSale_iff, le_ends_sold shown⟩

/-- Half past eleven on 30 September in universal time is October in London. -/
theorem october_in_london_first :
    let now := Instant.ofSeconds 1727739000 0
    (∃ date, London.today now = .ok date ∧ (date.year, date.month, date.day) = (2024, 10, 1)) ∧
      OnSale 2025 now ∧ now ≤ ends 2025 := by
  intro now
  have shown : London.today now =
      .ok ⟨2024, 10, 1, by decide, by decide, by decide⟩ := by decide +kernel
  have year : sold now = 2025 := by decide +kernel
  obtain ⟨_, _, window, lasts⟩ := sales_windows_partition shown
  rw [year] at lasts
  exact ⟨⟨_, shown, rfl⟩, (window 2025).mpr year, lasts⟩

end MembershipYear

end Dues.Time
