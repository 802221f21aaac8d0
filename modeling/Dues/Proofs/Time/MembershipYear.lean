import Dues.Proofs.Time.London
import Dues.Time.MembershipYear

/-! # Paid up for the year

A membership that was paid for a year ends when the calendar year does. That is after the deadline
for that membership year and before the one for the next, though the end is reckoned in universal
time and the deadlines in London.
-/

namespace Dues.Time.MembershipYear

variable {year asked : Int}

theorem daysBefore_april (year : Int) : daysBefore year 4 = 90 ∨ daysBefore year 4 = 91 := by
  simp only [daysBefore, monthLength]
  split <;> omega

theorem april_not_short (year : Int) : dayNumber year 4 1 ≠ London.shortDay := by
  have before := yearStart_bounds year
  have april := daysBefore_april year
  unfold dayNumber London.shortDay
  omega

theorem year_length (year : Int) : 365 ≤ daysBefore year 13 := by
  rw [daysBefore_thirteen]
  split <;> omega

theorem deadline_near (valid : isYear year) : ∃ s, deadline year = .ofSeconds s (-1) ∧
    secondsPerDay * dayNumber year 4 1 - 7200 ≤ s ∧
      s ≤ secondsPerDay * dayNumber year 4 1 + 75 := by
  obtain ⟨s, shown, reaches⟩ := London.midnight_shown (april_not_short year)
  refine ⟨s, ?_, London.midnight_near reaches⟩
  rw [deadline, if_pos valid, shown]

theorem ends_eq (valid : isYear year) :
    ends year = .ofSeconds (secondsPerDay * yearStart (year + 1) - 1) 999999000 := if_pos valid

/-- Years that are paid for are over by the deadlines of later ones. -/
theorem deadline_le_ends (valid : isYear asked) (valid' : isYear year) (le : asked ≤ year) :
    deadline asked ≤ ends year := by
  obtain ⟨s, same, _, near⟩ := deadline_near valid
  have start := yearStart_le le
  have next := yearStart_succ year
  have length := year_length year
  have april := daysBefore_april asked
  rw [same, ends_eq valid']
  change s * Instant.perSecond + -1 ≤ _ * Instant.perSecond + 999999000
  unfold dayNumber secondsPerDay at near
  unfold secondsPerDay Instant.perSecond
  omega

theorem ends_lt_deadline (valid : isYear year) (valid' : isYear asked) (lt : year < asked) :
    ends year < deadline asked := by
  obtain ⟨s, same, near, _⟩ := deadline_near valid'
  have start := yearStart_le (show year + 1 ≤ asked from lt)
  have april := daysBefore_april asked
  rw [same, ends_eq valid]
  change _ * Instant.perSecond + 999999000 < s * Instant.perSecond + -1
  unfold dayNumber secondsPerDay at near
  unfold secondsPerDay Instant.perSecond
  omega

/-- Beyond the years of the calendar there is the end of time, which no year that has an end
reaches. -/
theorem ends_lt_latest (valid : isYear year) : ends year < .latest := by
  have start := yearStart_le (show year + 1 ≤ lastYear + 1 by have := valid.2; omega)
  rw [ends_eq valid]
  change _ * Instant.perSecond + 999999000 < _ * Instant.perSecond + (Instant.perSecond - 1)
  unfold secondsPerDay Instant.perSecond
  omega

theorem covers_ends (year : Int) : covers (ends year) year = true := by
  rw [covers, decide_eq_true_iff]
  by_cases valid : isYear year
  · exact deadline_le_ends valid valid (Int.le_refl year)
  · rw [deadline, ends, if_neg valid, if_neg valid]
    exact Int.le_refl _

/-- Whoever pays for a year is paid up for all years until then and for none after it. The end of
the membership lies between the deadline of its year and that of the next one, or the end of time
where the calendar has no next one. -/
theorem covers_ends_iff (valid : isYear year) (valid' : isYear asked) :
    (covers (ends year) asked = true ↔ asked ≤ year) ∧
      deadline year ≤ ends year ∧ ends year < deadline (year + 1) := by
  refine ⟨?_, deadline_le_ends valid valid (Int.le_refl year), ?_⟩
  · rw [covers, decide_eq_true_iff]
    constructor
    · intro covered
      refine Int.not_lt.mp fun later => ?_
      have early : (ends year).nanoseconds < (deadline asked).nanoseconds :=
        ends_lt_deadline valid valid' later
      exact Int.not_lt.mpr covered early
    · exact deadline_le_ends valid' valid
  · by_cases next : isYear (year + 1)
    · exact ends_lt_deadline valid next (Int.lt_succ year)
    · rw [deadline, if_neg next]
      exact ends_lt_latest valid

/-- Also at the end of the calendar, and for a year before the common time. -/
theorem last_year_covers_old_one :
    covers (ends lastYear) 1847 = true ∧ deadline lastYear ≤ ends lastYear ∧
      ends lastYear < deadline (lastYear + 1) := by
  have last : isYear lastYear := by decide
  have old : isYear 1847 := by decide
  obtain ⟨covered, paid⟩ := covers_ends_iff last old
  exact ⟨covered.mpr (by decide), paid⟩

end Dues.Time.MembershipYear
