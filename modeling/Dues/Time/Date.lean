/-! # Dates

The Gregorian calendar, extended backwards without end of the old style, over the years that the
clock can show. Days are counted from 1 January 1970.
-/

namespace Dues.Time

def isLeap (year : Int) : Bool := year % 4 = 0 && (year % 100 ≠ 0 || year % 400 = 0)

def monthLength (year : Int) (month : Nat) : Nat :=
  match month with
  | 2 => if isLeap year then 29 else 28
  | 4 => 30
  | 6 => 30
  | 9 => 30
  | 11 => 30
  | _ => 31

/-- The day number of 1 January. -/
def yearStart (year : Int) : Int :=
  365 * (year - 1970) + (year - 1) / 4 - (year - 1) / 100 + (year - 1) / 400 - 477

/-- Days of the year before the first of `month`. -/
def daysBefore (year : Int) : (month : Nat) → Nat
  | 0 => 0
  | 1 => 0
  | month + 2 => daysBefore year (month + 1) + monthLength year (month + 1)

def dayNumber (year : Int) (month day : Nat) : Int :=
  yearStart year + daysBefore year month + day - 1

/-- The year that a day belongs to. A first estimate is off by one at most. -/
def yearOfDay (day : Int) : Int :=
  let guess := 1970 + 400 * day / 146097
  if day < yearStart guess then guess - 1
  else if yearStart (guess + 1) ≤ day then guess + 1
  else guess

/-- Month and day of the month, with `rest` days to go from the first of `month` on. -/
def monthDay (year : Int) : (months : Nat) → (month rest : Nat) → Nat × Nat
  | 0, month, rest => (month, rest + 1)
  | months + 1, month, rest =>
      if rest < monthLength year month then (month, rest + 1)
      else monthDay year months (month + 1) (rest - monthLength year month)

/-- Year, month and day of the month of a day number. -/
def civil (day : Int) : Int × Nat × Nat :=
  let year := yearOfDay day
  let (month, dayOfMonth) := monthDay year 11 1 (day - yearStart year).toNat
  (year, month, dayOfMonth)

def firstYear : Int := -262143
def lastYear : Int := 262142

def isYear (year : Int) : Prop := firstYear ≤ year ∧ year ≤ lastYear

instance (year : Int) : Decidable (isYear year) := inferInstanceAs (Decidable (_ ∧ _))

/-- A date that exists, within the range of years. -/
structure Date where
  year : Int
  month : Nat
  day : Nat
  year_mem : isYear year
  month_mem : 1 ≤ month ∧ month ≤ 12
  day_mem : 1 ≤ day ∧ day ≤ monthLength year month
  deriving DecidableEq

namespace Date

def of? (year : Int) (month day : Nat) : Option Date :=
  if h : isYear year ∧ (1 ≤ month ∧ month ≤ 12) ∧ 1 ≤ day ∧ day ≤ monthLength year month then
    some ⟨year, month, day, h.1, h.2.1, h.2.2⟩
  else none

/-- 1 January 1970. -/
def epoch : Date := ⟨1970, 1, 1, by decide, by decide, by decide⟩

def ofDayNumber? (n : Int) : Option Date :=
  let (year, month, day) := civil n
  of? year month day

def number (d : Date) : Int := dayNumber d.year d.month d.day

end Date

end Dues.Time
