import Dues.Time.London

/-! # Membership years

A membership year runs from April to the end of March. Sales for it open in October before it, and
members are recorded as paid up to the end of its calendar year.
-/

namespace Dues.Time.MembershipYear

/-- The month in which sales for the next year open. -/
def salesOpen : Nat := 10

/-- The membership year that a sale pays for. -/
def sold (now : Instant) : Int :=
  let (year, month, _) := London.civil now
  if month < salesOpen then year else year + 1

/-- When a membership paid for `year` ends: the last microsecond of the calendar year. A year that
the calendar does not reach ends with time itself. -/
def ends (year : Int) : Instant :=
  if isYear year then
    .ofSeconds (secondsPerDay * yearStart (year + 1) - 1) 999999000
  else .latest

/-- The last instant of March in London. -/
def deadline (year : Int) : Instant :=
  if isYear year then
    match London.secondsAt (secondsPerDay * dayNumber year 4 1) with
    | [] => .latest
    | t :: _ => .ofSeconds t (-1)
  else .latest

/-- Whether a membership that ends at `ending` is paid up for `year`. -/
def covers (ending : Instant) (year : Int) : Bool := deadline year ≤ ending

end Dues.Time.MembershipYear
