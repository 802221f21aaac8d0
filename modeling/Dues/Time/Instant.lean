import Dues.Time.Date

/-! # Instants

Points in time, counted in nanoseconds. Clock times are read off them under an offset from
universal time.
-/

namespace Dues.Time

/-- Nanoseconds since the start of 1970 in universal time. -/
structure Instant where
  nanoseconds : Int
  deriving Repr, DecidableEq

namespace Instant

instance : LT Instant := ⟨fun a b => a.nanoseconds < b.nanoseconds⟩
instance : LE Instant := ⟨fun a b => a.nanoseconds ≤ b.nanoseconds⟩
instance (a b : Instant) : Decidable (a < b) :=
  inferInstanceAs (Decidable (a.nanoseconds < b.nanoseconds))
instance (a b : Instant) : Decidable (a ≤ b) :=
  inferInstanceAs (Decidable (a.nanoseconds ≤ b.nanoseconds))

def perSecond : Int := 1000000000

def ofSeconds (seconds nanoseconds : Int) : Instant := ⟨seconds * perSecond + nanoseconds⟩

/-- The whole second that the instant lies in. -/
def seconds (t : Instant) : Int := t.nanoseconds / perSecond

/-- Nanoseconds into that second. -/
def fraction (t : Instant) : Int := t.nanoseconds % perSecond

end Instant

def secondsPerDay : Int := 86400

/-- Seconds since 1970 that a clock without offset shows at this date and time of day. -/
def clockSeconds (day : Int) (hour minute second : Nat) : Int :=
  secondsPerDay * day + 3600 * hour + 60 * minute + second

/-- The end of the last year. -/
def Instant.latest : Instant :=
  .ofSeconds (secondsPerDay * yearStart (lastYear + 1) - 1) (Instant.perSecond - 1)

end Dues.Time
