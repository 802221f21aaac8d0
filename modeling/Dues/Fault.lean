/-! # Faults

Calculations that have no result. A fault is not a reason that a caller could act on, it abandons
the request that ran into it.
-/

namespace Dues

inductive Fault where
  | additionOverflowed
  | multiplicationOverflowed
  /-- The instant has no date in London, as it would lie before the first day. -/
  | localTimeOutOfRange
  /-- The clocks never show this time in London, or show it twice. -/
  | noSuchLondonTime
  /-- The address holds a control character that cannot stand in a header. -/
  | invalidAddress
  deriving Repr, DecidableEq

def Fault.message : Fault → String
  | .additionOverflowed => "Addition overflowed"
  | .multiplicationOverflowed => "Multiplication overflowed"
  | .localTimeOutOfRange => "Local time out of range for `NaiveDateTime`"
  | .noSuchLondonTime => "ambiguous or non-existent London time"
  | .invalidAddress => "URI isn't a valid header value: InvalidHeaderValue"

/-- An activity ends early with a failure to report, or with a fault. -/
inductive Stop (ε : Type) where
  | failure (e : ε)
  | fault (f : Fault)

end Dues
