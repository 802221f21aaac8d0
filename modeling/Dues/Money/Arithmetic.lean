import Dues.Fault
import Dues.Money.Decimal
import Dues.Text.Number

/-! # Sums and charges

Amounts are added at the larger number of places and give places up only when the sum would not fit
otherwise. Nothing is charged but whole pennies.
-/

namespace Dues.Money.Decimal

/-- A zero leaves the other amount as it is, places included. -/
def add (a b : Decimal) : Except Fault Decimal :=
  if a.isZero then .ok b
  else if b.isZero then .ok a
  else
    let scale := max a.scale b.scale
    match fit (a.coefficientAt scale + b.coefficientAt scale) scale with
    | some d => .ok d
    | none => .error .additionOverflowed

def sum (amounts : List Decimal) : Except Fault Decimal := amounts.foldlM add zero

def timesHundred (d : Decimal) : Except Fault Decimal :=
  match fit (d.coefficient * 100) d.scale with
  | some hundredfold => .ok hundredfold
  | none => .error .multiplicationOverflowed

/-- The nearest whole number, halves away from zero. -/
def nearestWhole (d : Decimal) : Int := signed (divHalfUp · (Nat.pow 10 d.scale)) d.coefficient

/-- The amount in pennies, none if it is beyond what can be charged. -/
def pennies (d : Decimal) : Except Fault (Option Int) := do
  let hundredfold ← d.timesHundred
  let n := hundredfold.nearestWhole
  return if Text.fitsSigned 64 n then some n else none

end Dues.Money.Decimal
