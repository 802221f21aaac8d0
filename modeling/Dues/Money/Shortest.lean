import Dues.Money.Binary64
import Dues.Money.Written

/-! # Binary fractions in text

A binary fraction is written with the fewest digits that are read back as it, in plain notation.
-/

namespace Dues.Money.Shortest

/-- The largest power of ten that is not above `n / d`, as its exponent; both are positive. -/
def floorLog10 (n d : Nat) : Int :=
  let guess : Int := ((Text.digitsOfNat n).length : Int) - (Text.digitsOfNat d).length
  if d * Nat.pow 10 guess.toNat ≤ n * Nat.pow 10 (-guess).toNat then guess else guess - 1

/-- `n * 10 ^ exponent`. -/
def scaled (n : Nat) (exponent : Int) : Rat :=
  mkRat (n * Nat.pow 10 exponent.toNat) (Nat.pow 10 (-exponent).toNat)

/-- The nearer of the two numbers around `q` on the grid of `10 ^ exponent` that are read as `q`. -/
def onGrid (q : Rat) (exponent : Int) : Option Nat :=
  let below := q.num.natAbs * Nat.pow 10 (-exponent).toNat / (q.den * Nat.pow 10 exponent.toNat)
  let lowOk := nearestBinary (scaled below exponent) = q
  let highOk := nearestBinary (scaled (below + 1) exponent) = q
  if lowOk ∧ highOk then
    if q - scaled below exponent ≤ scaled (below + 1) exponent - q then some below
    else some (below + 1)
  else if lowOk then some below
  else if highOk then some (below + 1)
  else none

/-- Digits and exponent, with at least `digits` digits and at most `more` in addition. -/
def search (q : Rat) (log : Int) : (more digits : Nat) → Nat × Int
  | 0, digits => ((onGrid q (log + 1 - digits)).getD 0, log + 1 - digits)
  | more + 1, digits =>
      match onGrid q (log + 1 - digits) with
      | some n => (n, log + 1 - digits)
      | none => search q log more (digits + 1)

/-- Seventeen digits are always enough. -/
def digits (q : Rat) : Nat × Int := search q (floorLog10 q.num.natAbs q.den) 16 1

/-- The text of a number with 53 significant bits. -/
def chars (b : Binary64) : List Char :=
  if b.value.num = 0 then ['0']
  else
    let (n, exponent) := digits (if b.value.num < 0 then -b.value else b.value)
    let ds := Text.digitsOfNat n
    let places := (-exponent).toNat
    let padded := List.replicate (places + 1 - ds.length) '0' ++ ds ++
      List.replicate exponent.toNat '0'
    let whole := padded.take (padded.length - places)
    let sign := if b.value.num < 0 then ['-'] else []
    sign ++ whole ++ if places = 0 then [] else '.' :: padded.drop whole.length

/-- The decimal that the text of a binary fraction denotes. -/
def toDecimal? (b : Binary64) : Option Decimal := Decimal.readPlain (chars b)

end Dues.Money.Shortest
