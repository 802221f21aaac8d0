import Dues.Money.Decimal

/-! # Amounts as binary fractions

The sales table keeps its amounts as binary fractions of 53 significant bits. An amount that goes
in comes out as the decimal that is nearest within the digits such a fraction can tell apart.
-/

namespace Dues.Money

/-- The largest power of two that is not above `n / d`, as its exponent; both are positive. -/
def floorLog2 (n d : Nat) : Int :=
  let guess : Int := (Nat.log2 n : Int) - Nat.log2 d
  if d * Nat.pow 2 guess.toNat ≤ n * Nat.pow 2 (-guess).toNat then guess else guess - 1

/-- The nearest number with 53 significant bits, halves to even. -/
def nearestBinary (q : Rat) : Rat :=
  if q.num = 0 then 0
  else
    let n := q.num.natAbs
    let unit := floorLog2 n q.den - 52
    let bits := divHalfEven (n * Nat.pow 2 (-unit).toNat) (q.den * Nat.pow 2 unit.toNat)
    let size := mkRat (bits * Nat.pow 2 unit.toNat) (Nat.pow 2 (-unit).toNat)
    if q.num < 0 then -size else size

/-- A number with at most 53 significant bits. -/
structure Binary64 where
  value : Rat
  deriving DecidableEq

namespace Binary64

/-- Arithmetic on binary fractions rounds each exact result. -/
def nearest (q : Rat) : Binary64 := ⟨nearestBinary q⟩

def zero : Binary64 := ⟨0⟩

/-- The nearest whole number, halves away from zero. -/
def wholeNearest (b : Binary64) : Rat := signed (divHalfUp · b.value.den) b.value.num

/-- The whole part and the places are converted apart, joined, and rounded to the places that the
amount has. -/
def ofDecimal (d : Decimal) : Binary64 :=
  let size := Nat.pow 10 d.scale
  let whole := nearest (signed (· / size) d.coefficient : Int)
  if d.scale = 0 then whole
  else
    let unit := nearest (size : Int)
    let places := nearest ((nearest (signed (· % size) d.coefficient : Int)).value / unit.value)
    if places.value = 0 then whole
    else
      let joined := nearest (whole.value + places.value)
      let scaled := nearest (joined.value * unit.value)
      nearest ((nearest scaled.wholeNearest).value / unit.value)

/-- Rewrites `n * 10 ^ (-places) / 2 ^ halvings` without halvings. Multiplying by five keeps all
digits as long as the product fits. -/
def removeHalvings (n places : Nat) : (halvings : Nat) → Nat × Nat
  | 0 => (n, places)
  | halvings + 1 =>
      if n % 2 = 0 then removeHalvings (n / 2) places halvings
      else if 5 * n < coefficientLimit then removeHalvings (5 * n) (places + 1) halvings
      else removeHalvings (n / 2) places halvings

/-- Drops places for as long as `tooMany` says so, rounding at each. -/
def dropPlaces (tooMany : Nat → Nat → Bool) (n : Nat) : (places : Nat) → Nat × Nat
  | 0 => (n, 0)
  | places + 1 =>
      if tooMany n (places + 1) then dropPlaces tooMany (divHalfUp n 10) places
      else (n, places + 1)

/-- Drops zeros at the end of the places. -/
def dropZeros (n : Nat) : (places : Nat) → Nat × Nat
  | 0 => (n, 0)
  | places + 1 => if n % 10 = 0 then dropZeros (n / 10) places else (n, places + 1)

/-- Digits beyond these are not told apart. -/
def exactLimit : Nat := Nat.pow 2 52

/-- The decimal that a stored amount is read as, none if it is too large. -/
def toDecimal? (b : Binary64) : Option Decimal :=
  let n := b.value.num.natAbs
  let halvings := Nat.log2 b.value.den
  let (n, places) := removeHalvings n 0 halvings
  let (n, places) := dropPlaces (fun _ places => maxScale < places) n places
  let (n, places) := dropPlaces (fun n _ => exactLimit ≤ n) n places
  let (n, places) := dropZeros n places
  Decimal.of? (if b.value.num < 0 then -(n : Int) else n) places

end Binary64

end Dues.Money
