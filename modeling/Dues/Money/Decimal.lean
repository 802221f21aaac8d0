import Dues.Money.Rounding

/-! # Decimals

Amounts of money are decimal numbers of limited size. The number of places belongs to the amount:
`1.5` and `1.50` denote the same number and are written differently.
-/

namespace Dues.Money

/-- Coefficients stay below this. -/
def coefficientLimit : Nat := Nat.pow 2 96

def maxScale : Nat := 28

/-- The number `coefficient / 10 ^ scale`. -/
structure Decimal where
  coefficient : Int
  scale : Nat
  coefficient_lt : coefficient.natAbs < coefficientLimit
  scale_le : scale ≤ maxScale
  deriving DecidableEq

namespace Decimal

def of? (coefficient : Int) (scale : Nat) : Option Decimal :=
  if h : coefficient.natAbs < coefficientLimit ∧ scale ≤ maxScale then
    some ⟨coefficient, scale, h.1, h.2⟩
  else none

def zero : Decimal := ⟨0, 0, by decide, by decide⟩

instance : Inhabited Decimal := ⟨zero⟩

def isZero (d : Decimal) : Bool := d.coefficient = 0

def isNegative (d : Decimal) : Bool := d.coefficient < 0

def isPositive (d : Decimal) : Bool := 0 < d.coefficient

/-- The number it denotes. -/
def value (d : Decimal) : Rat := mkRat d.coefficient (Nat.pow 10 d.scale)

/-- `n / 10 ^ (scale + dropped)` with as many of `scale` places as fit, halves to even. -/
def fitDropping (n : Int) (dropped : Nat) : (scale : Nat) → Option Decimal
  | 0 => of? (signed (divHalfEven · (Nat.pow 10 dropped)) n) 0
  | scale + 1 =>
      match of? (signed (divHalfEven · (Nat.pow 10 dropped)) n) (scale + 1) with
      | some d => some d
      | none => fitDropping n (dropped + 1) scale

/-- `n / 10 ^ scale` with as many places as fit, none if it is too large for any number of them. -/
def fit (n : Int) (scale : Nat) : Option Decimal := fitDropping n 0 scale

/-- The coefficient that the number has at a scale that is not smaller. -/
def coefficientAt (scale : Nat) (d : Decimal) : Int := d.coefficient * Nat.pow 10 (scale - d.scale)

end Decimal

end Dues.Money
