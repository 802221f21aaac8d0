/-! # Rounding

Quotients rounded to a whole number. The two rules differ only on quotients halfway between two
whole numbers.
-/

namespace Dues.Money

/-- The nearest whole number to `n / d`, the larger one of two. -/
def divHalfUp (n d : Nat) : Nat := (2 * n + d) / (2 * d)

/-- The nearest whole number to `n / d`, the even one of two. -/
def divHalfEven (n d : Nat) : Nat :=
  let q := n / d
  let twice := 2 * (n % d)
  if twice < d || (twice = d && q % 2 = 0) then q else q + 1

/-- A rule for natural numbers applied to the size of `n`, keeping its sign. -/
def signed (rule : Nat → Nat) (n : Int) : Int :=
  if n < 0 then -(rule n.natAbs : Int) else rule n.natAbs

end Dues.Money
