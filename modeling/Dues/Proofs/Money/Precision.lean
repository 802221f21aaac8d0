import Mathlib.Algebra.Order.Field.Basic
import Mathlib.Data.Rat.Cast.Order
import Mathlib.Tactic.FieldSimp
import Mathlib.Tactic.Linarith
import Mathlib.Tactic.Positivity
import Mathlib.Tactic.Ring
import Dues.Money.Binary64
import Dues.Proofs.Money.Decimal

/-! # How precise binary fractions are

A number that is kept as a binary fraction changes by half of the last of its 53 bits at most. Whole
numbers of 53 bits do not change at all.
-/

namespace Dues.Money

/-- Numbers that differ by less than one in this many parts may be kept as the same one. -/
def precision : Nat := Nat.pow 2 53

theorem precision_eq : (precision : Rat) = 9007199254740992 := by norm_num [precision]

theorem pow_log2_le {n d k m : Nat} (positive : n ≠ 0)
    (below : Nat.log2 d + 1 + k ≤ Nat.log2 n + m) : d * Nat.pow 2 k ≤ n * Nat.pow 2 m := by
  have upper : d < Nat.pow 2 (Nat.log2 d + 1) := Nat.lt_log2_self
  have lower : Nat.pow 2 (Nat.log2 n) ≤ n := Nat.log2_self_le positive
  calc d * Nat.pow 2 k ≤ Nat.pow 2 (Nat.log2 d + 1) * Nat.pow 2 k := Nat.mul_le_mul_right _ upper.le
    _ = Nat.pow 2 (Nat.log2 d + 1 + k) := (Nat.pow_add 2 _ _).symm
    _ ≤ Nat.pow 2 (Nat.log2 n + m) := Nat.pow_le_pow_right Nat.two_pos below
    _ = Nat.pow 2 (Nat.log2 n) * Nat.pow 2 m := Nat.pow_add 2 _ _
    _ ≤ n * Nat.pow 2 m := Nat.mul_le_mul_right _ lower

theorem floorLog2_le (n d : Nat) : floorLog2 n d ≤ Nat.log2 n - Nat.log2 d := by
  unfold floorLog2
  dsimp only
  split <;> omega

variable {n d : Nat}

theorem divHalfEven_error (positive : 0 < d) :
    2 * (divHalfEven n d * d) ≤ 2 * n + d ∧ 2 * n ≤ 2 * (divHalfEven n d * d) + d := by
  have rest := Nat.div_add_mod n d
  rw [Nat.mul_comm] at rest
  have remainder := Nat.mod_lt n positive
  unfold divHalfEven
  dsimp only
  split
  next down =>
    have atMostHalf : 2 * (n % d) ≤ d := by
      simp only [Bool.or_eq_true, decide_eq_true_eq, Bool.and_eq_true] at down
      omega
    omega
  next up =>
    have atLeastHalf : d ≤ 2 * (n % d) := by
      simp only [Bool.or_eq_true, decide_eq_true_eq, not_or] at up
      omega
    rw [Nat.add_mul, Nat.one_mul]
    omega

theorem pow_floorLog2_le (positive : n ≠ 0) :
    d * Nat.pow 2 (floorLog2 n d).toNat ≤ n * Nat.pow 2 (-floorLog2 n d).toNat := by
  unfold floorLog2
  dsimp only
  split
  next le => exact le
  next => exact pow_log2_le positive (by omega)

/-- In units of the last bit, a number has 53 bits. -/
theorem unit_le {u : Int} (positive : n ≠ 0) (unit : u = floorLog2 n d - 52) :
    Nat.pow 2 52 * (d * Nat.pow 2 u.toNat) ≤ n * Nat.pow 2 (-u).toNat := by
  have power := pow_floorLog2_le (d := d) positive
  generalize floorLog2 n d = log at unit power
  have exponents : 52 + u.toNat + (-log).toNat = (-u).toNat + log.toNat := by omega
  have cancel : 0 < Nat.pow 2 (-log).toNat := Nat.pow_pos Nat.two_pos
  refine Nat.le_of_mul_le_mul_right ?_ cancel
  calc Nat.pow 2 52 * (d * Nat.pow 2 u.toNat) * Nat.pow 2 (-log).toNat
      = d * (2 ^ 52 * 2 ^ u.toNat * 2 ^ (-log).toNat) := by
        change 2 ^ 52 * (d * 2 ^ u.toNat) * 2 ^ (-log).toNat = _
        ring
    _ = Nat.pow 2 (-u).toNat * (d * Nat.pow 2 log.toNat) := by
        rw [← pow_add, ← pow_add, exponents, pow_add]
        exact Nat.mul_left_comm d _ _
    _ ≤ Nat.pow 2 (-u).toNat * (n * Nat.pow 2 (-log).toNat) := Nat.mul_le_mul_left _ power
    _ = n * Nat.pow 2 (-u).toNat * Nat.pow 2 (-log).toNat := by
        rw [← Nat.mul_assoc, Nat.mul_comm _ n]

theorem nearestBinary_pos {q : Rat} (positive : 0 < q) :
    ∃ u : Int, u = floorLog2 q.num.natAbs q.den - 52 ∧ nearestBinary q =
      divHalfEven (q.num.natAbs * Nat.pow 2 (-u).toNat) (q.den * Nat.pow 2 u.toNat) *
        (Nat.pow 2 u.toNat : Nat) / (Nat.pow 2 (-u).toNat : Nat) := by
  have numerator : 0 < q.num := Rat.num_pos.mpr positive
  refine ⟨_, rfl, ?_⟩
  unfold nearestBinary
  dsimp only
  rw [if_neg numerator.ne', if_neg numerator.not_gt, Rat.mkRat_eq_div]
  push_cast
  rfl

/-- Rounding changes a number by one in `precision` parts at most. -/
theorem nearestBinary_error {q : Rat} (nonnegative : 0 ≤ q) :
    precision * nearestBinary q ≤ (precision + 1) * q ∧
      (precision - 1) * q ≤ precision * nearestBinary q := by
  rcases nonnegative.eq_or_lt with rfl | positive
  · have zero : nearestBinary 0 = 0 := rfl
    rw [zero]
    simp
  · obtain ⟨u, unit, rounded⟩ := nearestBinary_pos positive
    have numerator : 0 < q.num := Rat.num_pos.mpr positive
    have bits := unit_le (d := q.den) (by omega) unit
    obtain ⟨above, below⟩ := divHalfEven_error (n := q.num.natAbs * Nat.pow 2 (-u).toNat)
      (d := q.den * Nat.pow 2 u.toNat) (Nat.mul_pos q.den_pos (Nat.pow_pos Nat.two_pos))
    have quotient : q = q.num.natAbs / q.den := by
      have abs : (q.num.natAbs : Int) = q.num := by omega
      conv_lhs => rw [← Rat.num_div_den q, ← abs]
      rfl
    rw [rounded]
    have den : (0 : Rat) < q.den := by exact_mod_cast q.den_pos
    generalize q.num.natAbs = n at quotient bits above below ⊢
    generalize q.den = d at quotient bits above below den ⊢
    subst quotient
    generalize divHalfEven (n * Nat.pow 2 (-u).toNat) (d * Nat.pow 2 u.toNat) = k at above below ⊢
    have down : (0 : Rat) < (Nat.pow 2 (-u).toNat : Nat) := by
      exact_mod_cast Nat.pow_pos (n := (-u).toNat) Nat.two_pos
    generalize Nat.pow 2 u.toNat = up at bits above below ⊢
    generalize Nat.pow 2 (-u).toNat = low at bits above below down ⊢
    have bits : (4503599627370496 : Rat) * (d * up) ≤ n * low := by exact_mod_cast bits
    have above : 2 * ((k : Rat) * (d * up)) ≤ 2 * (n * low) + d * up := by exact_mod_cast above
    have below : 2 * ((n : Rat) * low) ≤ 2 * (k * (d * up)) + d * up := by exact_mod_cast below
    rw [precision_eq]
    constructor
    · rw [← mul_div_assoc, ← mul_div_assoc, div_le_div_iff₀ down den]
      linarith
    · rw [← mul_div_assoc, ← mul_div_assoc, div_le_div_iff₀ den down]
      linarith

theorem nearestBinary_natCast {m : Nat} (small : m < precision) : nearestBinary m = m := by
  rcases Nat.eq_zero_or_pos m with rfl | positive
  · rfl
  · obtain ⟨u, unit, rounded⟩ := nearestBinary_pos (q := m) (by exact_mod_cast positive)
    rw [rounded]
    have num : (m : Rat).num.natAbs = m := rfl
    have den : (m : Rat).den = 1 := rfl
    rw [num, den] at unit ⊢
    have log : Nat.log2 m < 53 := (Nat.log2_lt positive.ne').mpr small
    have whole : u.toNat = 0 := by
      have := floorLog2_le m 1
      omega
    have low : (0 : Rat) < (Nat.pow 2 (-u).toNat : Nat) := by
      exact_mod_cast Nat.pow_pos (n := (-u).toNat) Nat.two_pos
    rw [whole, show Nat.pow 2 0 = 1 from rfl, Nat.mul_one, divHalfEven_one]
    push_cast
    rw [mul_one, mul_div_cancel_right₀ _ (by exact_mod_cast low.ne')]

end Dues.Money
