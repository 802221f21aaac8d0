import Mathlib.Tactic.IntervalCases
import Dues.Proofs.Money.Binary64

/-! # Whole pennies in the book

An amount of whole pennies that has fifteen digits at most is kept as the binary fraction that is
nearest to it. What is read for it is the amount again, or is too large by less than a tenth of a
penny: reading rounds digit by digit, and may step over a half.
-/

namespace Dues.Money

/-- Amounts in pennies that are kept precisely. -/
def preciseLimit : Nat := Nat.pow 10 15

namespace Binary64

open Decimal (coefficientAt)

variable {d : Decimal} {b : Binary64} {c p : Nat}

theorem nearest_natCast {m : Nat} (small : m < precision) : (nearest m).value = m :=
  nearestBinary_natCast small

theorem wholeNearest_eq (nonnegative : 0 ≤ b.value) (above : (c : Rat) - 1 / 2 ≤ b.value)
    (below : b.value < c + 1 / 2) : b.wholeNearest = c := by
  obtain ⟨n, num⟩ := Int.eq_ofNat_of_zero_le (Rat.num_nonneg.mpr nonnegative)
  have value : b.value = n / b.value.den := by
    conv_lhs => rw [← Rat.num_div_den b.value, num]
    rfl
  have positive : (0 : Rat) < b.value.den := by exact_mod_cast b.value.den_pos
  have whole : divHalfUp n b.value.den = c := by
    rw [value] at above below
    generalize b.value.den = size at above below positive
    rw [le_div_iff₀ positive] at above
    rw [div_lt_iff₀ positive] at below
    have above : (c * (2 * size) : Rat) ≤ 2 * n + size := by linarith
    have below : (2 * n + size : Rat) < (c + 1) * (2 * size) := by linarith
    exact Nat.div_eq_of_lt_le (by exact_mod_cast above) (by exact_mod_cast below)
  rw [wholeNearest, num, signed_natCast, whole]
  rfl

/-- Whole part and places together come within a half of the coefficient. -/
theorem joined_near {whole rest size : Nat} (places : size = 10 ∨ size = 100) (rest_lt : rest < size)
    (small : whole * size + rest < preciseLimit) :
    let joined := nearest (whole + (nearest (rest / size)).value)
    let scaled := nearest (joined.value * size)
    0 ≤ scaled.value ∧ ((whole * size + rest : Nat) : Rat) - 1 / 2 ≤ scaled.value ∧
      scaled.value < ((whole * size + rest : Nat) : Rat) + 1 / 2 := by
  intro joined scaled
  have whole₀ : (0 : Rat) ≤ whole := whole.cast_nonneg
  have fraction₀ : (0 : Rat) ≤ (rest : Rat) / size := by positivity
  have size₀ : (0 : Rat) ≤ size := size.cast_nonneg
  obtain ⟨x₀, _⟩ := nearestBinary_near fraction₀
  obtain ⟨x₁, x₂⟩ := nearestBinary_error fraction₀
  have sum₀ : 0 ≤ whole + (nearest (rest / size)).value := add_nonneg whole₀ x₀
  obtain ⟨y₀, _⟩ := nearestBinary_near sum₀
  obtain ⟨y₁, y₂⟩ := nearestBinary_error sum₀
  have product₀ : 0 ≤ joined.value * size := mul_nonneg y₀ size₀
  obtain ⟨z₀, _⟩ := nearestBinary_near product₀
  obtain ⟨z₁, z₂⟩ := nearestBinary_error product₀
  change 0 ≤ scaled.value at z₀
  change _ * scaled.value ≤ _ at z₁
  change _ ≤ _ * scaled.value at z₂
  change _ * joined.value ≤ _ at y₁
  change _ ≤ _ * joined.value at y₂
  change _ * (nearest (rest / size)).value ≤ _ at x₁
  change _ ≤ _ * (nearest (rest / size)).value at x₂
  rw [precision_eq] at x₁ x₂ y₁ y₂ z₁ z₂
  generalize scaled.value = z at *
  generalize joined.value = y at *
  generalize (nearest (rest / size)).value = x at *
  have limit : ((whole * size + rest : Nat) : Rat) < 1000000000000000 := by exact_mod_cast small
  refine ⟨z₀, ?_⟩
  push_cast at limit ⊢
  rcases places with rfl | rfl
  · push_cast at *
    constructor <;> linarith
  · push_cast at *
    constructor <;> linarith

theorem eq_zero_of_nearest {q : Rat} (nonnegative : 0 ≤ q) (zero : (nearest q).value = 0) : q = 0 := by
  obtain ⟨_, _, half⟩ := nearestBinary_near nonnegative
  change q ≤ 2 * (nearest q).value at half
  rw [zero] at half
  linarith

/-- With places, too, an amount is kept as the nearest binary fraction. -/
theorem ofDecimal_of_places (natural : d.coefficient = c)
    (places : Nat.pow 10 d.scale = 10 ∨ Nat.pow 10 d.scale = 100) (small : c < preciseLimit) :
    (ofDecimal d).value = nearestBinary (c / (Nat.pow 10 d.scale : Nat)) := by
  have scale : d.scale ≠ 0 := by
    intro zero
    rw [zero] at places
    rcases places with one | one <;> cases one
  unfold ofDecimal
  dsimp only
  rw [natural, signed_natCast, signed_natCast, if_neg scale]
  clear scale
  generalize Nat.pow 10 d.scale = size at places ⊢
  have split : c / size * size + c % size = c := by
    rw [Nat.mul_comm]
    exact Nat.div_add_mod c size
  have positive : 0 < size := by omega
  have rest_lt : c % size < size := Nat.mod_lt c positive
  have precise {m : Nat} (le : m ≤ c) : (nearest m).value = m := by
    refine nearest_natCast (Nat.lt_of_le_of_lt le (Nat.lt_trans small ?_))
    decide
  have unit : (nearest size).value = size := nearest_natCast (by
    rcases places with rfl | rfl <;> decide)
  obtain ⟨near₀, near₁, near₂⟩ := joined_near places rest_lt (by rwa [split])
  rw [split] at near₁ near₂
  simp only [Int.cast_natCast]
  rw [unit, precise (Nat.div_le_self c size), precise (Nat.mod_le c size)]
  split
  next zero =>
    have none := eq_zero_of_nearest (by positivity) zero
    have size₀ : (size : Rat) ≠ 0 := by exact_mod_cast positive.ne'
    have none : c % size = 0 := by
      have := (div_eq_zero_iff.mp none).resolve_right size₀
      exact_mod_cast this
    have whole : (c : Rat) / size = (c / size : Nat) := by
      rw [div_eq_iff size₀]
      rw [none, Nat.add_zero] at split
      exact_mod_cast split.symm
    rw [whole]
    rfl
  next =>
    rw [wholeNearest_eq near₀ near₁ near₂, precise (Nat.le_refl c)]
    rfl

theorem ofDecimal_whole (natural : d.coefficient = c) (whole : d.scale = 0) :
    (ofDecimal d).value = nearestBinary c := by
  unfold ofDecimal
  dsimp only
  rw [natural, signed_natCast, whole, if_pos rfl, show Nat.pow 10 0 = 1 from rfl, Nat.div_one]
  rfl

theorem ofDecimal_pennies (places : d.scale ≤ 2) (natural : d.coefficient = c)
    (same : c * Nat.pow 10 (2 - d.scale) = p) (small : p < preciseLimit) :
    (ofDecimal d).value = nearestBinary (p / 100) := by
  have few : d.scale = 0 ∨ d.scale = 1 ∨ d.scale = 2 := by omega
  rcases few with scale | scale | scale
  · rw [scale, show Nat.pow 10 (2 - 0) = 100 from rfl] at same
    rw [ofDecimal_whole natural scale, ← same]
    push_cast
    rw [mul_div_cancel_right₀ _ (by norm_num)]
  · have tenth : Nat.pow 10 d.scale = 10 := by rw [scale]
    rw [scale, show Nat.pow 10 (2 - 1) = 10 from rfl] at same
    rw [ofDecimal_of_places natural (.inl tenth) (by omega), tenth, ← same]
    congr 1
    push_cast
    ring
  · have hundredth : Nat.pow 10 d.scale = 100 := by rw [scale]
    rw [scale, show Nat.pow 10 (2 - 2) = 1 from rfl, Nat.mul_one] at same
    rw [ofDecimal_of_places natural (.inr hundredth) (by omega), hundredth, ← same]
    rfl

end Binary64

end Dues.Money
