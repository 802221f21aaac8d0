import Dues.Proofs.Money.Precision

/-! # Stored amounts can be read

Half or double of a number is far from what rounding makes of it, but enough to see that an amount
that can be charged stays of a size that can be read back.
-/

namespace Dues.Money

theorem nearestBinary_near {q : Rat} (nonnegative : 0 ≤ q) :
    0 ≤ nearestBinary q ∧ nearestBinary q ≤ 2 * q ∧ q ≤ 2 * nearestBinary q := by
  obtain ⟨above, below⟩ := nearestBinary_error nonnegative
  rw [precision_eq] at above below
  refine ⟨?_, ?_, ?_⟩ <;> linarith

namespace Binary64

theorem nearest_bounds {q bound : Rat} (nonnegative : 0 ≤ q) (le : q ≤ bound) :
    0 ≤ (nearest q).value ∧ (nearest q).value ≤ 2 * bound := by
  obtain ⟨positive, upper, _⟩ := nearestBinary_near nonnegative
  exact ⟨positive, upper.trans (by linarith)⟩

theorem wholeNearest_bounds {b : Binary64} {bound : Rat} (nonnegative : 0 ≤ b.value)
    (le : b.value ≤ bound) : 0 ≤ b.wholeNearest ∧ b.wholeNearest ≤ bound + 1 := by
  obtain ⟨n, num⟩ := Int.eq_ofNat_of_zero_le (Rat.num_nonneg.mpr nonnegative)
  have den : (0 : Rat) < b.value.den := by exact_mod_cast b.value.den_pos
  have value : (n : Rat) / b.value.den = b.value := by
    conv_rhs => rw [← Rat.num_div_den b.value, num]
    rfl
  have below : divHalfUp n b.value.den * (2 * b.value.den) ≤ 2 * n + b.value.den :=
    Nat.div_mul_le_self _ _
  have below : (divHalfUp n b.value.den : Rat) * (2 * b.value.den) ≤ 2 * n + b.value.den := by
    exact_mod_cast below
  unfold wholeNearest
  rw [num, signed_natCast]
  push_cast
  refine ⟨by positivity, ?_⟩
  calc (divHalfUp n b.value.den : Rat)
      ≤ n / b.value.den + 1 := by
        rw [div_add_one den.ne', le_div_iff₀ den]
        linarith
    _ ≤ bound + 1 := by
        rw [value]
        linarith

theorem ofDecimal_bounds {d : Decimal} {n : Nat} (h : d.AtMost n) :
    0 ≤ (ofDecimal d).value ∧ (ofDecimal d).value ≤ 32 * n + 136 := by
  obtain ⟨c, same, le⟩ := h
  have ten := ten_pow_pos d.scale
  unfold ofDecimal
  dsimp only
  rw [same, signed_natCast, signed_natCast]
  generalize Nat.pow 10 d.scale = size at le ten ⊢
  have quotient : (((c / size : Nat) : Int) : Rat) ≤ n := by
    exact_mod_cast Nat.div_le_of_le_mul (Nat.mul_comm n size ▸ le)
  have remainder : (((c % size : Nat) : Int) : Rat) ≤ size := by
    exact_mod_cast (Nat.mod_lt c ten).le
  have size₁ : (1 : Rat) ≤ ((size : Int) : Rat) := by exact_mod_cast ten
  have n₀ : (0 : Rat) ≤ n := n.cast_nonneg
  obtain ⟨whole₀, whole⟩ := nearest_bounds (by exact_mod_cast Nat.zero_le _) quotient
  split
  next => exact ⟨whole₀, by linarith⟩
  next =>
    obtain ⟨_, _, half⟩ := nearestBinary_near (zero_le_one.trans size₁)
    change _ ≤ 2 * (nearest ((size : Int) : Rat)).value at half
    generalize (nearest ((size : Int) : Rat)).value = unit at half ⊢
    have unit₀ : 0 < unit := by linarith
    obtain ⟨rest₀, rest⟩ := nearest_bounds (by exact_mod_cast Nat.zero_le _) remainder
    have fraction : (nearest (((c % size : Nat) : Int) : Rat)).value / unit ≤ 4 := by
      rw [div_le_iff₀ unit₀]
      push_cast at half
      linarith
    obtain ⟨places₀, places⟩ := nearest_bounds (div_nonneg rest₀ unit₀.le) fraction
    split
    next => exact ⟨whole₀, by linarith⟩
    next =>
      obtain ⟨joined₀, joined⟩ := nearest_bounds (add_nonneg whole₀ places₀)
        (add_le_add whole places)
      obtain ⟨scaled₀, scaled⟩ := nearest_bounds (mul_nonneg joined₀ unit₀.le)
        (mul_le_mul_of_nonneg_right joined unit₀.le)
      obtain ⟨points₀, points⟩ := wholeNearest_bounds scaled₀ scaled
      obtain ⟨rounded₀, rounded⟩ := nearest_bounds points₀ points
      have shifted : (nearest (nearest ((nearest ((nearest (((c / size : Nat) : Int) : Rat)).value +
          (nearest ((nearest (((c % size : Nat) : Int) : Rat)).value / unit)).value)).value *
            unit)).wholeNearest).value / unit ≤ 16 * n + 68 := by
        rw [div_le_iff₀ unit₀]
        have one : 1 ≤ 2 * unit := size₁.trans half
        linarith
      obtain ⟨value₀, value⟩ := nearest_bounds (div_nonneg rounded₀ unit₀.le) shifted
      exact ⟨value₀, by linarith⟩

/-- Digits that make a coefficient and, with their places, a number that is at most `bound`. -/
structure Digits (bound : Nat) (digits : Nat × Nat) : Prop where
  small : digits.1 < coefficientLimit
  le : digits.1 ≤ bound * Nat.pow 10 digits.2

section Digits

variable {bound n places halvings : Nat}

theorem half_le {m : Nat} (h : n ≤ m * Nat.pow 2 (halvings + 1)) : n / 2 ≤ m * Nat.pow 2 halvings := by
  have double : m * Nat.pow 2 (halvings + 1) = m * Nat.pow 2 halvings * 2 := Nat.mul_assoc _ _ _ |>.symm
  omega

theorem tenth_le {m : Nat} (h : n ≤ m * Nat.pow 10 (places + 1)) : n ≤ m * Nat.pow 10 places * 10 := by
  rw [Nat.mul_assoc]
  exact h

theorem removeHalvings_digits (limit : bound < coefficientLimit)
    (small : n < coefficientLimit ∨ n ≤ bound * Nat.pow 2 halvings)
    (le : n ≤ bound * Nat.pow 10 places * Nat.pow 2 halvings) :
    Digits bound (removeHalvings n places halvings) := by
  induction halvings generalizing n places with
  | zero =>
      have one (m : Nat) : m * Nat.pow 2 0 = m := Nat.mul_one m
      rw [one] at small le
      exact ⟨small.elim id fun le => Nat.lt_of_le_of_lt le limit, le⟩
  | succ halvings ih =>
      have half := half_le le
      have smaller : n / 2 < coefficientLimit ∨ n / 2 ≤ bound * Nat.pow 2 halvings :=
        small.imp (Nat.lt_of_le_of_lt (Nat.div_le_self n 2)) half_le
      unfold removeHalvings
      split
      next => exact ih smaller half
      next =>
        split
        next fits =>
          refine ih (.inl fits) ?_
          have tenfold : bound * Nat.pow 10 (places + 1) * Nat.pow 2 halvings =
              5 * (bound * Nat.pow 10 places * Nat.pow 2 (halvings + 1)) := by
            change bound * 10 ^ (places + 1) * 2 ^ halvings =
              5 * (bound * 10 ^ places * 2 ^ (halvings + 1))
            ring
          rw [tenfold]
          exact Nat.mul_le_mul_left 5 le
        next => exact ih smaller half

theorem dropPlaces_digits (tooMany : Nat → Nat → Bool) (h : Digits bound (n, places)) :
    Digits bound (dropPlaces tooMany n places) ∧ (dropPlaces tooMany n places).2 ≤ places := by
  induction places generalizing n with
  | zero => exact ⟨h, Nat.le_refl 0⟩
  | succ places ih =>
      unfold dropPlaces
      split
      next =>
        have fewer : Digits bound (divHalfUp n 10, places) :=
          ⟨Nat.lt_of_le_of_lt (divHalfUp_le (by decide) (Nat.le_mul_of_pos_right n (by decide)))
            h.small, divHalfUp_le (by decide) (tenth_le h.le)⟩
        obtain ⟨digits, kept⟩ := ih fewer
        exact ⟨digits, Nat.le_succ_of_le kept⟩
      next => exact ⟨h, Nat.le_refl _⟩

theorem dropPlaces_maxScale :
    (dropPlaces (fun _ places => maxScale < places) n places).2 ≤ maxScale := by
  induction places generalizing n with
  | zero => exact Nat.zero_le _
  | succ places ih =>
      unfold dropPlaces
      split
      next => exact ih
      next few => exact Nat.le_of_not_lt (of_decide_eq_false (Bool.eq_false_iff.mpr few))

theorem dropZeros_digits (h : Digits bound (n, places)) :
    Digits bound (dropZeros n places) ∧ (dropZeros n places).2 ≤ places := by
  induction places generalizing n with
  | zero => exact ⟨h, Nat.le_refl 0⟩
  | succ places ih =>
      unfold dropZeros
      split
      next =>
        have fewer : Digits bound (n / 10, places) :=
          ⟨Nat.lt_of_le_of_lt (Nat.div_le_self n 10) h.small,
            Nat.div_le_of_le_mul (Nat.mul_comm _ 10 ▸ tenth_le h.le)⟩
        obtain ⟨digits, kept⟩ := ih fewer
        exact ⟨digits, Nat.le_succ_of_le kept⟩
      next => exact ⟨h, Nat.le_refl _⟩

theorem Digits.of? {digits : Nat × Nat} (h : Digits bound digits) (places : digits.2 ≤ maxScale) :
    ∃ d, Decimal.of? digits.1 digits.2 = some d ∧ d.AtMost bound :=
  ⟨⟨digits.1, digits.2, h.small, places⟩, Decimal.of?_eq_some.mpr ⟨⟨h.small, places⟩, rfl, rfl⟩,
    digits.1, rfl, h.le⟩

end Digits

/-- Binary fractions that are not too large are read, though not always as what they are. -/
theorem toDecimal?_succeeds {b : Binary64} {bound : Nat} (nonnegative : 0 ≤ b.value)
    (le : b.value ≤ bound) (limit : 2 * bound < coefficientLimit) :
    ∃ d, b.toDecimal? = some d ∧ d.AtMost (2 * bound) := by
  have num := Rat.num_nonneg.mpr nonnegative
  have scaled : b.value.num.natAbs ≤ bound * b.value.den := by
    have den : (0 : Rat) < b.value.den := by exact_mod_cast b.value.den_pos
    have abs : ((b.value.num.natAbs : Int) : Rat) = (b.value.num : Rat) := by
      rw [Int.natAbs_of_nonneg num]
    rw [← Rat.num_div_den b.value, div_le_iff₀ den, ← abs] at le
    exact_mod_cast le
  have halved : b.value.num.natAbs ≤ 2 * bound * Nat.pow 2 (Nat.log2 b.value.den) := by
    have below : b.value.den < Nat.pow 2 (Nat.log2 b.value.den) * 2 := Nat.lt_log2_self
    calc b.value.num.natAbs ≤ bound * (Nat.pow 2 (Nat.log2 b.value.den) * 2) :=
          scaled.trans (Nat.mul_le_mul_left _ below.le)
      _ = 2 * bound * Nat.pow 2 (Nat.log2 b.value.den) := by ring
  have unhalved : Digits (2 * bound)
      (removeHalvings b.value.num.natAbs 0 (Nat.log2 b.value.den)) :=
    removeHalvings_digits limit (.inr halved)
      (by rwa [show Nat.pow 10 0 = 1 from rfl, Nat.mul_one])
  obtain ⟨shown, _⟩ := dropPlaces_digits (fun _ places => maxScale < places) unhalved
  obtain ⟨exactly, fewer⟩ := dropPlaces_digits (fun n _ => exactLimit ≤ n) shown
  obtain ⟨digits, fewest⟩ := dropZeros_digits exactly
  have places := (fewest.trans fewer).trans dropPlaces_maxScale
  unfold toDecimal?
  dsimp only
  rw [if_neg (not_lt.mpr num)]
  exact digits.of? places

theorem toDecimal?_ofDecimal {d : Decimal} {n : Nat} (h : d.AtMost n)
    (limit : 2 * (32 * n + 136) < coefficientLimit) :
    ∃ back, (ofDecimal d).toDecimal? = some back ∧ back.AtMost (2 * (32 * n + 136)) := by
  obtain ⟨nonnegative, le⟩ := ofDecimal_bounds h
  exact toDecimal?_succeeds nonnegative (by exact_mod_cast le) limit

end Binary64

end Dues.Money
