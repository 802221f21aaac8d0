import Dues.Proofs.Money.Overflow
import Dues.Proofs.Register.Value

/-! # Reading undoes writing

A profile value that was written is read back as it was, and no two values are written alike. Of an
amount there is written what it comes to in whole pennies, whatever its size and its sign. So an
amount is read back as the same number if it has two places at most, and as one that is less than a
penny away otherwise.
-/

namespace Dues.Money.Decimal

variable {d r : Decimal}

/-- An amount that has two places at most: a whole number of pennies, of either sign. -/
def TwoPlaces (d : Decimal) : Prop := ∃ pennies : Int, 100 * d.value = pennies

/-- The pennies that are written of an amount. Further places are cut off towards zero. -/
def writtenPennies (d : Decimal) : Int := if d.isNegative then -(d.cutOff : Int) else d.cutOff

/-- What is cut off has the sign of the amount, and is less than a penny. -/
theorem writtenPennies_add_tail (d : Decimal) : ∃ rest : Int,
    d.writtenPennies * (Nat.pow 10 d.scale : Nat) + rest = d.coefficient * 100 ∧
      |rest| < (Nat.pow 10 d.scale : Nat) := by
  have parts := d.natAbs_eq_cutOff_add_tail
  have small := d.tail_lt
  generalize Nat.pow 10 d.scale = p at parts small ⊢
  zify at parts
  unfold writtenPennies
  cases sign : d.isNegative with
  | true =>
      refine ⟨-d.tail, ?_, by rw [abs_neg, Nat.abs_cast]; exact_mod_cast small⟩
      rw [abs_of_neg (of_decide_eq_true sign)] at parts
      rw [if_pos rfl]
      linarith
  | false =>
      refine ⟨d.tail, ?_, by rw [Nat.abs_cast]; exact_mod_cast small⟩
      rw [abs_of_nonneg (Int.not_lt.mp (of_decide_eq_false sign))] at parts
      rw [if_neg Bool.false_ne_true]
      linarith

theorem abs_hundredfold_sub_writtenPennies_lt (d : Decimal) :
    |100 * d.value - d.writtenPennies| < 1 := by
  obtain ⟨rest, parts, small⟩ := d.writtenPennies_add_tail
  have positive := ten_pow_pos' d.scale
  have number := d.value_mul_pow
  have parts : (d.writtenPennies : Rat) * (Nat.pow 10 d.scale : Nat) + rest =
      d.coefficient * 100 := by exact_mod_cast parts
  have small : |(rest : Rat)| < (Nat.pow 10 d.scale : Nat) := by exact_mod_cast small
  have away : (100 * d.value - d.writtenPennies) * (Nat.pow 10 d.scale : Nat) = rest := by
    linarith
  refine lt_of_mul_lt_mul_right ?_ positive.le
  rwa [← abs_of_pos positive, ← abs_mul, abs_of_pos positive, away, one_mul]

theorem hundredfold_eq_coefficientAt (places : d.scale ≤ 2) :
    100 * d.value = d.coefficientAt 2 := by
  have value := d.value_mul_pow_of_le places
  rwa [show Nat.pow 10 2 = 100 from rfl, mul_comm] at value

theorem twoPlaces_of_scale_le (places : d.scale ≤ 2) : d.TwoPlaces :=
  ⟨d.coefficientAt 2, hundredfold_eq_coefficientAt places⟩

theorem TwoPlaces.hundredfold_eq (places : d.TwoPlaces) : 100 * d.value = d.writtenPennies := by
  obtain ⟨pennies, whole⟩ := places
  have near := d.abs_hundredfold_sub_writtenPennies_lt
  rw [whole] at near ⊢
  have near : |pennies - d.writtenPennies| < 1 := by exact_mod_cast near
  exact congrArg Int.cast (sub_eq_zero.mp (Int.abs_lt_one_iff.mp near))

end Dues.Money.Decimal

namespace Dues.Register.ValueType

open Dues.Money (Decimal)

/-- The written form determines the value, if every value is read back as it was. -/
theorem encode_injective {t : ValueType} {v w : t.Value} (readV : t.decode (t.encode v) = some v)
    (readW : t.decode (t.encode w) = some w) (same : t.encode v = t.encode w) : v = w :=
  Option.some.inj (calc
    some v = t.decode (t.encode v) := readV.symm
    _ = t.decode (t.encode w) := by rw [same]
    _ = some w := readW)

/-- An amount is read back as the pennies that were written of it. -/
theorem decode_decimal_value (d : Decimal) : ∃ r : Decimal,
    decimal.decode (decimal.encode d) = some r ∧ 100 * r.value = d.writtenPennies := by
  obtain ⟨r, read, places, pennies⟩ := decode_decimal d
  refine ⟨r, read, ?_⟩
  rw [Decimal.hundredfold_eq_coefficientAt places, pennies]
  rfl

theorem abs_decoded_sub_lt {d r : Decimal} (read : 100 * r.value = d.writtenPennies) :
    |r.value - d.value| < 1 / 100 := by
  have near := abs_lt.mp d.abs_hundredfold_sub_writtenPennies_lt
  rw [abs_lt]
  constructor
  · linarith
  · linarith

theorem decoded_eq {d r : Decimal} (read : 100 * r.value = d.writtenPennies)
    (places : d.TwoPlaces) : r.value = d.value := by
  have whole := places.hundredfold_eq
  linarith

/-- Reading undoes writing at every type of profile value: dates of all years that there are,
moments, whole numbers of 32 bits, flags and texts are read back as they were, and amounts up to
what they have beyond two places. No two values that are kept in full have the same written form. -/
theorem decode_undoes_encode :
    (∀ t : ValueType, t ≠ .decimal → ∀ v : t.Value, t.Fits v → t.decode (t.encode v) = some v) ∧
    (∀ d : Decimal, ∃ r : Decimal, decimal.decode (decimal.encode d) = some r ∧
      |r.value - d.value| < 1 / 100 ∧ (d.TwoPlaces → r.value = d.value)) ∧
    (∀ t : ValueType, t ≠ .decimal → ∀ v w : t.Value, t.Fits v → t.Fits w →
      t.encode v = t.encode w → v = w) ∧
    (∀ d e : Decimal, d.TwoPlaces → e.TwoPlaces → decimal.encode d = decimal.encode e →
      d.value = e.value) := by
  refine ⟨fun t notAmount v fits => decode_encode_exact notAmount fits, ?_, ?_, ?_⟩
  · intro d
    obtain ⟨r, read, value⟩ := decode_decimal_value d
    exact ⟨r, read, abs_decoded_sub_lt value, decoded_eq value⟩
  · intro t notAmount v w fitsV fitsW same
    exact encode_injective (decode_encode_exact notAmount fitsV)
      (decode_encode_exact notAmount fitsW) same
  · intro d e placesD placesE same
    obtain ⟨r, readD, valueD⟩ := decode_decimal_value d
    obtain ⟨s, readE, valueE⟩ := decode_decimal_value e
    obtain rfl : r = s := Option.some.inj (calc
      some r = decimal.decode (decimal.encode d) := readD.symm
      _ = decimal.decode (decimal.encode e) := by rw [same]
      _ = some s := readE)
    rw [← decoded_eq valueD placesD, ← decoded_eq valueE placesE]

/-- The first day that there is. -/
def firstDay : Time.Date := (Time.Date.of? Time.firstYear 1 1).get (by decide)

/-- The second inserted behind the last day that there is. -/
def lastMoment : Time.Moment :=
  ⟨⟨Time.lastYear, 12, 31, by decide, by decide, by decide⟩, 23, 59, 60,
    by decide, by decide, by decide⟩

/-- The least amount with pence: twenty-nine digits, two of them behind the point. -/
def leastAmount : Decimal := ⟨-79228162514264337593543950335, 2, by decide, by decide⟩

theorem decode_undoes_encode_at_bounds :
    integer.decode (integer.encode (-2147483648)) = some (-2147483648) ∧
    date.decode (date.encode firstDay) = some firstDay ∧
    moment.decode (moment.encode lastMoment) = some lastMoment ∧
    leastAmount.TwoPlaces ∧ ∃ r : Decimal, decimal.decode (decimal.encode leastAmount) = some r ∧
      r.value = leastAmount.value := by
  have places : leastAmount.TwoPlaces := Decimal.twoPlaces_of_scale_le (by decide)
  obtain ⟨exact, amounts, _⟩ := decode_undoes_encode
  obtain ⟨r, read, _, same⟩ := amounts leastAmount
  exact ⟨exact .integer (by decide) (-2147483648) rfl, exact .date (by decide) firstDay trivial,
    exact .moment (by decide) lastMoment trivial, places, r, read, same places⟩

end Dues.Register.ValueType
