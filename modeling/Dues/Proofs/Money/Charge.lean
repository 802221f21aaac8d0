import Dues.Proofs.Money.Within

/-! # What is shown and what is charged

An amount is shown with the pennies that it has, further places being cut off. It is charged in the
nearest pennies, which is one more from half a penny on.
-/

namespace Dues.Money.Decimal

variable {d : Decimal} {c p : Nat} {pennies : Int}

/-- What is cut off from the pennies of an amount, in units of its last place. -/
def tail (d : Decimal) : Nat := d.coefficient.natAbs * 100 % Nat.pow 10 d.scale

theorem tail_lt (d : Decimal) : d.tail < Nat.pow 10 d.scale := Nat.mod_lt _ (ten_pow_pos _)

theorem natAbs_eq_cutOff_add_tail (d : Decimal) :
    d.cutOff * Nat.pow 10 d.scale + d.tail = d.coefficient.natAbs * 100 := by
  rw [cutOff, wholePennies, tail, Nat.mul_comm]
  exact Nat.div_add_mod _ _

theorem cutOff_add_tail (natural : d.coefficient = c) :
    d.cutOff * Nat.pow 10 d.scale + d.tail = c * 100 := by
  have abs : d.coefficient.natAbs = c := by omega
  rw [natAbs_eq_cutOff_add_tail, abs]

/-- An amount is charged as it is cut off, or with a penny more. -/
theorem pennies_cutOff (natural : d.coefficient = c)
    (h : d.pennies = .ok (some pennies)) : pennies = d.cutOff ∨ pennies = d.cutOff + 1 := by
  have parts := cutOff_add_tail natural
  have rest := d.tail_lt
  have least := (pennies_bounds (n := d.cutOff) (m := d.cutOff + 1) natural h).1 (by omega)
  have most := (pennies_bounds (n := d.cutOff) (m := d.cutOff + 1) natural h).2 (by
    rw [Nat.add_mul]
    omega)
  omega

/-- Where there is room for all places of the hundredfold, it is the penny more from a half on. -/
theorem pennies_eq_cutOff_iff (natural : d.coefficient = c)
    (room : c * 100 < coefficientLimit) (h : d.pennies = .ok (some pennies)) :
    pennies = d.cutOff ↔ 2 * d.tail < Nat.pow 10 d.scale := by
  obtain ⟨hundredfold, k, fits, whole, rfl, _⟩ := pennies_ok natural h
  obtain ⟨kept, fits', coefficient, scale⟩ := fit_of_lt room d.scale_le
  obtain rfl := Option.some.inj (fits.symm.trans fits')
  obtain rfl : k = c * 100 := by omega
  have rest := d.tail_lt
  rw [scale, ← cutOff_add_tail natural, divHalfUp_add rest]
  split <;> omega

theorem pennies_of_within (whole : d.Within (10 * p) (10 * p))
    (h : d.pennies = .ok (some pennies)) : pennies = p := by
  obtain ⟨c, natural, lower, upper⟩ := whole
  rw [Nat.mul_assoc] at lower upper
  obtain ⟨least, most⟩ := pennies_bounds (n := p) (m := p) natural h
  have least := least (by omega)
  have most := most (by omega)
  omega

end Dues.Money.Decimal
