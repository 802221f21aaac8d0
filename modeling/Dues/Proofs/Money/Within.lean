import Mathlib.Algebra.GroupWithZero.Nat
import Mathlib.Data.List.Forall2
import Dues.Proofs.Money.Written

/-! # Amounts to a tenth of a penny

Bounds of amounts in thousandths of a pound. They go through sums as whole pounds do, where the sum
keeps three places or all that it has, and that is so for all amounts of a reasonable size.
-/

namespace Dues.Money.Decimal

variable {a b d : Decimal} {c lo lo' hi hi' scale dropped p : Nat}

/-- An amount from `lo` to `hi` thousandths. -/
def Within (lo hi : Nat) (d : Decimal) : Prop :=
  ∃ c : Nat, d.coefficient = c ∧ lo * Nat.pow 10 d.scale ≤ 1000 * c ∧
    1000 * c ≤ hi * Nat.pow 10 d.scale

theorem Within.mono (h : d.Within lo hi) (less : lo' ≤ lo) (more : hi ≤ hi') : d.Within lo' hi' := by
  obtain ⟨c, natural, lower, upper⟩ := h
  exact ⟨c, natural, Nat.le_trans (Nat.mul_le_mul_right _ less) lower,
    Nat.le_trans upper (Nat.mul_le_mul_right _ more)⟩

theorem Within.not_negative (h : d.Within lo hi) : d.isNegative = false := by
  obtain ⟨c, natural, _⟩ := h
  exact decide_eq_false (by omega)

theorem zero_within : zero.Within 0 hi := ⟨0, rfl, by simp, by simp⟩

theorem cutOff_eq (natural : d.coefficient = c) (places : d.scale ≤ 2) :
    d.cutOff = c * Nat.pow 10 (2 - d.scale) := by
  have power : 100 = Nat.pow 10 (2 - d.scale) * Nat.pow 10 d.scale := by
    rw [← ten_pow_add, Nat.sub_add_cancel places]
  have abs : d.coefficient.natAbs = c := by omega
  rw [cutOff, wholePennies, abs, power, ← Nat.mul_assoc, Nat.mul_div_cancel _ (ten_pow_pos _)]

theorem within_cutOff (natural : d.coefficient = c) (places : d.scale ≤ 2) :
    d.Within (10 * d.cutOff) (10 * d.cutOff) := by
  have power : Nat.pow 10 (2 - d.scale) * Nat.pow 10 d.scale = 100 := by
    rw [← ten_pow_add, Nat.sub_add_cancel places]
  have cut : d.cutOff * Nat.pow 10 d.scale = c * 100 := by
    rw [cutOff_eq natural places, Nat.mul_assoc, power]
  refine ⟨c, natural, ?_, ?_⟩ <;> rw [Nat.mul_assoc, cut] <;> omega

/-- Places that are beyond the third are the first ones to be given up. -/
theorem fitDropping_scale (h : fitDropping (c : Int) dropped scale = some d)
    (places : scale ≤ maxScale) (small : hi < coefficientLimit)
    (le : 1000 * c ≤ hi * Nat.pow 10 (dropped + scale)) : d.scale = scale ∨ 3 ≤ d.scale := by
  induction scale generalizing dropped with
  | zero => exact .inl (Nat.le_zero.mp (fitDropping_spec h).1)
  | succ scale ih =>
      rw [fitDropping, signed_natCast] at h
      split at h
      next fits =>
        cases h
        exact .inl (of?_eq_some.mp fits).2.2
      next large =>
        by_cases few : scale + 1 ≤ 3
        · -- with three places left it would have fitted
          have power : Nat.pow 10 (scale + 1) ≤ 1000 := Nat.pow_le_pow_right (by decide) few
          have le : c ≤ hi * Nat.pow 10 dropped := by
            refine Nat.le_of_mul_le_mul_left ?_ (by decide : 0 < 1000)
            calc 1000 * c ≤ hi * (Nat.pow 10 dropped * Nat.pow 10 (scale + 1)) := by
                  rwa [← ten_pow_add]
              _ ≤ hi * (Nat.pow 10 dropped * 1000) :=
                  Nat.mul_le_mul_left _ (Nat.mul_le_mul_left _ power)
              _ = 1000 * (hi * Nat.pow 10 dropped) := by
                  rw [← Nat.mul_assoc, Nat.mul_comm _ 1000]
          have fits := Nat.lt_of_le_of_lt (divHalfEven_le (ten_pow_pos dropped) le) small
          rw [of?, dif_pos ⟨by omega, places⟩] at large
          cases large
        · have kept := ih h (Nat.le_of_succ_le places)
            (by rwa [show dropped + 1 + scale = dropped + (scale + 1) by omega])
          omega

theorem fit_within (h : fit (c : Int) scale = some d) (places : scale ≤ maxScale)
    (small : hi < coefficientLimit) (lower : lo * Nat.pow 10 scale ≤ 1000 * c)
    (upper : 1000 * c ≤ hi * Nat.pow 10 scale) : d.Within lo hi := by
  obtain ⟨kept, same⟩ := fitDropping_spec h
  refine ⟨_, same, ?_⟩
  rcases fitDropping_scale h places small (by rwa [Nat.zero_add]) with all | three
  · rw [all, Nat.sub_self, Nat.add_zero, show Nat.pow 10 0 = 1 from rfl, divHalfEven_one]
    exact ⟨lower, upper⟩
  · obtain ⟨j, scale_eq⟩ := Nat.exists_eq_add_of_le' three
    obtain ⟨k, rfl⟩ := Nat.exists_eq_add_of_le' kept
    have power : Nat.pow 10 d.scale = Nat.pow 10 j * 1000 := by
      rw [scale_eq]
      exact ten_pow_add j 3
    have total : Nat.pow 10 (k + d.scale) = Nat.pow 10 j * Nat.pow 10 k * 1000 := by
      rw [ten_pow_add, power, Nat.mul_comm, Nat.mul_right_comm]
    rw [Nat.add_sub_cancel, Nat.zero_add, power]
    rw [total, ← Nat.mul_assoc, ← Nat.mul_assoc] at lower upper
    have lower : lo * Nat.pow 10 j * Nat.pow 10 k ≤ c := by omega
    have upper : c ≤ hi * Nat.pow 10 j * Nat.pow 10 k := by omega
    have least := le_divHalfEven (ten_pow_pos k) lower
    have most := divHalfEven_le (ten_pow_pos k) upper
    rw [← Nat.mul_assoc, ← Nat.mul_assoc]
    omega

theorem Within.atScale (h : d.Within lo hi) (le : d.scale ≤ scale) :
    ∃ c : Nat, d.coefficientAt scale = c ∧ lo * Nat.pow 10 scale ≤ 1000 * c ∧
      1000 * c ≤ hi * Nat.pow 10 scale := by
  obtain ⟨c, natural, lower, upper⟩ := h
  have power : Nat.pow 10 scale = Nat.pow 10 d.scale * Nat.pow 10 (scale - d.scale) := by
    rw [← ten_pow_add, Nat.add_sub_cancel' le]
  refine ⟨_, coefficientAt_natCast natural, ?_, ?_⟩
  · rw [power, ← Nat.mul_assoc, ← Nat.mul_assoc]
    exact Nat.mul_le_mul_right _ lower
  · rw [power, ← Nat.mul_assoc, ← Nat.mul_assoc]
    exact Nat.mul_le_mul_right _ upper

theorem eq_zero_of_within (h : d.Within lo hi) (isZero : d.isZero = true) : lo = 0 := by
  obtain ⟨c, natural, lower, _⟩ := h
  have none : d.coefficient = 0 := of_decide_eq_true isZero
  have zero : c = 0 := by omega
  rw [zero] at lower
  exact (Nat.mul_eq_zero.mp (Nat.le_zero.mp lower)).resolve_right (Nat.ne_of_gt (ten_pow_pos _))

theorem add_within (ha : a.Within lo hi) (hb : b.Within lo' hi') (small : hi + hi' < coefficientLimit)
    (h : add a b = .ok d) : d.Within (lo + lo') (hi + hi') := by
  unfold add at h
  split at h
  next isZero =>
    cases h
    rw [eq_zero_of_within ha isZero, Nat.zero_add]
    exact hb.mono (Nat.le_refl _) (Nat.le_add_left _ _)
  next =>
    split at h
    next isZero =>
      cases h
      rw [eq_zero_of_within hb isZero]
      exact ha.mono (Nat.le_refl _) (Nat.le_add_right _ _)
    next =>
      obtain ⟨ca, naturalA, lowerA, upperA⟩ := ha.atScale (Nat.le_max_left a.scale b.scale)
      obtain ⟨cb, naturalB, lowerB, upperB⟩ := hb.atScale (Nat.le_max_right a.scale b.scale)
      dsimp only at h
      rw [naturalA, naturalB, ← Int.natCast_add] at h
      split at h
      next sum fits =>
        cases h
        have places : max a.scale b.scale ≤ maxScale := Nat.max_le.mpr ⟨a.scale_le, b.scale_le⟩
        refine fit_within fits places small ?_ ?_
        · rw [Nat.add_mul]
          omega
        · rw [Nat.add_mul]
          omega
      next => cases h

/-- A sum lies as much above whole pennies as its amounts do together. -/
theorem foldlM_within {amounts others : List Decimal} {start total : Decimal} {n k slack : Nat}
    (near : List.Forall₂ (fun a b : Decimal => b.Within (10 * a.cutOff) (10 * a.cutOff + slack))
      amounts others)
    (hs : start.Within (10 * n) (10 * n + k))
    (small : 10 * (n + (amounts.map cutOff).sum) + (k + amounts.length * slack) < coefficientLimit)
    (h : others.foldlM add start = .ok total) :
    total.Within (10 * (n + (amounts.map cutOff).sum))
      (10 * (n + (amounts.map cutOff).sum) + (k + amounts.length * slack)) := by
  induction near generalizing start n k with
  | nil =>
      cases h
      simpa using hs
  | @cons a b amounts others close rest ih =>
      rw [List.foldlM_cons] at h
      rw [List.map_cons, List.sum_cons, List.length_cons, Nat.add_mul amounts.length 1,
        Nat.one_mul] at small ⊢
      cases added : add start b with
      | error fault =>
          rw [added] at h
          cases h
      | ok next =>
          rw [added] at h
          have sum := add_within hs close (by omega) added
          have sum : next.Within (10 * (n + a.cutOff)) (10 * (n + a.cutOff) + (k + slack)) :=
            sum.mono (by omega) (by omega)
          exact (ih sum (by omega) h).mono (by omega) (by omega)

theorem cutOff_of_within (h : d.Within (10 * p) (10 * p + 9)) : d.cutOff = p := by
  obtain ⟨c, natural, lower, upper⟩ := h
  have abs : d.coefficient.natAbs = c := by omega
  have ten := ten_pow_pos d.scale
  rw [cutOff, wholePennies, abs]
  rw [Nat.mul_assoc] at lower
  rw [Nat.add_mul, Nat.mul_assoc] at upper
  refine Nat.div_eq_of_lt_le (by omega) ?_
  rw [Nat.add_mul]
  omega

end Dues.Money.Decimal
