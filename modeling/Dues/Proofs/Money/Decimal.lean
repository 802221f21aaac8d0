import Dues.Money.Arithmetic

/-! # Bounds of amounts

Rounding to a whole number, or to fewer places, does not step over a whole number. So whole bounds
of amounts go through sums and charges, and an amount that is small enough always fits.
-/

namespace Dues.Money

section Rounding

variable {n m d : Nat}

theorem divHalfEven_le (positive : 0 < d) (h : n ≤ m * d) : divHalfEven n d ≤ m := by
  have whole : n / d ≤ m := Nat.div_le_of_le_mul (Nat.mul_comm m d ▸ h)
  unfold divHalfEven
  dsimp only
  split
  next => exact whole
  next up =>
    rcases Nat.lt_or_eq_of_le whole with below | exactly
    · exact below
    · -- the quotient is whole, so that nothing is left to be rounded up
      have rest := Nat.div_add_mod n d
      rw [exactly, Nat.mul_comm d m] at rest
      have nothing : n % d = 0 := by omega
      simp [nothing, positive] at up

theorem le_divHalfEven (positive : 0 < d) (h : m * d ≤ n) : m ≤ divHalfEven n d := by
  have whole : m ≤ n / d := (Nat.le_div_iff_mul_le positive).mpr h
  unfold divHalfEven
  dsimp only
  split
  next => exact whole
  next => exact Nat.le_succ_of_le whole

theorem divHalfUp_le (positive : 0 < d) (h : n ≤ m * d) : divHalfUp n d ≤ m := by
  unfold divHalfUp
  apply Nat.le_of_lt_succ
  rw [Nat.div_lt_iff_lt_mul (Nat.mul_pos Nat.two_pos positive), Nat.succ_mul m]
  have double : m * (2 * d) = 2 * (m * d) := Nat.mul_left_comm m 2 d
  omega

theorem le_divHalfUp (positive : 0 < d) (h : m * d ≤ n) : m ≤ divHalfUp n d := by
  unfold divHalfUp
  rw [Nat.le_div_iff_mul_le (Nat.mul_pos Nat.two_pos positive)]
  have double : m * (2 * d) = 2 * (m * d) := Nat.mul_left_comm m 2 d
  omega

theorem divHalfUp_add {q r : Nat} (rest : r < d) :
    divHalfUp (q * d + r) d = if 2 * r < d then q else q + 1 := by
  have double : q * (2 * d) = 2 * (q * d) := Nat.mul_left_comm q 2 d
  unfold divHalfUp
  split
  next =>
    refine Nat.div_eq_of_lt_le ?_ ?_
    · omega
    · rw [Nat.add_mul]
      omega
  next =>
    refine Nat.div_eq_of_lt_le ?_ ?_
    · rw [Nat.add_mul]
      omega
    · rw [Nat.add_mul, Nat.add_mul]
      omega

theorem divHalfEven_one (n : Nat) : divHalfEven n 1 = n := by
  simp [divHalfEven, Nat.mod_one]

theorem signed_natCast (rule : Nat → Nat) (n : Nat) : signed rule (n : Int) = rule n := by
  unfold signed
  rw [if_neg (by omega), Int.natAbs_natCast]

end Rounding

theorem ten_pow_pos (n : Nat) : 0 < Nat.pow 10 n := Nat.pow_pos (by decide)

theorem ten_pow_add (n m : Nat) : Nat.pow 10 (n + m) = Nat.pow 10 n * Nat.pow 10 m :=
  Nat.pow_add 10 n m

namespace Decimal

/-- An amount from nothing to `n`. -/
def AtMost (n : Nat) (d : Decimal) : Prop :=
  ∃ c : Nat, d.coefficient = c ∧ c ≤ n * Nat.pow 10 d.scale

/-- An amount of `n` or more. -/
def AtLeast (n : Nat) (d : Decimal) : Prop :=
  ∃ c : Nat, d.coefficient = c ∧ n * Nat.pow 10 d.scale ≤ c

variable {n m bound c scale dropped : Nat} {a b d : Decimal}

theorem of?_eq_some {coefficient : Int} : of? coefficient scale = some d ↔
    (coefficient.natAbs < coefficientLimit ∧ scale ≤ maxScale) ∧
      d.coefficient = coefficient ∧ d.scale = scale := by
  unfold of?
  split
  next fits =>
    constructor
    · intro h
      cases h
      exact ⟨fits, rfl, rfl⟩
    · rintro ⟨_, rfl, rfl⟩
      rfl
  next large => exact ⟨fun h => (nomatch h), fun h => absurd h.1 large⟩

/-- What fits is the number rounded to the places that are kept. -/
theorem fitDropping_spec (h : fitDropping (c : Int) dropped scale = some d) :
    d.scale ≤ scale ∧
      d.coefficient = divHalfEven c (Nat.pow 10 (dropped + (scale - d.scale))) := by
  induction scale generalizing dropped with
  | zero =>
      rw [fitDropping, signed_natCast] at h
      obtain ⟨_, same, kept⟩ := of?_eq_some.mp h
      rw [same, kept]
      exact ⟨Nat.le_refl 0, rfl⟩
  | succ scale ih =>
      rw [fitDropping, signed_natCast] at h
      split at h
      next found =>
        cases h
        obtain ⟨_, same, kept⟩ := of?_eq_some.mp found
        rw [same, kept, Nat.sub_self, Nat.add_zero]
        exact ⟨Nat.le_refl _, rfl⟩
      next =>
        obtain ⟨kept, same⟩ := ih h
        refine ⟨Nat.le_succ_of_le kept, ?_⟩
        rw [same]
        congr 3
        omega

theorem fit_atMost (h : fit (c : Int) scale = some d) (le : c ≤ bound * Nat.pow 10 scale) :
    d.AtMost bound := by
  obtain ⟨kept, same⟩ := fitDropping_spec h
  refine ⟨_, same, divHalfEven_le (ten_pow_pos _) ?_⟩
  rw [Nat.mul_assoc, ← ten_pow_add]
  rwa [show d.scale + (0 + (scale - d.scale)) = scale by omega]

theorem fit_atLeast (h : fit (c : Int) scale = some d) (le : bound * Nat.pow 10 scale ≤ c) :
    d.AtLeast bound := by
  obtain ⟨kept, same⟩ := fitDropping_spec h
  refine ⟨_, same, le_divHalfEven (ten_pow_pos _) ?_⟩
  rw [Nat.mul_assoc, ← ten_pow_add]
  rwa [show d.scale + (0 + (scale - d.scale)) = scale by omega]

/-- A number below the largest coefficient fits, if need be without any place. -/
theorem fitDropping_succeeds (small : bound < coefficientLimit) (places : scale ≤ maxScale)
    (le : c ≤ bound * Nat.pow 10 (dropped + scale)) :
    ∃ d, fitDropping (c : Int) dropped scale = some d := by
  induction scale generalizing dropped with
  | zero =>
      have fits := divHalfEven_le (ten_pow_pos dropped) le
      refine ⟨⟨divHalfEven c (Nat.pow 10 dropped), 0, by omega, by decide⟩, ?_⟩
      rw [fitDropping, signed_natCast]
      exact of?_eq_some.mpr ⟨⟨by omega, by decide⟩, rfl, rfl⟩
  | succ scale ih =>
      rw [fitDropping]
      split
      next d _ => exact ⟨d, rfl⟩
      next =>
        refine ih (Nat.le_of_succ_le places) ?_
        rwa [Nat.add_right_comm, Nat.add_assoc]

theorem fit_succeeds (small : bound < coefficientLimit) (places : scale ≤ maxScale)
    (le : c ≤ bound * Nat.pow 10 scale) : ∃ d, fit (c : Int) scale = some d :=
  fitDropping_succeeds small places (by rwa [Nat.zero_add])

theorem fit_of_lt (small : c < coefficientLimit) (places : scale ≤ maxScale) :
    ∃ d, fit (c : Int) scale = some d ∧ d.coefficient = c ∧ d.scale = scale := by
  have fits : of? (signed (divHalfEven · (Nat.pow 10 0)) (c : Int)) scale =
      some ⟨c, scale, by omega, places⟩ := by
    rw [signed_natCast, show Nat.pow 10 0 = 1 from rfl, divHalfEven_one]
    exact of?_eq_some.mpr ⟨⟨by omega, places⟩, rfl, rfl⟩
  refine ⟨⟨c, scale, by omega, places⟩, ?_, rfl, rfl⟩
  unfold fit
  cases scale with
  | zero => exact fits
  | succ scale => rw [fitDropping, fits]

theorem coefficientAt_natCast (same : d.coefficient = c) :
    d.coefficientAt scale = ((c * Nat.pow 10 (scale - d.scale) : Nat) : Int) := by
  rw [coefficientAt, same, Int.natCast_mul]

theorem AtMost.atScale (h : d.AtMost n) (le : d.scale ≤ scale) :
    ∃ c : Nat, d.coefficientAt scale = c ∧ c ≤ n * Nat.pow 10 scale := by
  obtain ⟨c, same, small⟩ := h
  refine ⟨_, coefficientAt_natCast same, ?_⟩
  calc c * Nat.pow 10 (scale - d.scale)
      ≤ n * Nat.pow 10 d.scale * Nat.pow 10 (scale - d.scale) := Nat.mul_le_mul_right _ small
    _ = n * Nat.pow 10 scale := by
        rw [Nat.mul_assoc, ← ten_pow_add, Nat.add_sub_cancel' le]

theorem AtLeast.atScale (h : d.AtLeast n) (le : d.scale ≤ scale) :
    ∃ c : Nat, d.coefficientAt scale = c ∧ n * Nat.pow 10 scale ≤ c := by
  obtain ⟨c, same, large⟩ := h
  refine ⟨_, coefficientAt_natCast same, ?_⟩
  calc n * Nat.pow 10 scale
      = n * Nat.pow 10 d.scale * Nat.pow 10 (scale - d.scale) := by
        rw [Nat.mul_assoc, ← ten_pow_add, Nat.add_sub_cancel' le]
    _ ≤ c * Nat.pow 10 (scale - d.scale) := Nat.mul_le_mul_right _ large

theorem AtMost.mono (h : d.AtMost n) (le : n ≤ m) : d.AtMost m := by
  obtain ⟨c, same, small⟩ := h
  exact ⟨c, same, Nat.le_trans small (Nat.mul_le_mul_right _ le)⟩

theorem AtLeast.mono (h : d.AtLeast n) (le : m ≤ n) : d.AtLeast m := by
  obtain ⟨c, same, large⟩ := h
  exact ⟨c, same, Nat.le_trans (Nat.mul_le_mul_right _ le) large⟩

theorem add_atMost (ha : a.AtMost n) (hb : b.AtMost m) (small : n + m < coefficientLimit) :
    ∃ sum, add a b = .ok sum ∧ sum.AtMost (n + m) := by
  unfold add
  split
  next => exact ⟨b, rfl, hb.mono (Nat.le_add_left m n)⟩
  next =>
    split
    next => exact ⟨a, rfl, ha.mono (Nat.le_add_right n m)⟩
    next =>
      obtain ⟨ca, sameA, leA⟩ := ha.atScale (Nat.le_max_left a.scale b.scale)
      obtain ⟨cb, sameB, leB⟩ := hb.atScale (Nat.le_max_right a.scale b.scale)
      have le : ca + cb ≤ (n + m) * Nat.pow 10 (max a.scale b.scale) := by
        rw [Nat.add_mul]
        exact Nat.add_le_add leA leB
      have places : max a.scale b.scale ≤ maxScale := Nat.max_le.mpr ⟨a.scale_le, b.scale_le⟩
      obtain ⟨sum, fits⟩ := fit_succeeds small places le
      dsimp only
      rw [sameA, sameB, ← Int.natCast_add, fits]
      exact ⟨sum, rfl, fit_atMost fits le⟩

theorem add_atLeast (ha : a.AtLeast n) (hb : b.AtLeast m) (h : add a b = .ok d) :
    d.AtLeast (n + m) := by
  have zero : ∀ {x : Decimal} {k : Nat}, x.AtLeast k → x.isZero = true → k = 0 := by
    intro x k ⟨c, same, large⟩ isZero
    have nothing : x.coefficient = 0 := of_decide_eq_true isZero
    have none : c = 0 := by omega
    rw [none] at large
    exact (Nat.mul_eq_zero.mp (Nat.le_zero.mp large)).resolve_right
      (Nat.ne_of_gt (ten_pow_pos _))
  unfold add at h
  split at h
  next isZero =>
    cases h
    rwa [zero ha isZero, Nat.zero_add]
  next =>
    split at h
    next isZero =>
      cases h
      rwa [zero hb isZero, Nat.add_zero]
    next =>
      obtain ⟨ca, sameA, leA⟩ := ha.atScale (Nat.le_max_left a.scale b.scale)
      obtain ⟨cb, sameB, leB⟩ := hb.atScale (Nat.le_max_right a.scale b.scale)
      dsimp only at h
      rw [sameA, sameB, ← Int.natCast_add] at h
      split at h
      next sum fits =>
        cases h
        refine fit_atLeast fits ?_
        rw [Nat.add_mul]
        exact Nat.add_le_add leA leB
      next => cases h

theorem zero_atMost : zero.AtMost n := ⟨0, rfl, Nat.zero_le _⟩

theorem zero_atLeast : zero.AtLeast 0 := ⟨0, rfl, Nat.le_of_eq (Nat.zero_mul _)⟩

theorem foldlM_atMost {amounts : List Decimal} {start : Decimal} (hs : start.AtMost n)
    (h : ∀ a ∈ amounts, a.AtMost m) (small : n + amounts.length * m < coefficientLimit) :
    ∃ sum, amounts.foldlM add start = .ok sum := by
  induction amounts generalizing start n with
  | nil => exact ⟨start, rfl⟩
  | cons a amounts ih =>
      rw [List.length_cons, Nat.succ_mul] at small
      obtain ⟨next, added, bounded⟩ := add_atMost hs (h a List.mem_cons_self) (by omega)
      obtain ⟨sum, rest⟩ := ih bounded (fun b mem => h b (List.mem_cons_of_mem a mem)) (by omega)
      exact ⟨sum, by rw [List.foldlM_cons, added]; exact rest⟩

theorem sum_succeeds {amounts : List Decimal} (h : ∀ a ∈ amounts, a.AtMost m)
    (small : amounts.length * m < coefficientLimit) : ∃ total, sum amounts = .ok total :=
  foldlM_atMost zero_atMost h (by rwa [Nat.zero_add])

theorem foldlM_atLeast {amounts : List Decimal} {start total : Decimal} (hs : start.AtLeast n)
    (nonnegative : ∀ a ∈ amounts, a.AtLeast 0) (h : amounts.foldlM add start = .ok total) :
    total.AtLeast n ∧ ∀ a ∈ amounts, ∀ m, a.AtLeast m → total.AtLeast m := by
  induction amounts generalizing start n with
  | nil =>
      cases h
      exact ⟨hs, fun a mem => nomatch mem⟩
  | cons a amounts ih =>
      rw [List.foldlM_cons] at h
      cases added : add start a with
      | error fault =>
          rw [added] at h
          cases h
      | ok next =>
          rw [added] at h
          have rest : ∀ b ∈ amounts, b.AtLeast 0 := fun b mem =>
            nonnegative b (List.mem_cons_of_mem a mem)
          have kept := add_atLeast hs (nonnegative a List.mem_cons_self) added
          refine ⟨(ih kept rest h).1, fun b mem m large => ?_⟩
          rcases List.mem_cons.mp mem with rfl | mem
          · have gained := add_atLeast hs large added
            exact ((ih gained rest h).1).mono (Nat.le_add_left m n)
          · exact (ih kept rest h).2 b mem m large

/-- What is charged is the hundredfold, in whole pennies. -/
theorem pennies_ok {pennies : Int} (natural : d.coefficient = c)
    (h : d.pennies = .ok (some pennies)) :
    ∃ hundredfold k, fit ((c * 100 : Nat) : Int) d.scale = some hundredfold ∧
      hundredfold.coefficient = (k : Nat) ∧ pennies = divHalfUp k (Nat.pow 10 hundredfold.scale) ∧
        Text.fitsSigned 64 pennies = true := by
  unfold Decimal.pennies timesHundred at h
  have hundred : (c : Int) * 100 = ((c * 100 : Nat) : Int) := by omega
  rw [natural, hundred] at h
  cases fits : fit ((c * 100 : Nat) : Int) d.scale with
  | none =>
      rw [fits] at h
      cases h
  | some hundredfold =>
      rw [fits] at h
      have whole := (fitDropping_spec fits).2
      refine ⟨hundredfold, _, rfl, whole, ?_⟩
      change Except.ok (if Text.fitsSigned 64 hundredfold.nearestWhole = true then _ else _) = _ at h
      rw [nearestWhole, whole, signed_natCast] at h
      split at h
      next inRange =>
        cases h
        exact ⟨rfl, inRange⟩
      next => cases h

theorem pennies_bounds {pennies : Int} (natural : d.coefficient = c)
    (h : d.pennies = .ok (some pennies)) :
    (n * Nat.pow 10 d.scale ≤ c * 100 → (n : Int) ≤ pennies) ∧
      (c * 100 ≤ m * Nat.pow 10 d.scale → pennies ≤ m) := by
  obtain ⟨hundredfold, k, fits, whole, rfl, _⟩ := pennies_ok natural h
  constructor
  · intro lower
    obtain ⟨k', whole', least⟩ := fit_atLeast fits lower
    obtain rfl : k' = k := by omega
    exact Int.ofNat_le.mpr (le_divHalfUp (ten_pow_pos _) least)
  · intro upper
    obtain ⟨k', whole', most⟩ := fit_atMost fits upper
    obtain rfl : k' = k := by omega
    exact Int.ofNat_le.mpr (divHalfUp_le (ten_pow_pos _) most)

theorem pennies_ge {pennies : Int} (large : d.AtLeast n) (h : d.pennies = .ok (some pennies)) :
    ((100 * n : Nat) : Int) ≤ pennies ∧ Text.fitsSigned 64 pennies = true := by
  obtain ⟨c, natural, le⟩ := large
  obtain ⟨_, _, _, _, _, inRange⟩ := pennies_ok natural h
  have lower : 100 * n * Nat.pow 10 d.scale ≤ c * 100 := by
    rw [Nat.mul_assoc, Nat.mul_comm c 100]
    exact Nat.mul_le_mul_left 100 le
  exact ⟨(pennies_bounds (m := 0) natural h).1 lower, inRange⟩

end Decimal

end Dues.Money
