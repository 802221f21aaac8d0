import Mathlib.Algebra.Order.Ring.Abs
import Dues.Proofs.Money.Charge
import Dues.Proofs.Money.Precision

/-! # Amounts that are too large

A number is too large for an amount only if it is so without any places. The hundredfold of an
amount can give up two places, and they are zeros then. So it is exact where there is one, and what
is charged, or that nothing can be charged, is a matter of the number alone and not of its places.
-/

namespace Dues.Money

variable {n m d e : Nat}

theorem divHalfEven_mul (positive : 0 < d) : divHalfEven (m * d) d = m :=
  Nat.le_antisymm (divHalfEven_le positive (Nat.le_refl _))
    (le_divHalfEven positive (Nat.le_refl _))

theorem divHalfUp_congr (hd : 0 < d) (he : 0 < e) (same : n * e = m * d) :
    divHalfUp n d = divHalfUp m e := by
  have above : (2 * n + d) * e = (2 * m + e) * d := by
    rw [Nat.add_mul, Nat.add_mul, Nat.mul_assoc, Nat.mul_assoc, same, Nat.mul_comm d e]
  have below : 2 * d * e = 2 * e * d := Nat.mul_right_comm 2 d e
  unfold divHalfUp
  rw [← Nat.mul_div_mul_right (2 * n + d) (2 * d) he, above, below, Nat.mul_div_mul_right _ _ hd]

theorem divHalfUp_lt_iff (positive : 0 < d) : divHalfUp n d < m ↔ 2 * n + d < m * (2 * d) :=
  Nat.div_lt_iff_lt_mul (Nat.mul_pos Nat.two_pos positive)

namespace Decimal

variable {a b d : Decimal} {c n q scale dropped : Nat}

theorem fitDropping_of_lt (exact : c = q * Nat.pow 10 dropped) (small : q < coefficientLimit)
    (places : scale ≤ maxScale) :
    ∃ d, fitDropping (c : Int) dropped scale = some d ∧ d.coefficient = q ∧ d.scale = scale := by
  have fits : of? (signed (divHalfEven · (Nat.pow 10 dropped)) (c : Int)) scale =
      some ⟨q, scale, by omega, places⟩ := by
    rw [signed_natCast, exact, divHalfEven_mul (ten_pow_pos dropped)]
    exact of?_eq_some.mpr ⟨⟨by omega, places⟩, rfl, rfl⟩
  refine ⟨⟨q, scale, by omega, places⟩, ?_, rfl, rfl⟩
  cases scale with
  | zero => exact fits
  | succ scale => rw [fitDropping, fits]

theorem of?_of_le (exact : c = q * Nat.pow 10 dropped) (large : coefficientLimit ≤ q) :
    of? (signed (divHalfEven · (Nat.pow 10 dropped)) (c : Int)) scale = none := by
  rw [signed_natCast, exact, divHalfEven_mul (ten_pow_pos dropped)]
  exact dif_neg fun fits => by omega

/-- The hundredfold of an amount is exact, or too large for an amount. -/
theorem hundredfold_cases (small : c < coefficientLimit) (places : scale ≤ maxScale) :
    (∃ d k, fit ((c * 100 : Nat) : Int) scale = some d ∧ d.coefficient = (k : Nat) ∧
        k * Nat.pow 10 scale = c * 100 * Nat.pow 10 d.scale) ∨
      fit ((c * 100 : Nat) : Int) scale = none ∧
        coefficientLimit * Nat.pow 10 scale ≤ c * 100 := by
  have none : c * 100 = c * 100 * Nat.pow 10 0 := (Nat.mul_one _).symm
  have one : c * 100 = c * 10 * Nat.pow 10 1 := (Nat.mul_assoc c 10 10).symm
  have two : c * 100 = c * Nat.pow 10 2 := rfl
  unfold fit
  by_cases all : c * 100 < coefficientLimit
  · obtain ⟨d, fits, same, kept⟩ := fitDropping_of_lt none all places
    exact .inl ⟨d, _, fits, same, by rw [kept]⟩
  · have all := Nat.not_lt.mp all
    match scale with
    | 0 => exact .inr ⟨of?_of_le none all, by rwa [show Nat.pow 10 0 = 1 from rfl, Nat.mul_one]⟩
    | 1 =>
      rw [fitDropping, of?_of_le none all]
      by_cases fewer : c * 10 < coefficientLimit
      · obtain ⟨d, fits, same, kept⟩ := fitDropping_of_lt one fewer (Nat.zero_le _)
        exact .inl ⟨d, _, fits, same, by rw [kept, ← none, ← one]⟩
      · have fewer := Nat.not_lt.mp fewer
        refine .inr ⟨of?_of_le one fewer, ?_⟩
        rw [show Nat.pow 10 1 = 10 from rfl]
        omega
    | scale + 2 =>
      rw [fitDropping, of?_of_le none all]
      have rest : Nat.pow 10 (scale + 2) = Nat.pow 10 scale * 100 := ten_pow_add scale 2
      have rest' : Nat.pow 10 (scale + 1) = Nat.pow 10 scale * 10 := ten_pow_add scale 1
      by_cases fewer : c * 10 < coefficientLimit
      · obtain ⟨d, fits, same, kept⟩ :=
          fitDropping_of_lt one fewer (Nat.le_trans (Nat.le_succ _) places)
        refine .inl ⟨d, _, fits, same, ?_⟩
        rw [kept, rest, rest']
        ring
      · dsimp only
        rw [fitDropping, of?_of_le one (Nat.not_lt.mp fewer)]
        obtain ⟨d, fits, same, kept⟩ :=
          fitDropping_of_lt two small (Nat.le_trans (Nat.le_add_right _ 2) places)
        refine .inl ⟨d, _, fits, same, ?_⟩
        rw [kept, rest]
        ring

/-- The pennies of an amount, rounded to the nearest one. -/
def nearestPennies (d : Decimal) : Nat :=
  divHalfUp (d.coefficient.natAbs * 100) (Nat.pow 10 d.scale)

/-- An amount is charged in the nearest pennies, whatever its places. -/
theorem pennies_cases (natural : d.coefficient = c) :
    c * 100 < coefficientLimit * Nat.pow 10 d.scale ∧ d.pennies = .ok
        (if Text.fitsSigned 64 d.nearestPennies then some (d.nearestPennies : Int) else none) ∨
      coefficientLimit * Nat.pow 10 d.scale ≤ c * 100 ∧
        d.pennies = .error .multiplicationOverflowed := by
  have abs : d.coefficient.natAbs = c := by omega
  have hundred : (c : Int) * 100 = ((c * 100 : Nat) : Int) := by omega
  have small : c < coefficientLimit := abs ▸ d.coefficient_lt
  unfold pennies timesHundred
  rw [natural, hundred]
  rcases hundredfold_cases small d.scale_le with ⟨h, k, fits, whole, same⟩ | ⟨large, beyond⟩
  · rw [fits]
    have nearest : h.nearestWhole = (d.nearestPennies : Int) := by
      rw [nearestWhole, whole, signed_natCast, nearestPennies, abs,
        divHalfUp_congr (ten_pow_pos h.scale) (ten_pow_pos d.scale) same]
    refine .inl ⟨?_, ?_⟩
    · have limit : k < coefficientLimit := by
        have below := h.coefficient_lt
        omega
      calc c * 100 ≤ c * 100 * Nat.pow 10 h.scale := Nat.le_mul_of_pos_right _ (ten_pow_pos _)
        _ = k * Nat.pow 10 d.scale := same.symm
        _ < coefficientLimit * Nat.pow 10 d.scale :=
            Nat.mul_lt_mul_of_pos_right limit (ten_pow_pos _)
    · rw [← nearest]
      rfl
  · rw [large]
    exact .inr ⟨beyond, rfl⟩

theorem ten_pow_pos' (n : Nat) : (0 : Rat) < (Nat.pow 10 n : Nat) := by
  exact_mod_cast ten_pow_pos n

theorem value_mul_pow (d : Decimal) : d.value * (Nat.pow 10 d.scale : Nat) = d.coefficient := by
  rw [value, Rat.mkRat_eq_div, div_mul_cancel₀ _ (ten_pow_pos' d.scale).ne']

theorem value_mul_pow_of_le (le : d.scale ≤ scale) :
    d.value * (Nat.pow 10 scale : Nat) = d.coefficientAt scale := by
  have power : Nat.pow 10 scale = Nat.pow 10 d.scale * Nat.pow 10 (scale - d.scale) := by
    rw [← ten_pow_add, Nat.add_sub_cancel' le]
  rw [power, Nat.cast_mul, ← mul_assoc, value_mul_pow, coefficientAt, Int.cast_mul,
    Int.cast_natCast]

theorem value_eq_zero (isZero : d.isZero = true) : d.value = 0 := by
  have none : d.coefficient = 0 := of_decide_eq_true isZero
  have product := d.value_mul_pow
  rw [none, Int.cast_zero] at product
  exact (mul_eq_zero.mp product).resolve_right (ten_pow_pos' d.scale).ne'

theorem zero_value : zero.value = 0 := value_eq_zero rfl

theorem value_pos_iff : 0 < d.value ↔ d.isPositive = true := by
  rw [← mul_pos_iff_of_pos_right (ten_pow_pos' d.scale), value_mul_pow, Int.cast_pos]
  exact decide_eq_true_iff.symm

theorem AtLeast.value_nonneg (h : d.AtLeast 0) : 0 ≤ d.value := by
  obtain ⟨c, natural, _⟩ := h
  refine le_of_mul_le_mul_right ?_ (ten_pow_pos' d.scale)
  rw [zero_mul, value_mul_pow, natural]
  exact_mod_cast c.zero_le

theorem limit_le_hundredfold_iff (natural : d.coefficient = c) :
    coefficientLimit * Nat.pow 10 d.scale ≤ c * 100 ↔ (coefficientLimit : Rat) ≤ 100 * d.value := by
  rw [← mul_le_mul_iff_left₀ (ten_pow_pos' d.scale), mul_assoc, value_mul_pow, natural]
  constructor
  · intro h
    have h : ((coefficientLimit * Nat.pow 10 d.scale : Nat) : Rat) ≤ (c * 100 : Nat) := by
      exact_mod_cast h
    push_cast at h ⊢
    linarith
  · intro h
    have h : ((coefficientLimit * Nat.pow 10 d.scale : Nat) : Rat) ≤ (c * 100 : Nat) := by
      push_cast at h ⊢
      linarith
    exact_mod_cast h

theorem nearestPennies_lt_iff (natural : d.coefficient = c) (n : Nat) :
    d.nearestPennies < n ↔ 200 * d.value + 1 < 2 * n := by
  have abs : d.coefficient.natAbs = c := by omega
  have value := d.value_mul_pow
  rw [natural, Int.cast_natCast] at value
  rw [nearestPennies, abs, divHalfUp_lt_iff (ten_pow_pos d.scale),
    ← mul_lt_mul_iff_left₀ (ten_pow_pos' d.scale)]
  generalize Nat.pow 10 d.scale = p at value ⊢
  have whole : (2 * (c * 100) + p < n * (2 * p)) ↔
      ((2 * (c * 100) + p : Nat) : Rat) < (n * (2 * p) : Nat) := Nat.cast_lt.symm
  rw [whole]
  push_cast
  constructor <;> intro h <;> linarith

theorem nearestPennies_fits_iff (natural : d.coefficient = c) :
    Text.fitsSigned 64 d.nearestPennies = true ↔ 200 * d.value + 1 < 2 ^ 64 := by
  have few := nearestPennies_lt_iff natural (2 ^ 63)
  rw [show (2 * ((2 ^ 63 : Nat) : Rat)) = 2 ^ 64 by norm_num] at few
  rw [← few]
  simp only [Text.fitsSigned, Nat.pow_eq, decide_eq_true_eq]
  omega

/-- Places that are given up change a number by half at most. -/
theorem fit_value (h : fit (c : Int) scale = some d) {x : Rat}
    (number : x * (Nat.pow 10 scale : Nat) = c) : |d.value - x| ≤ 1 / 2 := by
  obtain ⟨kept, natural⟩ := fitDropping_spec h
  rw [Nat.zero_add] at natural
  obtain ⟨above, below⟩ := divHalfEven_error (n := c) (ten_pow_pos (scale - d.scale))
  have places := d.value_mul_pow
  have power : Nat.pow 10 scale = Nat.pow 10 d.scale * Nat.pow 10 (scale - d.scale) := by
    rw [← ten_pow_add, Nat.add_sub_cancel' kept]
  rw [natural, Int.cast_natCast] at places
  generalize divHalfEven c (Nat.pow 10 (scale - d.scale)) = m at places above below
  have unit := ten_pow_pos' d.scale
  have least : (1 : Rat) ≤ (Nat.pow 10 d.scale : Nat) := by exact_mod_cast ten_pow_pos d.scale
  have rest := ten_pow_pos' (scale - d.scale)
  rw [power, Nat.cast_mul] at number
  generalize Nat.pow 10 (scale - d.scale) = q at *
  generalize Nat.pow 10 d.scale = p at *
  have above : 2 * ((m : Rat) * q) ≤ 2 * c + q := by exact_mod_cast above
  have below : 2 * (c : Rat) ≤ 2 * (m * q) + q := by exact_mod_cast below
  have written : d.value * (p * q : Rat) = m * q := by rw [← mul_assoc, places]
  have wide : (q : Rat) ≤ p * q := le_mul_of_one_le_left rest.le least
  have positive : (0 : Rat) < p * q := mul_pos unit rest
  rw [abs_sub_le_iff]
  constructor <;>
    · refine le_of_mul_le_mul_right ?_ positive
      linarith

theorem value_lt_limit (d : Decimal) : d.value < coefficientLimit := by
  refine lt_of_mul_lt_mul_right ?_ (ten_pow_pos' d.scale).le
  rw [value_mul_pow]
  have least : (1 : Rat) ≤ (Nat.pow 10 d.scale : Nat) := by exact_mod_cast ten_pow_pos d.scale
  have small : (d.coefficient : Rat) < coefficientLimit := by
    have below := d.coefficient_lt
    exact_mod_cast show d.coefficient < coefficientLimit by omega
  exact lt_of_lt_of_le small (le_mul_of_one_le_right (Nat.cast_nonneg _) least)

/-- Two amounts are added as numbers, one of them being zero, or their coefficients are added at a
scale that has room for the places of both. -/
theorem add_cases (ha : a.AtLeast 0) (hb : b.AtLeast 0) :
    (∃ d, add a b = .ok d ∧ d.value = a.value + b.value) ∨
      ∃ c scale : Nat, scale ≤ maxScale ∧
        (a.value + b.value) * (Nat.pow 10 scale : Nat) = c ∧
        ((∃ d, fit (c : Int) scale = some d ∧ add a b = .ok d) ∨
          fit (c : Int) scale = none ∧ add a b = .error .additionOverflowed) := by
  unfold add
  split
  next isZero => exact .inl ⟨b, rfl, by rw [value_eq_zero isZero, zero_add]⟩
  next =>
    split
    next isZero => exact .inl ⟨a, rfl, by rw [value_eq_zero isZero, add_zero]⟩
    next =>
      obtain ⟨ca, sameA, _⟩ := ha.atScale (Nat.le_max_left a.scale b.scale)
      obtain ⟨cb, sameB, _⟩ := hb.atScale (Nat.le_max_right a.scale b.scale)
      have valueA := value_mul_pow_of_le (Nat.le_max_left a.scale b.scale)
      have valueB := value_mul_pow_of_le (Nat.le_max_right a.scale b.scale)
      rw [sameA, Int.cast_natCast] at valueA
      rw [sameB, Int.cast_natCast] at valueB
      refine .inr ⟨ca + cb, _, Nat.max_le.mpr ⟨a.scale_le, b.scale_le⟩, ?_, ?_⟩
      · rw [add_mul, valueA, valueB, Nat.cast_add]
      · have sum : a.coefficientAt (max a.scale b.scale) + b.coefficientAt (max a.scale b.scale) =
            ((ca + cb : Nat) : Int) := by
          rw [sameA, sameB, Int.natCast_add]
        dsimp only
        rw [sum]
        cases fit ((ca + cb : Nat) : Int) (max a.scale b.scale) with
        | some d => exact .inl ⟨d, rfl, rfl⟩
        | none => exact .inr ⟨rfl, rfl⟩

/-- The sum of two amounts is the sum of the numbers, give or take half a pound where there is no
room for places any more. -/
theorem add_value (ha : a.AtLeast 0) (hb : b.AtLeast 0) (h : add a b = .ok d) :
    |d.value - (a.value + b.value)| ≤ 1 / 2 := by
  rcases add_cases ha hb with
    ⟨_, added, same⟩ | ⟨c, scale, _, number, ⟨_, fits, added⟩ | ⟨_, overflowed⟩⟩
  · cases added.symm.trans h
    rw [same, sub_self, abs_zero]
    norm_num
  · cases added.symm.trans h
    exact fit_value fits number
  · cases overflowed.symm.trans h

theorem add_succeeds (ha : a.AtLeast 0) (hb : b.AtLeast 0)
    (small : a.value + b.value + 1 ≤ coefficientLimit) : ∃ sum, add a b = .ok sum := by
  rcases add_cases ha hb with
    ⟨d, added, _⟩ | ⟨c, scale, places, number, ⟨d, _, added⟩ | ⟨full, _⟩⟩
  · exact ⟨d, added⟩
  · exact ⟨d, added⟩
  · have le := mul_le_mul_of_nonneg_right small (ten_pow_pos' scale).le
    rw [add_mul, number, one_mul] at le
    have le : c + Nat.pow 10 scale ≤ coefficientLimit * Nat.pow 10 scale := by exact_mod_cast le
    have le : c ≤ (coefficientLimit - 1) * Nat.pow 10 scale := by
      rw [Nat.sub_mul, Nat.one_mul]
      omega
    obtain ⟨sum, fits⟩ := fit_succeeds (by decide) places le
    cases full.symm.trans fits

theorem add_error {fault : Fault} (h : add a b = .error fault) : fault = .additionOverflowed := by
  unfold add at h
  split at h
  next => cases h
  next =>
    split at h
    next => cases h
    next =>
      dsimp only at h
      split at h
      next => cases h
      next =>
        cases h
        rfl

/-- The numbers of amounts, added up as they are. -/
def exactSum (amounts : List Decimal) : Rat := (amounts.map value).sum

theorem foldlM_value {amounts : List Decimal} {start total : Decimal} (hs : start.AtLeast 0)
    (natural : ∀ a ∈ amounts, a.AtLeast 0) (h : amounts.foldlM add start = .ok total) :
    |total.value - (start.value + exactSum amounts)| ≤ amounts.length / 2 := by
  induction amounts generalizing start with
  | nil =>
      cases h
      simp [exactSum]
  | cons a amounts ih =>
      rw [List.foldlM_cons] at h
      cases added : add start a with
      | error fault =>
          rw [added] at h
          cases h
      | ok next =>
          rw [added] at h
          have first := natural a List.mem_cons_self
          have near := add_value hs first added
          have rest := ih (add_atLeast hs first added)
            (fun b mem => natural b (List.mem_cons_of_mem a mem)) h
          rw [exactSum, List.map_cons, List.sum_cons, List.length_cons]
          rw [exactSum] at rest
          rw [abs_le] at near rest ⊢
          push_cast
          constructor <;> linarith [near.1, near.2, rest.1, rest.2]

theorem foldlM_succeeds {amounts : List Decimal} {start : Decimal} (hs : start.AtLeast 0)
    (natural : ∀ a ∈ amounts, a.AtLeast 0)
    (small : start.value + exactSum amounts + amounts.length / 2 + 1 ≤ coefficientLimit) :
    ∃ total, amounts.foldlM add start = .ok total := by
  induction amounts generalizing start with
  | nil => exact ⟨start, rfl⟩
  | cons a amounts ih =>
      have first := natural a List.mem_cons_self
      have others : ∀ b ∈ amounts, b.AtLeast 0 := fun b mem =>
        natural b (List.mem_cons_of_mem a mem)
      have rest : 0 ≤ exactSum amounts := List.sum_nonneg fun x mem => by
        obtain ⟨b, listed, rfl⟩ := List.mem_map.mp mem
        exact (others b listed).value_nonneg
      have length : (0 : Rat) ≤ amounts.length := Nat.cast_nonneg _
      rw [exactSum, List.map_cons, List.sum_cons, List.length_cons] at small
      rw [exactSum] at rest
      push_cast at small
      obtain ⟨next, added⟩ := add_succeeds hs first (by linarith)
      have near := abs_le.mp (add_value hs first added)
      obtain ⟨total, sum⟩ := ih (add_atLeast hs first added) others (by
        rw [exactSum]
        linarith [near.2])
      exact ⟨total, by rw [List.foldlM_cons, added]; exact sum⟩

theorem foldlM_error {amounts : List Decimal} {start : Decimal} {fault : Fault}
    (h : amounts.foldlM add start = .error fault) : fault = .additionOverflowed := by
  induction amounts generalizing start with
  | nil => cases h
  | cons a amounts ih =>
      rw [List.foldlM_cons] at h
      cases added : add start a with
      | error fault' =>
          rw [added] at h
          cases h
          exact add_error added
      | ok next =>
          rw [added] at h
          exact ih h

end Decimal

end Dues.Money
