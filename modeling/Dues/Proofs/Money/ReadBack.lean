import Mathlib.Data.Nat.Prime.Basic
import Dues.Proofs.Money.Stored
import Dues.Proofs.Money.Within

/-! # Whole pennies from the book

An amount of whole pennies is kept as the nearest binary fraction. What is read for it is the amount
again, or is too large by a tenth of a penny at most: reading rounds digit by digit, and may step
over a half.
-/

namespace Dues.Money

/-- What a digit is worth in the last of so many places. -/
def decimalUnit (places : Nat) : Rat := 1 / (Nat.pow 10 places : Nat)

/-- What is left of one after so many halvings. -/
def binaryUnit (halvings : Nat) : Rat := 1 / (Nat.pow 2 halvings : Nat)

theorem decimalUnit_pos (places : Nat) : 0 < decimalUnit places := by
  have power : (0 : Rat) < (Nat.pow 10 places : Nat) := by exact_mod_cast ten_pow_pos places
  exact div_pos one_pos power

theorem decimalUnit_succ (places : Nat) : decimalUnit places = 10 * decimalUnit (places + 1) := by
  have power : (Nat.pow 10 places : Rat) ≠ 0 := by exact_mod_cast (ten_pow_pos places).ne'
  unfold decimalUnit
  rw [show Nat.pow 10 (places + 1) = Nat.pow 10 places * 10 from rfl]
  push_cast
  field_simp

theorem binaryUnit_pos (halvings : Nat) : 0 < binaryUnit halvings := by
  have power : (0 : Rat) < (Nat.pow 2 halvings : Nat) := by
    exact_mod_cast Nat.pow_pos (n := halvings) Nat.two_pos
  exact div_pos one_pos power

theorem binaryUnit_succ (halvings : Nat) : binaryUnit halvings = 2 * binaryUnit (halvings + 1) := by
  have power : (Nat.pow 2 halvings : Rat) ≠ 0 := by
    exact_mod_cast (Nat.pow_pos (n := halvings) Nat.two_pos).ne'
  unfold binaryUnit
  rw [show Nat.pow 2 (halvings + 1) = Nat.pow 2 halvings * 2 from rfl]
  push_cast
  field_simp

namespace Binary64

/-- The number that digits with places stand for. -/
def denoted (digits : Nat × Nat) : Rat := digits.1 * decimalUnit digits.2

variable {p : Nat} {u : Rat}

/-- A halving that cannot be done exactly loses less than five of `coefficientLimit` parts. -/
theorem removeHalvings_denoted (n places halvings : Nat) :
    denoted (removeHalvings n places halvings) ≤ n * decimalUnit places * binaryUnit halvings ∧
      coefficientLimit * (n * decimalUnit places * binaryUnit halvings) ≤
        coefficientLimit * denoted (removeHalvings n places halvings) +
          5 * halvings * (n * decimalUnit places * binaryUnit halvings) := by
  induction halvings generalizing n places with
  | zero =>
      have one : binaryUnit 0 = 1 := by norm_num [binaryUnit]
      simp [removeHalvings, denoted, one]
  | succ halvings ih =>
      have unit := decimalUnit_pos places
      have half := binaryUnit_pos (halvings + 1)
      have before : 0 ≤ n * decimalUnit places * binaryUnit (halvings + 1) := by positivity
      unfold removeHalvings
      split
      next even =>
        obtain ⟨le, ge⟩ := ih (n / 2) places
        have same : ((n / 2 : Nat) : Rat) * decimalUnit places * binaryUnit halvings =
            n * decimalUnit places * binaryUnit (halvings + 1) := by
          have double : n = n / 2 * 2 := by omega
          have double : (n : Rat) = (n / 2 : Nat) * 2 := by exact_mod_cast double
          rw [binaryUnit_succ halvings, double]
          ring
        rw [same] at le ge
        push_cast
        exact ⟨le, by linarith⟩
      next odd =>
        split
        next fits =>
          obtain ⟨le, ge⟩ := ih (5 * n) (places + 1)
          have same : ((5 * n : Nat) : Rat) * decimalUnit (places + 1) * binaryUnit halvings =
              n * decimalUnit places * binaryUnit (halvings + 1) := by
            rw [binaryUnit_succ halvings, decimalUnit_succ places]
            push_cast
            ring
          rw [same] at le ge
          push_cast
          exact ⟨le, by linarith⟩
        next large =>
          obtain ⟨le, ge⟩ := ih (n / 2) places
          have less : ((n / 2 : Nat) : Rat) * decimalUnit places * binaryUnit halvings =
              n * decimalUnit places * binaryUnit (halvings + 1) -
                decimalUnit places * binaryUnit (halvings + 1) := by
            have double : n = n / 2 * 2 + 1 := by omega
            have double : (n : Rat) = (n / 2 : Nat) * 2 + 1 := by exact_mod_cast double
            rw [binaryUnit_succ halvings, double]
            ring
          have lost : 0 < decimalUnit places * binaryUnit (halvings + 1) := mul_pos unit half
          have small : coefficientLimit * (decimalUnit places * binaryUnit (halvings + 1)) ≤
              5 * (n * decimalUnit places * binaryUnit (halvings + 1)) := by
            have le : (coefficientLimit : Rat) ≤ 5 * n := by exact_mod_cast not_lt.mp large
            calc coefficientLimit * (decimalUnit places * binaryUnit (halvings + 1))
                ≤ 5 * n * (decimalUnit places * binaryUnit (halvings + 1)) :=
                  mul_le_mul_of_nonneg_right le lost.le
              _ = 5 * (n * decimalUnit places * binaryUnit (halvings + 1)) := by ring
          rw [less] at le ge
          generalize n * decimalUnit places * binaryUnit (halvings + 1) = v at *
          generalize decimalUnit places * binaryUnit (halvings + 1) = w at *
          have fewer : 0 ≤ (halvings : Rat) * w := by positivity
          push_cast
          constructor <;> linarith

/-- Dropping places rounds up by five ninths of the last place at most, and down by four. -/
theorem dropPlaces_denoted (tooMany : Nat → Nat → Bool) (n places : Nat) :
    9 * denoted (dropPlaces tooMany n places) + 5 * decimalUnit places ≤
        9 * (n * decimalUnit places) + 5 * decimalUnit (dropPlaces tooMany n places).2 ∧
      9 * (n * decimalUnit places) + 4 * decimalUnit places ≤
        9 * denoted (dropPlaces tooMany n places) +
          4 * decimalUnit (dropPlaces tooMany n places).2 := by
  induction places generalizing n with
  | zero => exact ⟨le_refl _, le_refl _⟩
  | succ places ih =>
      unfold dropPlaces
      split
      next =>
        obtain ⟨above, below⟩ := ih (divHalfUp n 10)
        have unit := decimalUnit_pos (places + 1)
        have most : 10 * divHalfUp n 10 ≤ n + 5 := by
          unfold divHalfUp
          omega
        have least : n ≤ 10 * divHalfUp n 10 + 4 := by
          unfold divHalfUp
          omega
        have most : 10 * (divHalfUp n 10 : Rat) ≤ n + 5 := by exact_mod_cast most
        have least : (n : Rat) ≤ 10 * divHalfUp n 10 + 4 := by exact_mod_cast least
        have most := mul_le_mul_of_nonneg_right most unit.le
        have least := mul_le_mul_of_nonneg_right least unit.le
        rw [decimalUnit_succ places] at above below
        constructor <;> linarith
      next => exact ⟨le_refl _, le_refl _⟩

/-- Digits from which nothing was dropped are those before. Else the last one was dropped from too
many. -/
theorem dropPlaces_cases (tooMany : Nat → Nat → Bool) (n places : Nat) :
    dropPlaces tooMany n places = (n, places) ∨
      ∃ m, tooMany m ((dropPlaces tooMany n places).2 + 1) = true ∧
        (dropPlaces tooMany n places).1 = divHalfUp m 10 := by
  induction places generalizing n with
  | zero => exact .inl rfl
  | succ places ih =>
      unfold dropPlaces
      split
      next tooMany =>
        apply Or.inr
        rcases ih (divHalfUp n 10) with same | dropped
        · rw [same]
          exact ⟨n, tooMany, rfl⟩
        · exact dropped
      next => exact .inl rfl

theorem dropPlaces_stops (tooMany : Nat → Nat → Bool) (n places : Nat) :
    (dropPlaces tooMany n places).2 = 0 ∨
      tooMany (dropPlaces tooMany n places).1 (dropPlaces tooMany n places).2 = false := by
  induction places generalizing n with
  | zero => exact .inl rfl
  | succ places ih =>
      unfold dropPlaces
      split
      next => exact ih (divHalfUp n 10)
      next few => exact .inr (Bool.eq_false_iff.mpr few)

theorem dropZeros_denoted (n places : Nat) :
    denoted (dropZeros n places) = n * decimalUnit places := by
  induction places generalizing n with
  | zero => rfl
  | succ places ih =>
      unfold dropZeros
      split
      next zero =>
        have tenth : n = n / 10 * 10 := by omega
        have tenth : (n : Rat) = (n / 10 : Nat) * 10 := by exact_mod_cast tenth
        rw [ih, decimalUnit_succ places, tenth]
        ring
      next => rfl

/-- The digits that remain of those without halvings. -/
def shortened (digits : Nat × Nat) : Nat × Nat :=
  let shown := dropPlaces (fun _ places => maxScale < places) digits.1 digits.2
  dropPlaces (fun n _ => exactLimit ≤ n) shown.1 shown.2

variable {digits : Nat × Nat}

theorem shortened_denoted (digits : Nat × Nat) :
    9 * denoted (shortened digits) ≤ 9 * denoted digits + 5 * decimalUnit (shortened digits).2 ∧
      9 * denoted digits ≤ 9 * denoted (shortened digits) + 4 * decimalUnit (shortened digits).2 := by
  have start := decimalUnit_pos digits.2
  obtain ⟨above, below⟩ := dropPlaces_denoted (fun _ places => maxScale < places) digits.1 digits.2
  unfold shortened
  dsimp only
  generalize dropPlaces (fun _ places => maxScale < places) digits.1 digits.2 = shown at above below ⊢
  obtain ⟨above', below'⟩ := dropPlaces_denoted (fun n _ => exactLimit ≤ n) shown.1 shown.2
  change 9 * denoted shown + _ ≤ 9 * denoted digits + _ at above
  change 9 * denoted digits + _ ≤ _ at below
  change _ ≤ 9 * denoted shown + _ at above'
  change 9 * denoted shown + _ ≤ _ at below'
  constructor <;> linarith

/-- Pence remain, unless nothing was dropped or the number is large. -/
theorem shortened_places (digits : Nat × Nat) :
    shortened digits = digits ∨ 2 ≤ (shortened digits).2 ∨ exactLimit ≤ 10 * (shortened digits).1 := by
  unfold shortened
  dsimp only
  have first := dropPlaces_cases (fun _ places => maxScale < places) digits.1 digits.2
  generalize dropPlaces (fun _ places => maxScale < places) digits.1 digits.2 = shown at first ⊢
  rcases dropPlaces_cases (fun n _ => exactLimit ≤ n) shown.1 shown.2 with same | ⟨m, large, last⟩
  · rw [same]
    rcases first with rfl | ⟨_, many, _⟩
    · exact .inl rfl
    · have many : maxScale < shown.2 + 1 := of_decide_eq_true many
      have scale : maxScale = 28 := rfl
      exact .inr (.inl (by omega))
  · have large : exactLimit ≤ m := of_decide_eq_true large
    have limit : exactLimit = 4503599627370496 := by decide
    rw [last]
    unfold divHalfUp
    omega

theorem shortened_lt (digits : Nat × Nat) :
    (shortened digits).2 = 0 ∨ (shortened digits).1 < exactLimit := by
  rcases dropPlaces_stops (fun n _ => exactLimit ≤ n) _ _ with none | few
  · exact .inl none
  · exact .inr (not_le.mp (of_decide_eq_false few))

/-- The fraction that is read for whole pennies. It is the nearest one to them but for the halvings,
of which each loses less than five of `coefficientLimit` parts. -/
structure NearPennies (p : Nat) (read : Rat) : Prop where
  above : precision * read ≤ (precision + 1) * (p / 100)
  below : (coefficientLimit - 295) * ((precision - 1) * (p / 100)) ≤
    precision * (coefficientLimit * read)

theorem coefficientLimit_eq : (coefficientLimit : Rat) = 79228162514264337593543950336 := by
  norm_num [coefficientLimit]

/-- In the last place, what is read is what it should be or one more. With pence only it cannot be
more. -/
theorem shortened_near {read : Rat} {m t : Nat} (near : NearPennies p read) (unit : 0 < u)
    (above : 9 * (m * u) ≤ 9 * read + 5 * u) (below : 9 * read ≤ 9 * (m * u) + 4 * u)
    (exactly : t * u = p / 100) (small : m < exactLimit) :
    m = t ∨ m = t + 1 ∧ preciseLimit ≤ t := by
  obtain ⟨near₁, near₂⟩ := near
  rw [← exactly, precision_eq] at near₁ near₂
  rw [coefficientLimit_eq] at near₂
  have most : (9 * 9007199254740992 * m : Rat) ≤
      9 * 9007199254740993 * t + 5 * 9007199254740992 := by
    refine le_of_mul_le_mul_right ?_ unit
    linarith
  have least : (9 * 79228162514264337593543950041 * 9007199254740991 * t : Rat) ≤
      9007199254740992 * 79228162514264337593543950336 * (9 * m + 4) := by
    refine le_of_mul_le_mul_right ?_ unit
    linarith
  have most : 9 * 9007199254740992 * m ≤ 9 * 9007199254740993 * t + 5 * 9007199254740992 := by
    exact_mod_cast most
  have least : 9 * 79228162514264337593543950041 * 9007199254740991 * t ≤
      9007199254740992 * 79228162514264337593543950336 * (9 * m + 4) := by
    exact_mod_cast least
  have limit : exactLimit = 4503599627370496 := by decide
  have precise : preciseLimit = 1000000000000000 := by decide
  omega

theorem floorLog2_ge (n d : Nat) : (Nat.log2 n : Int) - Nat.log2 d - 1 ≤ floorLog2 n d := by
  unfold floorLog2
  dsimp only
  split <;> omega

theorem den_natCast_div (a b : Nat) : ((a : Rat) / b).den ∣ b := by
  have divides := Rat.den_dvd a b
  simp only [Rat.divInt_eq_div, Int.cast_natCast] at divides
  exact Int.natCast_dvd_natCast.mp divides

theorem nearestBinary_den (p : Nat) :
    ∃ halvings ≤ 59, (nearestBinary (p / 100)).den = Nat.pow 2 halvings := by
  rcases Nat.eq_zero_or_pos p with rfl | positive
  · refine ⟨0, by decide, ?_⟩
    norm_num
    rfl
  · have hundredths : (0 : Rat) < p / 100 := div_pos (by exact_mod_cast positive) (by norm_num)
    obtain ⟨u, unit, rounded⟩ := nearestBinary_pos hundredths
    have few : Nat.log2 ((p : Rat) / 100).den ≤ 6 := by
      have le : ((p : Rat) / (100 : Nat)).den ≤ 100 :=
        Nat.le_of_dvd (by decide) (den_natCast_div p 100)
      have den := ((p : Rat) / 100).den_pos
      exact Nat.le_of_lt_succ ((Nat.log2_lt den.ne').mpr (Nat.lt_of_le_of_lt le (by decide)))
    have low := floorLog2_ge ((p : Rat) / 100).num.natAbs ((p : Rat) / 100).den
    rw [rounded]
    have divides := den_natCast_div (divHalfEven (((p : Rat) / 100).num.natAbs *
      Nat.pow 2 (-u).toNat) (((p : Rat) / 100).den * Nat.pow 2 u.toNat) * Nat.pow 2 u.toNat)
      (Nat.pow 2 (-u).toNat)
    rw [Nat.cast_mul] at divides
    obtain ⟨halvings, le, den⟩ := (Nat.dvd_prime_pow Nat.prime_two).mp divides
    exact ⟨halvings, by omega, den⟩

theorem removeHalvings_near {b : Binary64} (value : b.value = nearestBinary (p / 100)) :
    NearPennies p (denoted (removeHalvings b.value.num.natAbs 0 (Nat.log2 b.value.den))) := by
  have hundredths : (0 : Rat) ≤ p / 100 := by positivity
  obtain ⟨nonnegative, _⟩ := nearestBinary_near hundredths
  obtain ⟨above, below⟩ := nearestBinary_error hundredths
  obtain ⟨halvings, few, den⟩ := nearestBinary_den p
  rw [← value] at nonnegative above below den
  have log : Nat.log2 b.value.den = halvings := by
    rw [den]
    exact Nat.log2_two_pow
  have exactly : b.value.num.natAbs * decimalUnit 0 * binaryUnit halvings = b.value := by
    have abs : ((b.value.num.natAbs : Int) : Rat) = b.value.num := by
      rw [Int.natAbs_of_nonneg (Rat.num_nonneg.mpr nonnegative)]
    have one : decimalUnit 0 = 1 := by norm_num [decimalUnit]
    rw [one, mul_one, binaryUnit, ← den, mul_one_div]
    conv_rhs => rw [← Rat.num_div_den b.value, ← abs]
    rfl
  obtain ⟨le, ge⟩ := removeHalvings_denoted b.value.num.natAbs 0 halvings
  rw [exactly] at le ge
  rw [log]
  have few : (halvings : Rat) * b.value ≤ 59 * b.value :=
    mul_le_mul_of_nonneg_right (by exact_mod_cast few) nonnegative
  constructor
  · rw [precision_eq] at above ⊢
    linarith
  · rw [precision_eq] at below ⊢
    rw [coefficientLimit_eq] at ge ⊢
    linarith

theorem pennies_unit {places : Nat} (pence : 2 ≤ places) :
    ((p * Nat.pow 10 (places - 2) : Nat) : Rat) * decimalUnit places = p / 100 := by
  obtain ⟨more, rfl⟩ := Nat.exists_eq_add_of_le' pence
  have power : (Nat.pow 10 more : Rat) ≠ 0 := by exact_mod_cast (ten_pow_pos more).ne'
  rw [Nat.add_sub_cancel, decimalUnit, ten_pow_add, show Nat.pow 10 2 = 100 from rfl]
  push_cast
  field_simp

theorem eq_of_few_places {m places : Nat} (few : places < 2)
    (near : NearPennies p (m * decimalUnit places)) (small : p < preciseLimit) :
    m * decimalUnit places = p / 100 := by
  have whole : ∃ n : Nat, (m : Rat) * decimalUnit places = n / 100 := by
    refine ⟨m * Nat.pow 10 (2 - places), ?_⟩
    interval_cases places
    · norm_num [decimalUnit]
    · norm_num [decimalUnit]
      ring
  obtain ⟨n, whole⟩ := whole
  rw [whole] at near ⊢
  obtain ⟨above, below⟩ := near
  rw [precision_eq] at above below
  rw [coefficientLimit_eq] at below
  have above : (9007199254740992 * n : Rat) ≤ 9007199254740993 * p := by linarith
  have below : (79228162514264337593543950041 * (9007199254740991 * p) : Rat) ≤
      9007199254740992 * (79228162514264337593543950336 * n) := by linarith
  have above : 9007199254740992 * n ≤ 9007199254740993 * p := by exact_mod_cast above
  have below : 79228162514264337593543950041 * (9007199254740991 * p) ≤
      9007199254740992 * (79228162514264337593543950336 * n) := by exact_mod_cast below
  have precise : preciseLimit = 1000000000000000 := by decide
  have same : n = p := by omega
  rw [same]

theorem decimalUnit_small {places : Nat} (many : 3 ≤ places) : 1000 * decimalUnit places ≤ 1 := by
  have power : Nat.pow 10 3 ≤ Nat.pow 10 places := Nat.pow_le_pow_right (by decide) many
  have power : (1000 : Rat) ≤ (Nat.pow 10 places : Nat) := by exact_mod_cast power
  rw [decimalUnit, mul_one_div, div_le_one (by linarith)]
  exact power

theorem not_large {m places : Nat} {read : Rat} (few : places < 2) (near : NearPennies p read)
    (small : p < preciseLimit)
    (above : 9 * (m * decimalUnit places) ≤ 9 * read + 5 * decimalUnit places) :
    ¬ exactLimit ≤ 10 * m := by
  intro large
  have limit : exactLimit = 4503599627370496 := by decide
  have precise : preciseLimit = 1000000000000000 := by decide
  have large : (4503599627370496 : Rat) ≤ 10 * m := by exact_mod_cast limit ▸ large
  have small : (p : Rat) < 1000000000000000 := by exact_mod_cast precise ▸ small
  have near := near.above
  rw [precision_eq] at near
  interval_cases places
  · have unit : decimalUnit 0 = 1 := by norm_num [decimalUnit]
    rw [unit] at above
    linarith
  · have unit : decimalUnit 1 = 1 / 10 := by norm_num [decimalUnit]
    rw [unit] at above
    linarith

/-- The pennies are read exactly, or one more in the third place or a later one. -/
theorem shortened_pennies (near : NearPennies p (denoted digits)) (small : p < preciseLimit) :
    denoted (shortened digits) = p / 100 ∨ denoted (shortened digits) =
      p / 100 + decimalUnit (shortened digits).2 ∧ 3 ≤ (shortened digits).2 := by
  obtain ⟨above, below⟩ := shortened_denoted digits
  by_cases pence : 2 ≤ (shortened digits).2
  · have exactly := pennies_unit (p := p) pence
    have few := (shortened_lt digits).resolve_left (by omega)
    rcases shortened_near near (decimalUnit_pos _) above below exactly few with same | ⟨more, large⟩
    · apply Or.inl
      rw [denoted, same, exactly]
    · apply Or.inr
      constructor
      · rw [denoted, more, Nat.cast_succ, add_mul, exactly, one_mul]
      · -- two places are no more than the pennies themselves
        rcases Nat.eq_or_lt_of_le pence with two | three
        · rw [← two, show Nat.pow 10 (2 - 2) = 1 from rfl, Nat.mul_one] at large
          omega
        · exact three
  · apply Or.inl
    rcases shortened_places digits with same | two | large
    · rw [same] at pence ⊢
      exact eq_of_few_places (not_le.mp pence) near small
    · exact absurd two pence
    · exact absurd large (not_large (not_le.mp pence) near small above)

end Binary64

theorem Decimal.within_of_denoted {d : Decimal} {c lo hi : Nat} (natural : d.coefficient = c)
    (lower : (lo : Rat) ≤ 1000 * (c * decimalUnit d.scale))
    (upper : 1000 * (c * decimalUnit d.scale) ≤ (hi : Rat)) : d.Within lo hi := by
  have power : (0 : Rat) < (Nat.pow 10 d.scale : Nat) := by exact_mod_cast ten_pow_pos d.scale
  rw [decimalUnit, mul_one_div, ← mul_div_assoc] at lower upper
  rw [le_div_iff₀ power] at lower
  rw [div_le_iff₀ power] at upper
  exact ⟨c, natural, by exact_mod_cast lower, by exact_mod_cast upper⟩

/-- Whole pennies that were kept are read with a tenth of a penny more at most. -/
theorem Binary64.toDecimal?_within {b : Binary64} {p : Nat} {r : Decimal}
    (value : b.value = nearestBinary (p / 100)) (small : p < preciseLimit)
    (read : b.toDecimal? = some r) : r.Within (10 * p) (10 * p + 1) := by
  have near := removeHalvings_near value
  have nonnegative : 0 ≤ b.value.num := by
    rw [Rat.num_nonneg, value]
    exact (nearestBinary_near (by positivity)).1
  unfold toDecimal? at read
  dsimp only at read
  rw [if_neg nonnegative.not_gt] at read
  generalize removeHalvings b.value.num.natAbs 0 (Nat.log2 b.value.den) = digits at near read
  have pennies := shortened_pennies near small
  change Decimal.of? (dropZeros (shortened digits).1 (shortened digits).2).1
    (dropZeros (shortened digits).1 (shortened digits).2).2 = some r at read
  obtain ⟨_, natural, scale⟩ := Decimal.of?_eq_some.mp read
  have same := dropZeros_denoted (shortened digits).1 (shortened digits).2
  change denoted _ = denoted (shortened digits) at same
  have bounds : (p : Rat) / 100 ≤ denoted (shortened digits) ∧
      1000 * denoted (shortened digits) ≤ 10 * p + 1 := by
    rcases pennies with exactly | ⟨more, many⟩
    · rw [exactly]
      constructor <;> linarith
    · have unit := decimalUnit_pos (shortened digits).2
      have least := decimalUnit_small many
      rw [more]
      constructor <;> linarith
  rw [← same, denoted, ← scale] at bounds
  refine Decimal.within_of_denoted natural ?_ ?_ <;> push_cast
  · linarith [bounds.1]
  · exact bounds.2

end Dues.Money
