import Dues.Money.Written
import Dues.Proofs.Money.Decimal
import Dues.Proofs.Text.Number

/-! # Amounts in pounds and pence

Cut off after two places, an amount is written as the whole pennies that it comes to. Such a text is
always read again, as those pennies: where the reader has no room for both places, it is because the
amount had fewer of them, and what it drops are zeros.
-/

namespace Dues.Money

open Dues.Text (digitsOfNat paddedDigits digitValue trimChars)

/-- The text of a whole number of pennies. -/
def pounds (pennies : Nat) : List Char :=
  digitsOfNat (pennies / 100) ++ '.' :: paddedDigits 2 (pennies % 100)

/-- The whole pennies of `n / 10 ^ scale`. -/
def wholePennies (n scale : Nat) : Nat := n * 100 / Nat.pow 10 scale

namespace Decimal

variable {d : Decimal} {n : Nat}

/-- The whole pennies that an amount comes to, whatever its sign. -/
def cutOff (d : Decimal) : Nat := wholePennies d.coefficient.natAbs d.scale

theorem wholeChars_eq (d : Decimal) : d.wholeChars = digitsOfNat (d.cutOff / 100) := by
  unfold wholeChars cutOff wholePennies
  rw [Nat.div_div_eq_div_mul, Nat.mul_div_mul_right _ _ (by decide)]

theorem fraction_eq (d : Decimal) :
    (d.placeChars ++ List.replicate (2 - d.scale) '0').take 2 = paddedDigits 2 (d.cutOff % 100) := by
  unfold placeChars cutOff wholePennies
  generalize d.coefficient.natAbs = c
  match d.scale with
  | 0 =>
      have whole : c * 100 / Nat.pow 10 0 % 100 = 0 := by
        rw [show Nat.pow 10 0 = 1 from rfl, Nat.div_one, Nat.mul_mod_left]
      rw [whole]
      rfl
  | 1 =>
      have tenths : c * 100 / Nat.pow 10 1 % 100 = c % 10 * 10 := by
        rw [show Nat.pow 10 1 = 10 from rfl]
        omega
      have short : (paddedDigits 1 (c % 10)).length = 1 :=
        Text.length_paddedDigits (by decide) (Nat.mod_lt c (by decide))
      rw [tenths, Text.paddedDigits_succ 0, Nat.mul_div_cancel _ (by decide), Nat.mul_mod_left,
        if_neg (by decide)]
      exact List.take_of_length_le (by simp [short])
  | scale + 2 =>
      have power : Nat.pow 10 (scale + 2) = Nat.pow 10 scale * 100 := ten_pow_add scale 2
      have order : scale + 2 = 1 + 1 + scale := by omega
      have short : c % Nat.pow 10 (scale + 2) < Nat.pow 10 (1 + 1 + scale) := by
        rw [← order]
        exact Nat.mod_lt c (ten_pow_pos _)
      have taken := Text.take_paddedDigits 1 scale _ short
      rw [← order] at taken
      rw [if_neg (by omega), show 2 - (scale + 2) = 0 by omega, List.replicate_zero,
        List.append_nil, taken, power, Nat.mod_mul_right_div_self,
        Nat.mul_div_mul_right _ _ (by decide)]

theorem chars_two (d : Decimal) : chars 2 d = d.signChars ++ pounds d.cutOff := by
  unfold chars pounds
  dsimp only
  rw [if_neg (by decide), fraction_eq, wholeChars_eq, List.append_assoc]

theorem pence_eq (nonnegative : d.isNegative = false) :
    d.pence = String.ofList (pounds d.cutOff) := by
  rw [pence, chars_two, signChars, nonnegative]
  rfl

theorem roundOff_small {n scale digit : Nat} {rest : List Char}
    (digits : ∀ c ∈ rest, c.isDigit = true) (small : digit < 5) :
    roundOff n scale digit rest = some (n, scale) := by
  have all : rest.all (fun c => (dropped? c).isSome) = true := by
    rw [List.all_eq_true]
    intro c mem
    rw [dropped?, if_pos (digits c mem)]
    rfl
  rw [roundOff, all, if_neg (by decide), if_pos small]

theorem readPlaces_digit {point seen : Bool} {n scale : Nat} {c : Char} {rest : List Char}
    (digit : c.isDigit = true) (room : scale < maxScale) :
    readPlaces point seen n scale (c :: rest) =
      if 10 * n + digitValue c < coefficientLimit then
        readPlaces point true (10 * n + digitValue c) (if point then scale + 1 else 0) rest
      else if point then roundOff n scale (digitValue c) rest
      else none := by
  have noPoint : c ≠ '.' := by
    rintro rfl
    cases digit
  have noSeparator : c ≠ '_' := by
    rintro rfl
    cases digit
  have more : ¬ (point && decide (scale = maxScale)) = true := by
    rw [Bool.and_eq_true, decide_eq_true_eq]
    rintro ⟨_, full⟩
    omega
  rw [readPlaces, if_neg more, if_neg noPoint, if_neg noSeparator, if_pos digit]

theorem readPlaces_whole {n : Nat} {seen : Bool} {cs rest : List Char}
    (digits : ∀ c ∈ cs, c.isDigit = true) (fits : Nat.ofDigitChars 10 cs n < coefficientLimit) :
    readPlaces false seen n 0 (cs ++ rest) =
      readPlaces false (seen || !cs.isEmpty) (Nat.ofDigitChars 10 cs n) 0 rest := by
  induction cs generalizing n seen with
  | nil => simp
  | cons c cs ih =>
      rw [Nat.ofDigitChars_cons] at fits ⊢
      have next : 10 * n + digitValue c < coefficientLimit :=
        Nat.lt_of_le_of_lt (Text.le_ofDigitChars _ cs) fits
      have others : ∀ c ∈ cs, c.isDigit = true := fun c mem => digits c (List.mem_cons_of_mem _ mem)
      have read : readPlaces false true (10 * n + digitValue c) 0 (cs ++ rest) =
          readPlaces false (true || !cs.isEmpty) (Nat.ofDigitChars 10 cs (10 * n + digitValue c)) 0
            rest := ih others fits
      rw [List.cons_append, readPlaces_digit (digits c List.mem_cons_self) (by decide),
        if_pos next, if_neg Bool.false_ne_true, read, Bool.true_or, List.isEmpty_cons,
        Bool.not_false, Bool.or_true]
      rfl

theorem digitValue_digitChar {n : Nat} (small : n < 10) : digitValue (Nat.digitChar n) = n :=
  Nat.toNat_digitChar_sub_48_of_lt_ten small

theorem isDigit_digitChar {n : Nat} (small : n < 10) : (Nat.digitChar n).isDigit = true := by
  rw [Nat.isDigit_digitChar, decide_eq_true small]

theorem paddedDigits_two {n : Nat} (small : n < 100) :
    paddedDigits 2 n = [Nat.digitChar (n / 10), Nat.digitChar (n % 10)] := by
  have tens : n / 10 < 10 := by omega
  rw [Text.paddedDigits_succ 0, paddedDigits, digitsOfNat, Nat.toDigits_of_lt_base tens]
  rfl

theorem readPlaces_point (n scale : Nat) (rest : List Char) :
    readPlaces false true n scale ('.' :: rest) = readPlaces true true n scale rest := by
  rw [readPlaces, Bool.false_and, if_neg Bool.false_ne_true, if_pos rfl,
    if_neg Bool.false_ne_true]

/-- Pounds and pence are read as what they say, with as many places as there is room for. Room may
be missing only where the pence, or the last digit of them, are 0. -/
theorem readPlaces_pounds {p : Nat} (whole : p / 100 < coefficientLimit)
    (tens : coefficientLimit ≤ p / 10 → p % 100 = 0) (ones : coefficientLimit ≤ p → p % 10 = 0) :
    ∃ m places, readPlaces false false 0 0 (pounds p) = some (m, places) ∧
      m < coefficientLimit ∧ places ≤ 2 ∧ m * Nat.pow 10 (2 - places) = p := by
  have small : p % 100 < 100 := Nat.mod_lt p (by decide)
  have number : Nat.ofDigitChars 10 (digitsOfNat (p / 100)) 0 = p / 100 :=
    Nat.ofDigitChars_ten_toDigits
  have ten : p % 100 / 10 < 10 := by omega
  have one : p % 10 < 10 := Nat.mod_lt p (by decide)
  have last : p % 100 % 10 = p % 10 := by omega
  have point : readPlaces false false 0 0 (pounds p) = readPlaces true true (p / 100) 0
      [Nat.digitChar (p % 100 / 10), Nat.digitChar (p % 10)] := by
    have some : (digitsOfNat (p / 100)).isEmpty = false :=
      List.isEmpty_eq_false_iff.mpr Nat.toDigits_ne_nil
    unfold pounds
    rw [readPlaces_whole (fun c => Text.isDigit_of_mem_digitsOfNat) (by rwa [number]), number,
      some, paddedDigits_two small, last]
    exact readPlaces_point _ _ _
  rw [point, readPlaces_digit (isDigit_digitChar ten) (by decide), digitValue_digitChar ten,
    show 10 * (p / 100) + p % 100 / 10 = p / 10 by omega]
  by_cases roomForTens : p / 10 < coefficientLimit
  · rw [if_pos roomForTens, if_pos rfl, readPlaces_digit (isDigit_digitChar one) (by decide),
      digitValue_digitChar one, show 10 * (p / 10) + p % 10 = p by omega]
    by_cases roomForOnes : p < coefficientLimit
    · rw [if_pos roomForOnes]
      exact ⟨p, 2, rfl, roomForOnes, by decide, Nat.mul_one p⟩
    · have zero := ones (Nat.not_lt.mp roomForOnes)
      rw [if_neg roomForOnes, if_pos rfl,
        roundOff_small (List.forall_mem_nil _) (by omega)]
      exact ⟨p / 10, 1, rfl, roomForTens, by decide, show p / 10 * 10 = p by omega⟩
  · have zero := tens (Nat.not_lt.mp roomForTens)
    have rest : ∀ c ∈ [Nat.digitChar (p % 10)], c.isDigit = true := by
      intro c mem
      rw [List.mem_singleton.mp mem]
      exact isDigit_digitChar one
    rw [if_neg roomForTens, if_pos rfl, roundOff_small rest (by omega)]
    exact ⟨p / 100, 0, rfl, whole, by decide, show p / 100 * 100 = p by omega⟩

theorem wholePennies_room {n : Nat} (scale : Nat) (small : n < coefficientLimit) :
    wholePennies n scale / 100 < coefficientLimit ∧
      (coefficientLimit ≤ wholePennies n scale / 10 → wholePennies n scale % 100 = 0) ∧
      (coefficientLimit ≤ wholePennies n scale → wholePennies n scale % 10 = 0) := by
  unfold wholePennies
  match scale with
  | 0 =>
      rw [show Nat.pow 10 0 = 1 from rfl]
      omega
  | 1 =>
      rw [show Nat.pow 10 1 = 10 from rfl]
      omega
  | scale + 2 =>
      have power : Nat.pow 10 (scale + 2) = Nat.pow 10 scale * 100 := ten_pow_add scale 2
      have le : n / Nat.pow 10 scale ≤ n := Nat.div_le_self _ _
      rw [power, Nat.mul_div_mul_right _ _ (by decide)]
      omega

theorem readUnsigned_pounds {p : Nat} (whole : p / 100 < coefficientLimit)
    (tens : coefficientLimit ≤ p / 10 → p % 100 = 0) (ones : coefficientLimit ≤ p → p % 10 = 0)
    (negative : Bool) :
    ∃ r, readUnsigned negative (pounds p) = some r ∧ r.scale ≤ 2 ∧
      r.coefficientAt 2 = if negative then -(p : Int) else p := by
  obtain ⟨m, places, read, fits, le, same⟩ := readPlaces_pounds whole tens ones
  have scale : places ≤ maxScale := Nat.le_trans le (by decide)
  cases negative with
  | false =>
      refine ⟨⟨m, places, fits, scale⟩, ?_, le, ?_⟩
      · rw [readUnsigned, read]
        exact of?_eq_some.mpr ⟨⟨fits, scale⟩, rfl, rfl⟩
      · rw [coefficientAt, ← same]
        exact (Int.natCast_mul _ _).symm
  | true =>
      have fits' : (-(m : Int)).natAbs < coefficientLimit := by omega
      refine ⟨⟨-(m : Int), places, fits', scale⟩, ?_, le, ?_⟩
      · rw [readUnsigned, read]
        exact of?_eq_some.mpr ⟨⟨fits', scale⟩, rfl, rfl⟩
      · rw [coefficientAt, ← same, Int.neg_mul]
        exact congrArg Neg.neg (Int.natCast_mul _ _).symm

theorem pounds_head {p : Nat} : ∃ c cs, pounds p = c :: cs ∧ c.isDigit = true := by
  unfold pounds
  cases digits : digitsOfNat (p / 100) with
  | nil => exact absurd digits Nat.toDigits_ne_nil
  | cons c cs =>
      exact ⟨c, _, rfl, Text.isDigit_of_mem_digitsOfNat (digits ▸ List.mem_cons_self)⟩

theorem readPlain_digit {c : Char} {cs : List Char} (digit : c.isDigit = true) :
    readPlain (c :: cs) = readUnsigned false (c :: cs) := by
  unfold readPlain
  split
  next minus =>
    cases minus
    cases digit
  next plus =>
    cases plus
    cases digit
  next => rfl

/-- The pence of an amount are read as the amount without its further places. -/
theorem read?_pence (d : Decimal) : ∃ r, read? (chars 2 d) = some r ∧ r.scale ≤ 2 ∧
    r.coefficientAt 2 = if d.isNegative then -(d.cutOff : Int) else d.cutOff := by
  obtain ⟨whole, tens, ones⟩ := wholePennies_room d.scale d.coefficient_lt
  obtain ⟨r, read, places, value⟩ := readUnsigned_pounds whole tens ones d.isNegative
  refine ⟨r, ?_, places, value⟩
  have plain : readPlain (chars 2 d) = some r := by
    rw [chars_two, signChars]
    cases sign : d.isNegative with
    | true =>
        rw [sign] at read
        exact read
    | false =>
        rw [sign] at read
        obtain ⟨c, cs, first, digit⟩ := pounds_head (p := d.cutOff)
        rw [if_neg Bool.false_ne_true, List.nil_append, first, readPlain_digit digit, ← first]
        exact read
  rw [read?, plain]

theorem not_blank_of_mem_chars {places : Nat} {c : Char} (mem : c ∈ chars places d) :
    Text.isBlank c = false := by
  have digit : ∀ {c : Char}, c.isDigit = true → Text.isBlank c = false := Text.isBlank_of_isDigit
  unfold chars at mem
  rcases List.mem_append.mp mem with mem | mem
  · rcases List.mem_append.mp mem with mem | mem
    · unfold signChars at mem
      split at mem
      next =>
        rw [List.mem_singleton.mp mem]
        decide
      next => cases mem
    · exact digit (Text.isDigit_of_mem_digitsOfNat mem)
  · split at mem
    next => cases mem
    next =>
      rcases List.mem_cons.mp mem with rfl | mem
      · decide
      · rcases List.mem_append.mp (List.mem_of_mem_take mem) with mem | mem
        · unfold placeChars at mem
          split at mem
          next => cases mem
          next => exact digit (Text.isDigit_of_mem_paddedDigits mem)
        · rw [List.eq_of_mem_replicate mem]
          decide

end Decimal

end Dues.Money
