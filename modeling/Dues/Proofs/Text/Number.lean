import Dues.Proofs.Text.Blank
import Dues.Text.Number

/-! # Written numbers are read back

The number of a sale goes out with its payment session and comes back as a text. Trimming it does
no harm, and it is read as the number that it was.
-/

namespace Dues.Text

variable {bits n : Nat}

theorem isBlank_of_isDigit {c : Char} (h : c.isDigit = true) : isBlank c = false := by
  have digit : 48 ≤ c.toNat ∧ c.toNat ≤ 57 := by
    rw [Char.isDigit_iff_toNat] at h
    exact h
  simp only [isBlank, Bool.or_eq_false_iff, Bool.and_eq_false_iff, decide_eq_false_iff_not,
    beq_eq_false_iff_ne]
  omega

theorem isDigit_of_mem_digitsOfNat {c : Char} (mem : c ∈ digitsOfNat n) : c.isDigit = true :=
  Nat.isDigit_of_mem_toDigits (by decide) (by decide) mem

theorem isDigit_of_mem_paddedDigits {width : Nat} {c : Char} (mem : c ∈ paddedDigits width n) :
    c.isDigit = true := by
  rcases List.mem_append.mp mem with zero | digit
  · rw [List.eq_of_mem_replicate zero]
    rfl
  · exact isDigit_of_mem_digitsOfNat digit

theorem natOfDigits_paddedDigits (width n : Nat) : natOfDigits (paddedDigits width n) = n := by
  unfold natOfDigits paddedDigits
  rw [Nat.ofDigitChars_append, Nat.ofDigitChars_replicate_zero, Nat.mul_zero]
  exact Nat.ofDigitChars_ten_toDigits

theorem paddedDigits_ne_nil (width n : Nat) : paddedDigits width n ≠ [] := by
  intro empty
  have none := (List.append_eq_nil_iff.mp empty).2
  exact Nat.toDigits_ne_nil none

/-- Padding comes to exactly the width that was asked for, unless the number is longer. -/
theorem length_paddedDigits {width : Nat} (positive : 0 < width) (short : n < Nat.pow 10 width) :
    (paddedDigits width n).length = width := by
  have le : (digitsOfNat n).length ≤ width :=
    (Nat.length_toDigits_le_iff (by decide) positive).mpr short
  unfold paddedDigits
  rw [List.length_append, List.length_replicate]
  omega

theorem paddedDigits_succ (width n : Nat) : paddedDigits (width + 2) n =
    paddedDigits (width + 1) (n / 10) ++ [Nat.digitChar (n % 10)] := by
  unfold paddedDigits digitsOfNat
  dsimp only
  by_cases small : n < 10
  · have tenth : n / 10 = 0 := Nat.div_eq_of_lt small
    rw [tenth, Nat.toDigits_zero, Nat.toDigits_of_lt_base small, Nat.mod_eq_of_lt small,
      List.append_assoc, ← List.append_assoc, ← List.replicate_succ']
    rfl
  · rw [Nat.toDigits_of_base_le (by decide) (Nat.not_lt.mp small), List.length_append,
      List.append_assoc]
    congr 2
    exact Nat.add_sub_add_right (width + 1) 1 _

theorem take_paddedDigits (width cut n : Nat) (short : n < Nat.pow 10 (width + 1 + cut)) :
    (paddedDigits (width + 1 + cut) n).take (width + 1) =
      paddedDigits (width + 1) (n / Nat.pow 10 cut) := by
  induction cut generalizing n with
  | zero =>
      have length := length_paddedDigits (Nat.succ_pos width) short
      rw [Nat.add_zero, List.take_of_length_le (Nat.le_of_eq length)]
      exact congrArg _ (Nat.div_one n).symm
  | succ cut ih =>
      have tenth : n / 10 < Nat.pow 10 (width + 1 + cut) :=
        Nat.div_lt_of_lt_mul (by rwa [Nat.mul_comm])
      have length : (paddedDigits (width + 1 + cut) (n / 10)).length = width + 1 + cut :=
        length_paddedDigits (by omega) tenth
      have shift : width + 1 + (cut + 1) = width + cut + 2 := by omega
      have shift' : width + cut + 1 = width + 1 + cut := by omega
      rw [shift, paddedDigits_succ, shift', List.take_append_of_le_length (by omega), ih _ tenth,
        Nat.div_div_eq_div_mul, Nat.mul_comm 10]
      rfl

theorem le_ofDigitChars (n : Nat) (cs : List Char) : n ≤ Nat.ofDigitChars 10 cs n := by
  induction cs generalizing n with
  | nil => exact Nat.le_refl n
  | cons c cs ih =>
      have next := ih (10 * n + (c.toNat - '0'.toNat))
      rw [Nat.ofDigitChars_cons]
      omega

theorem readNat?_digitsOfNat (n : Nat) : readNat? (digitsOfNat n) = some n := by
  have digits : (digitsOfNat n).all Char.isDigit = true :=
    List.all_eq_true.mpr fun _ => isDigit_of_mem_digitsOfNat
  have some : (digitsOfNat n).isEmpty = false :=
    List.isEmpty_eq_false_iff.mpr Nat.toDigits_ne_nil
  unfold readNat?
  rw [digits, some]
  exact congrArg Option.some Nat.ofDigitChars_ten_toDigits

theorem readInt?_digitsOfInt (n : Int) : readInt? (digitsOfInt n) = some n := by
  unfold digitsOfInt
  split
  next negative =>
    rw [readInt?, readNat?_digitsOfNat]
    exact congrArg Option.some (show -(n.natAbs : Int) = n by omega)
  next =>
    unfold readInt?
    split
    next minus =>
      have digit := isDigit_of_mem_digitsOfNat (minus ▸ List.mem_cons_self)
      exact absurd digit (by decide)
    next plus =>
      have digit := isDigit_of_mem_digitsOfNat (plus ▸ List.mem_cons_self)
      exact absurd digit (by decide)
    next =>
      rw [readNat?_digitsOfNat]
      exact congrArg Option.some (show (n.natAbs : Int) = n by omega)

theorem readSigned?_digitsOfInt {n : Int} (fits : fitsSigned bits n = true) :
    readSigned? bits (digitsOfInt n) = some n := by
  rw [readSigned?, readInt?_digitsOfInt, Option.filter_some_pos fits]

theorem readNat?_eq_some {cs : List Char} {n : Nat} : readNat? cs = some n ↔
    cs ≠ [] ∧ (∀ c ∈ cs, c.isDigit = true) ∧ n = natOfDigits cs := by
  have digits : (!cs.isEmpty && cs.all Char.isDigit) = true ↔
      cs ≠ [] ∧ ∀ c ∈ cs, c.isDigit = true := by
    rw [Bool.and_eq_true, Bool.not_eq_true', List.isEmpty_eq_false_iff, List.all_eq_true]
  rw [readNat?, ← and_assoc, ← digits]
  split
  next all => rw [Option.some_inj, eq_comm]; exact (and_iff_right all).symm
  next other => exact ⟨nofun, fun h => absurd h.1 other⟩

theorem readInt?_eq_some_of_pos {cs : List Char} {n : Int} (positive : 0 < n) :
    readInt? cs = some n ↔ ∃ sign digits, cs = sign ++ digits ∧ sign ∈ [[], ['+']] ∧
      digits ≠ [] ∧ (∀ c ∈ digits, c.isDigit = true) ∧ n = natOfDigits digits := by
  constructor
  · intro read
    unfold readInt? at read
    split at read
    next =>
      obtain ⟨_, found, rfl⟩ := Option.map_eq_some_iff.mp read
      obtain ⟨k, _, same⟩ := Option.bind_eq_some_iff.mp found
      cases same
      omega
    next digits =>
      obtain ⟨_, found, rfl⟩ := Option.map_eq_some_iff.mp read
      obtain ⟨k, found', same⟩ := Option.bind_eq_some_iff.mp found
      cases same
      obtain ⟨some, all, rfl⟩ := readNat?_eq_some.mp found'
      exact ⟨['+'], digits, rfl, by decide, some, all, rfl⟩
    next =>
      obtain ⟨_, found, rfl⟩ := Option.map_eq_some_iff.mp read
      obtain ⟨k, found', same⟩ := Option.bind_eq_some_iff.mp found
      cases same
      obtain ⟨some, all, rfl⟩ := readNat?_eq_some.mp found'
      exact ⟨[], cs, rfl, by decide, some, all, rfl⟩
  · rintro ⟨sign, digits, rfl, signed, some, all, rfl⟩
    have read := readNat?_eq_some.mpr ⟨some, all, rfl⟩
    simp only [List.mem_cons, List.not_mem_nil, or_false] at signed
    rcases signed with rfl | rfl
    · rw [List.nil_append]
      unfold readInt?
      split
      next => exact absurd (all '-' List.mem_cons_self) (by decide)
      next => exact absurd (all '+' List.mem_cons_self) (by decide)
      next => rw [read]; rfl
    · rw [List.singleton_append, readInt?, read]
      rfl

theorem fitsSigned_of_pos {n : Int} (positive : 0 < n) :
    fitsSigned 64 n = true ↔ n < 0x8000000000000000 := by
  rw [fitsSigned, decide_eq_true_iff]
  change (-0x8000000000000000 : Int) ≤ n ∧ n < 0x8000000000000000 ↔ _
  omega

theorem trimChars_digitsOfInt (n : Int) : trimChars (digitsOfInt n) = digitsOfInt n := by
  apply trimChars_of_not_blank
  intro c mem
  unfold digitsOfInt at mem
  split at mem
  next =>
    rcases List.mem_cons.mp mem with rfl | mem
    · decide
    · exact isBlank_of_isDigit (isDigit_of_mem_digitsOfNat mem)
  next => exact isBlank_of_isDigit (isDigit_of_mem_digitsOfNat mem)

theorem trim_digitsOfInt (n : Int) :
    trim (String.ofList (digitsOfInt n)) = String.ofList (digitsOfInt n) := by
  rw [trim, String.toList_ofList, trimChars_digitsOfInt]

end Dues.Text
