import Dues.Proofs.Text.Blank
import Dues.Text.Lowercase

/-! # Small letters are no blanks

Making a text small turns no letter into a blank, so the login name that is made up of a person's
names is not blank either. The table is gone through run by run: its images stay clear of the
places where the blanks are.
-/

namespace Dues.Text.Lowercase

/-- Where the blanks are, as first and last code points. -/
def blankRanges : List (Nat × Nat) :=
  [(9, 13), (0x20, 0x20), (0x85, 0x85), (0xA0, 0xA0), (0x1680, 0x1680), (0x2000, 0x200A),
    (0x2028, 0x2029), (0x202F, 0x202F), (0x205F, 0x205F), (0x3000, 0x3000)]

theorem isBlank_eq_ranges (c : Char) :
    isBlank c = blankRanges.any fun r => r.1 ≤ c.toNat && c.toNat ≤ r.2 := by
  rw [Bool.eq_iff_iff]
  simp only [isBlank, blankRanges, List.any_cons, List.any_nil, Bool.or_eq_true, Bool.and_eq_true,
    decide_eq_true_eq, beq_iff_eq, Bool.or_false]
  omega

/-- Every image of the run lies before or behind each range of blanks. -/
def runAvoidsBlanks (r : ShiftRun) : Bool :=
  blankRanges.all fun b => (b.2 : Int) < r.first + r.shift || r.last + r.shift < (b.1 : Int)

/-- The table replaces no character by blanks alone. -/
def AvoidsBlanks (t : CodePointTable) : Prop :=
  t.runs.all runAvoidsBlanks = true ∧ (t.entries.all fun e => e.2.any fun c => !isBlank c) = true

instance (t : CodePointTable) : Decidable (AvoidsBlanks t) := inferInstanceAs (Decidable (_ ∧ _))

/-- A table is evaluated from the characters of its texts. The kernel would take minutes to read
them off the texts themselves. -/
theorem avoidsBlanks_ofText {runs entries : String}
    (h : ∃ rs es, runs = String.ofList rs ∧ entries = String.ofList es ∧
      AvoidsBlanks ⟨(words rs).map CodePointTable.readRun, (words es).map CodePointTable.readEntry⟩) :
    AvoidsBlanks (.ofText runs entries) := by
  obtain ⟨rs, es, rfl, rfl, h⟩ := h
  simpa only [CodePointTable.ofText, String.toList_ofList] using h

set_option maxRecDepth 10000 in
theorem table_avoidsBlanks : AvoidsBlanks table :=
  avoidsBlanks_ofText ⟨_, _, rfl, rfl, by decide +kernel⟩

theorem toNat_ofNat_cases (n : Nat) : (Char.ofNat n).toNat = n ∨ (Char.ofNat n).toNat = 0 := by
  by_cases valid : n.isValidChar
  · left
    rw [Char.ofNat, dif_pos valid]
    rfl
  · right
    simp [Char.ofNat, valid, Char.toNat]

theorem shifted_not_blank {r : ShiftRun} (avoids : runAvoidsBlanks r = true) {n : Nat}
    (first : r.first ≤ n) (last : n ≤ r.last) :
    isBlank (Char.ofNat (n + r.shift).toNat) = false := by
  rw [isBlank_eq_ranges, List.any_eq_false]
  intro b hb
  have apart := List.all_eq_true.mp avoids b hb
  simp only [Bool.or_eq_true, decide_eq_true_eq] at apart
  have positive : 0 < b.1 := by
    simp only [blankRanges, List.mem_cons, List.not_mem_nil, or_false] at hb
    rcases hb with rfl | rfl | rfl | rfl | rfl | rfl | rfl | rfl | rfl | rfl <;> decide
  simp only [Bool.and_eq_true, decide_eq_true_eq]
  rcases toNat_ofNat_cases (n + r.shift).toNat with h | h <;> rw [h] <;> omega

theorem find?_not_blank {t : CodePointTable} (avoids : AvoidsBlanks t) {c : Char}
    {small : List Char} (h : t.find? c = some small) : ∃ d ∈ small, isBlank d = false := by
  simp only [CodePointTable.find?] at h
  split at h
  next r found =>
    have inRun := List.find?_some found
    simp only [Bool.and_eq_true, decide_eq_true_eq] at inRun
    cases h
    exact ⟨_, List.mem_cons_self, shifted_not_blank
      (List.all_eq_true.mp avoids.1 r (List.mem_of_find?_eq_some found)) inRun.1.1 inRun.1.2⟩
  next =>
    obtain ⟨e, found, rfl⟩ := Option.map_eq_some_iff.mp h
    have nonblank := List.all_eq_true.mp avoids.2 e (List.mem_of_find?_eq_some found)
    obtain ⟨d, mem, hd⟩ := List.any_eq_true.mp nonblank
    exact ⟨d, mem, by simpa using hd⟩

theorem ascii_toLower_not_blank :
    ∀ n < 128, isBlank (Char.ofNat n) = false → isBlank (Char.ofNat n).toLower = false := by
  decide +kernel

theorem toLower_not_blank {c : Char} (ascii : c.toNat < 128) (hc : isBlank c = false) :
    isBlank c.toLower = false := by
  rw [← Char.ofNat_toNat c] at hc ⊢
  exact ascii_toLower_not_blank c.toNat ascii hc

theorem lowerAfter_not_blank (before cs : List Char) {c : Char} (mem : c ∈ cs)
    (hc : isBlank c = false) : ∃ d ∈ lowerAfter before cs, isBlank d = false := by
  induction cs generalizing before with
  | nil => cases mem
  | cons e cs ih =>
      rcases List.mem_cons.mp mem with rfl | mem
      · suffices h : ∃ d ∈ (if c = 'Σ' then [smallSigma before cs]
            else if c.toNat < 128 then [c.toLower] else (table.find? c).getD [c]),
            isBlank d = false by
          obtain ⟨d, hd, hb⟩ := h
          exact ⟨d, List.mem_append_left _ hd, hb⟩
        split
        next =>
          refine ⟨_, List.mem_cons_self, ?_⟩
          unfold smallSigma
          split <;> decide
        next =>
          split
          next ascii => exact ⟨_, List.mem_cons_self, toLower_not_blank ascii hc⟩
          next =>
            cases found : table.find? c with
            | none => exact ⟨c, List.mem_cons_self, hc⟩
            | some small => exact find?_not_blank table_avoidsBlanks found
      · obtain ⟨d, hd, hb⟩ := ih (e :: before) mem
        exact ⟨d, List.mem_append_right _ hd, hb⟩

/-- A text with something in it still has something in it when it has been made small. -/
theorem lower_not_blank {cs : List Char} {c : Char} (mem : c ∈ cs) (hc : isBlank c = false) :
    isBlankText (String.ofList (lower cs)) = false := by
  obtain ⟨d, hd, hb⟩ := lowerAfter_not_blank [] cs mem hc
  exact not_blank_of_mem hd hb

end Dues.Text.Lowercase
