import Dues.Text.Octets

/-! # Octets read back

The octets of a character are read as that character, whatever comes behind them, so that every
text can be read back from its octets.
-/

namespace Dues.Text.Octets

variable {b bits bits' least greatest : Nat} {bs : List Nat} {u : Unfinished} {c : Char}

theorem toNat_cases (c : Char) : c.toNat < 0xD800 ∨ 0xDFFF < c.toNat ∧ c.toNat < 0x110000 := c.valid

theorem toCharsFrom_begin (begins : lead b = .unfinished u) :
    toCharsFrom none (b :: bs) = toCharsFrom (some u) bs := by
  rw [toCharsFrom, step, begun, begins]
  rfl

theorem toCharsFrom_continue (needed : Nat) (above : least ≤ b) (below : b ≤ greatest)
    (joined : bits * 0x40 + (b - 0x80) = bits') :
    toCharsFrom (some ⟨bits, needed + 2, least, greatest⟩) (b :: bs) =
      toCharsFrom (some ⟨bits', needed + 1, 0x80, 0xBF⟩) bs := by
  simp [toCharsFrom, step, above, below, joined]

theorem toCharsFrom_finish (above : least ≤ b) (below : b ≤ greatest)
    (whole : bits * 0x40 + (b - 0x80) = c.toNat) :
    toCharsFrom (some ⟨bits, 1, least, greatest⟩) (b :: bs) = c :: toCharsFrom none bs := by
  simp [toCharsFrom, step, above, below, whole]

/-- What is read back are the four forms of a character. In the longer two, the first octet limits
the second one: so no character is written longer than it has to be, and none is a surrogate. -/
theorem toCharsFrom_ofChar (c : Char) (bs : List Nat) :
    toCharsFrom none (ofChar c ++ bs) = c :: toCharsFrom none bs := by
  have valid := toNat_cases c
  unfold ofChar
  dsimp only
  split
  next one =>
    have alone : lead c.toNat = .char c := by rw [lead, if_pos one, Char.ofNat_toNat]
    rw [List.singleton_append, toCharsFrom, step, begun, alone]
    rfl
  next =>
    split
    next two =>
      have begins : lead (0xC0 + c.toNat / 0x40) =
          .unfinished ⟨c.toNat / 0x40, 1, 0x80, 0xBF⟩ := by
        rw [lead, if_neg (by omega), if_neg (by omega), if_pos (by omega), Nat.add_sub_cancel_left]
      rw [List.cons_append, toCharsFrom_begin begins, List.singleton_append]
      exact toCharsFrom_finish (by omega) (by omega) (by omega)
    next =>
      split
      next three =>
        -- Behind 0xE0 and 0xED the second octet has less room: no short form, and no surrogate.
        have begins : lead (0xE0 + c.toNat / 0x1000) = .unfinished ⟨c.toNat / 0x1000, 0 + 2,
            if 0xE0 + c.toNat / 0x1000 = 0xE0 then 0xA0 else 0x80,
            if 0xE0 + c.toNat / 0x1000 = 0xED then 0x9F else 0xBF⟩ := by
          rw [lead, if_neg (by omega), if_neg (by omega), if_neg (by omega), if_pos (by omega),
            Nat.add_sub_cancel_left]
        rw [List.cons_append, toCharsFrom_begin begins, List.cons_append,
          toCharsFrom_continue 0 (by split <;> omega) (by split <;> omega)
            (by omega : _ = c.toNat / 0x40),
          List.singleton_append]
        exact toCharsFrom_finish (by omega) (by omega) (by omega)
      next four =>
        have begins : lead (0xF0 + c.toNat / 0x40000) = .unfinished ⟨c.toNat / 0x40000, 1 + 2,
            if 0xF0 + c.toNat / 0x40000 = 0xF0 then 0x90 else 0x80,
            if 0xF0 + c.toNat / 0x40000 = 0xF4 then 0x8F else 0xBF⟩ := by
          rw [lead, if_neg (by omega), if_neg (by omega), if_neg (by omega), if_neg (by omega),
            if_pos (by omega), Nat.add_sub_cancel_left]
        rw [List.cons_append, toCharsFrom_begin begins, List.cons_append,
          toCharsFrom_continue 1 (by split <;> omega) (by split <;> omega)
            (by omega : _ = c.toNat / 0x1000),
          List.cons_append,
          toCharsFrom_continue 0 (by omega) (by omega) (by omega : _ = c.toNat / 0x40),
          List.singleton_append]
        exact toCharsFrom_finish (by omega) (by omega) (by omega)

theorem toChars_ofChars (cs : List Char) : toChars (ofChars cs) = cs := by
  unfold toChars ofChars
  induction cs with
  | nil => rfl
  | cons c cs ih => rw [List.flatMap_cons, toCharsFrom_ofChar, ih]

end Dues.Text.Octets
