import Dues.Proofs.Text.Octets
import Dues.Proofs.Text.Split
import Dues.Text.FormEncoding

/-! # Forms read back

Names and values of any text are read back as they were encoded, in their order. What is encoded
has none of the characters that separate pairs, and names from values.
-/

namespace Dues.Text.FormEncoding

open Octets (ofChar ofChars toChars_ofChars)

variable {b : Nat} {c : Char} {cs rest : List Char}

theorem isHexDigit_hexDigit : ∀ n < 16, isHexDigit (hexDigit n) = true := by decide

theorem hexDigitValue_hexDigit : ∀ n < 16, hexDigitValue (hexDigit n) = n := by decide

theorem ofChar_lt (c : Char) : ∀ b ∈ ofChar c, b < 0x100 := by
  have valid := Octets.toNat_cases c
  unfold ofChar
  dsimp only
  repeat' split
  all_goals
    simp only [List.forall_mem_cons, List.not_mem_nil, false_implies, implies_true, and_true]
    omega

theorem octets_escapeOctet (octet : b < 0x100) :
    octets (escapeOctet b ++ rest) = b :: octets rest := by
  have high : b / 16 < 16 := by omega
  have low : b % 16 < 16 := by omega
  have both : (isHexDigit (hexDigit (b / 16)) && isHexDigit (hexDigit (b % 16))) = true := by
    rw [isHexDigit_hexDigit _ high, isHexDigit_hexDigit _ low]
    rfl
  have joined : 16 * hexDigitValue (hexDigit (b / 16)) + hexDigitValue (hexDigit (b % 16)) = b := by
    rw [hexDigitValue_hexDigit _ high, hexDigitValue_hexDigit _ low, Nat.div_add_mod]
  rw [escapeOctet, List.cons_append, List.cons_append, List.singleton_append, octets, if_pos both,
    joined]

theorem octets_escapeOctets {bs : List Nat} (small : ∀ b ∈ bs, b < 0x100) :
    octets (bs.flatMap escapeOctet ++ rest) = bs ++ octets rest := by
  induction bs with
  | nil => rfl
  | cons b bs ih =>
      rw [List.flatMap_cons, List.append_assoc, octets_escapeOctet (small b List.mem_cons_self),
        ih fun b mem => small b (List.mem_cons_of_mem _ mem), List.cons_append]

theorem octets_cons (plus : c ≠ '+') (percent : c ≠ '%') :
    octets (c :: rest) = ofChar c ++ octets rest := by
  rw [octets]
  · intro same
    exact absurd same plus
  · intro _ _ _ same
    exact absurd same percent

theorem octets_encodeChar (c : Char) (rest : List Char) :
    octets (encodeChar c ++ rest) = ofChar c ++ octets rest := by
  unfold encodeChar
  split
  next plain =>
    refine octets_cons ?_ ?_
    · rintro rfl
      cases plain
    · rintro rfl
      cases plain
  next =>
    split
    next blank =>
      subst blank
      rw [List.singleton_append, octets]
      rfl
    next => exact octets_escapeOctets (ofChar_lt c)

theorem octets_encodeText (cs : List Char) : octets (encodeText cs) = ofChars cs := by
  unfold encodeText ofChars
  induction cs with
  | nil => rw [List.flatMap_nil, List.flatMap_nil, octets]
  | cons c cs ih => rw [List.flatMap_cons, List.flatMap_cons, octets_encodeChar, ih]

theorem decodeText_encodeText (s : String) : decodeText (encodeText s.toList) = s := by
  rw [decodeText, octets_encodeText, toChars_ofChars, String.ofList_toList]

/-- Everything that is encoded is plain, but for the signs of the encoding. -/
theorem plain_of_mem_encodeText (mem : c ∈ encodeText cs) :
    isPlain c = true ∨ c = '+' ∨ c = '%' := by
  obtain ⟨d, _, mem⟩ := List.mem_flatMap.mp mem
  unfold encodeChar at mem
  split at mem
  next plain => exact .inl (List.mem_singleton.mp mem ▸ plain)
  next =>
    split at mem
    next => exact .inr (.inl (List.mem_singleton.mp mem))
    next =>
      have digit : ∀ n < 16, isPlain (hexDigit n) = true := by decide
      obtain ⟨b, octet, mem⟩ := List.mem_flatMap.mp mem
      have small := ofChar_lt d b octet
      simp only [escapeOctet, List.mem_cons, List.not_mem_nil, or_false] at mem
      rcases mem with rfl | rfl | rfl
      · exact .inr (.inr rfl)
      · exact .inl (digit _ (by omega))
      · exact .inl (digit _ (by omega))

theorem notMem_encodeText (sign : isPlain c = false ∧ c ≠ '+' ∧ c ≠ '%') (cs : List Char) :
    c ∉ encodeText cs := by
  intro mem
  rcases plain_of_mem_encodeText mem with plain | plus | percent
  · rw [sign.1] at plain
    cases plain
  · exact sign.2.1 plus
  · exact sign.2.2 percent

theorem ampersand_notMem_encodePair (pair : String × String) : '&' ∉ encodePair pair := by
  have free := notMem_encodeText (by decide : isPlain '&' = false ∧ '&' ≠ '+' ∧ '&' ≠ '%')
  simp [encodePair, free]

theorem encodePair_ne_nil (pair : String × String) : encodePair pair ≠ [] := by
  simp [encodePair]

theorem decodePair_encodePair (pair : String × String) : decodePair (encodePair pair) = pair := by
  rw [decodePair, encodePair, splitAtFirst_append (notMem_encodeText (by decide) _)]
  dsimp only [Option.getD]
  rw [decodeText_encodeText, decodeText_encodeText]

/-! ### The signs of a form

Whoever reads a form in another way than by `decode` still finds one `=` for each field, an `&`
between any two of them, and nothing that is not ASCII. -/

theorem isPlain_or_sign_of_mem_encode {pairs : List (String × String)}
    (mem : c ∈ (encode pairs).toList) : isPlain c = true ∨ c ∈ ['+', '%', '=', '&'] := by
  rw [encode, String.toList_ofList] at mem
  rcases eq_or_mem_of_mem_joinWith mem with rfl | ⟨piece, isPiece, inside⟩
  · exact .inr (by decide)
  · obtain ⟨pair, _, rfl⟩ := List.mem_map.mp isPiece
    have text : ∀ cs, c ∈ encodeText cs → isPlain c = true ∨ c ∈ ['+', '%', '=', '&'] :=
      fun cs mem => (plain_of_mem_encodeText mem).imp_right fun sign => by
        rcases sign with rfl | rfl <;> decide
    rcases List.mem_append.mp inside with name | inside
    · exact text _ name
    · rcases List.mem_cons.mp inside with rfl | value
      · exact .inr (by decide)
      · exact text _ value

theorem count_equals_encodePair (pair : String × String) : (encodePair pair).count '=' = 1 := by
  have free := notMem_encodeText (by decide : isPlain '=' = false ∧ '=' ≠ '+' ∧ '=' ≠ '%')
  rw [encodePair, List.count_append, List.count_cons_self, List.count_eq_zero_of_not_mem (free _),
    List.count_eq_zero_of_not_mem (free _)]

theorem count_equals_encode (pairs : List (String × String)) :
    (encode pairs).toList.count '=' = pairs.length := by
  rw [encode, String.toList_ofList]
  induction pairs with
  | nil => rfl
  | cons pair pairs ih =>
      cases pairs with
      | nil => exact (congrArg _ (List.append_nil _)).trans (count_equals_encodePair pair)
      | cons pair' pairs =>
          have none : ['&'].count '=' = 0 := by decide
          rw [List.map_cons, List.map_cons, joinWith_cons_cons, List.count_append,
            List.count_append, count_equals_encodePair, none, ← List.map_cons, ih]
          exact Nat.add_comm 1 _

theorem count_ampersand_encode (pair : String × String) (pairs : List (String × String)) :
    (encode (pair :: pairs)).toList.count '&' = pairs.length := by
  have none : ∀ pair, (encodePair pair).count '&' = 0 := fun pair =>
    List.count_eq_zero_of_not_mem (ampersand_notMem_encodePair pair)
  rw [encode, String.toList_ofList]
  induction pairs generalizing pair with
  | nil => exact (congrArg _ (List.append_nil _)).trans (none pair)
  | cons pair' pairs ih =>
      rw [List.map_cons, List.map_cons, joinWith_cons_cons, List.count_append, List.count_append,
        none, List.count_singleton_self, ← List.map_cons, ih, Nat.zero_add]
      exact Nat.add_comm 1 _

/-- Every list of names and values is read back as it was encoded. -/
theorem decode_encode (pairs : List (String × String)) : decode (encode pairs) = pairs := by
  cases pairs with
  | nil => rfl
  | cons pair pairs =>
      have written : ∀ piece ∈ (pair :: pairs).map encodePair, '&' ∉ piece ∧ piece ≠ [] := by
        intro piece mem
        obtain ⟨p, _, rfl⟩ := List.mem_map.mp mem
        exact ⟨ampersand_notMem_encodePair p, encodePair_ne_nil p⟩
      -- Every piece has its `=`, so none is left out as empty.
      have some : (pair :: pairs).map encodePair ≠ [] := List.cons_ne_nil _ _
      rw [decode, encode, String.toList_ofList,
        splitAtEach_joinWith some fun piece mem => (written piece mem).1,
        List.filter_eq_self.mpr fun piece mem => by simpa using (written piece mem).2,
        List.map_map]
      exact List.map_id'' decodePair_encodePair _

end Dues.Text.FormEncoding
