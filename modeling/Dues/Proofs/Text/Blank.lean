import Dues.Text.Blank
import Dues.Text.Split

/-! # What trimming keeps

Blanks are judged in two ways, by what is left after trimming and by looking at every character.
Both come to the same, so a text that one step lets through is never blank for the next.
-/

namespace Dues.Text

theorem all_blank_trimStart (cs : List Char) : (trimStart cs).all isBlank = cs.all isBlank := by
  induction cs with
  | nil => rfl
  | cons c cs ih =>
      unfold trimStart at ih ⊢
      cases hc : isBlank c with
      | true => simpa only [List.dropWhile_cons, hc, if_true, List.all_cons, Bool.true_and] using ih
      | false => simp [hc]

theorem all_blank_trimEnd (cs : List Char) : (trimEnd cs).all isBlank = cs.all isBlank := by
  unfold trimEnd
  rw [List.all_reverse]
  exact (all_blank_trimStart cs.reverse).trans List.all_reverse

theorem all_blank_trimChars (cs : List Char) : (trimChars cs).all isBlank = cs.all isBlank :=
  (all_blank_trimEnd _).trans (all_blank_trimStart cs)

theorem head_trimStart {c : Char} {cs rest : List Char} (h : trimStart cs = c :: rest) :
    isBlank c = false := by
  have first := List.head?_dropWhile_not isBlank cs
  unfold trimStart at h
  simpa [h] using first

theorem trimChars_eq_nil {cs : List Char} : trimChars cs = [] ↔ cs.all isBlank = true := by
  constructor
  · intro empty
    rw [← all_blank_trimChars, empty]
    rfl
  · intro blank
    cases h : trimStart cs with
    | nil => simp [trimChars, h, trimEnd]
    | cons c rest =>
        have allBlank : (c :: rest).all isBlank = true := by rw [← h, all_blank_trimStart, blank]
        simp [head_trimStart h] at allBlank

theorem trimEnd_isPrefix (cs : List Char) : trimEnd cs <+: cs := by
  unfold trimEnd
  have behind := List.dropWhile_suffix isBlank (l := cs.reverse)
  rwa [← List.reverse_prefix, List.reverse_reverse] at behind

theorem trimStart_of_head {c : Char} {rest : List Char} (hc : isBlank c = false) :
    trimStart (c :: rest) = c :: rest := by
  rw [trimStart, List.dropWhile_cons_of_neg (by simp [hc])]

theorem trimEnd_trimEnd (cs : List Char) : trimEnd (trimEnd cs) = trimEnd cs := by
  have again : ∀ l : List Char, (l.dropWhile isBlank).dropWhile isBlank = l.dropWhile isBlank := by
    intro l
    cases h : l.dropWhile isBlank with
    | nil => rfl
    | cons c rest => exact trimStart_of_head (head_trimStart (show trimStart l = c :: rest from h))
  unfold trimEnd
  rw [List.reverse_reverse, again]

theorem trimStart_eq_self {cs : List Char} (first : ∀ c ∈ cs.head?, isBlank c = false) :
    trimStart cs = cs := by
  cases cs with
  | nil => rfl
  | cons c rest => exact trimStart_of_head (first c rfl)

theorem trimChars_eq_self {cs : List Char} (first : ∀ c ∈ cs.head?, isBlank c = false)
    (last : ∀ c ∈ cs.getLast?, isBlank c = false) : trimChars cs = cs := by
  have behind : cs.reverse.dropWhile isBlank = cs.reverse := by
    apply trimStart_eq_self
    rwa [List.head?_reverse]
  rw [trimChars, trimStart_eq_self first, trimEnd, behind, List.reverse_reverse]

theorem trimChars_of_not_blank {cs : List Char} (h : ∀ c ∈ cs, isBlank c = false) :
    trimChars cs = cs := by
  apply trimChars_eq_self
  · exact fun c mem => h c (List.mem_of_mem_head? mem)
  · exact fun c mem => h c (List.mem_of_mem_getLast? mem)

@[simp] theorem trim_trim (s : String) : trim (trim s) = trim s := by
  simp only [trim, String.toList_ofList]
  congr 1
  unfold trimChars
  suffices kept : trimStart (trimEnd (trimStart s.toList)) = trimEnd (trimStart s.toList) by
    rw [kept, trimEnd_trimEnd]
  cases h : trimEnd (trimStart s.toList) with
  | nil => rfl
  | cons c rest =>
      obtain ⟨behind, whole⟩ := trimEnd_isPrefix (trimStart s.toList)
      rw [h, List.cons_append] at whole
      exact trimStart_of_head (head_trimStart whole.symm)

@[simp] theorem isBlankText_trim (s : String) : isBlankText (trim s) = isBlankText s := by
  simp only [isBlankText, trim, String.toList_ofList]
  exact all_blank_trimChars s.toList

@[simp] theorem trim_isEmpty (s : String) : (trim s).isEmpty = isBlankText s := by
  rw [Bool.eq_iff_iff, String.isEmpty_iff, ← String.toList_eq_nil_iff]
  simp only [trim, String.toList_ofList, isBlankText]
  exact trimChars_eq_nil

theorem exists_not_blank {s : String} (h : isBlankText s = false) :
    ∃ c ∈ s.toList, isBlank c = false := by
  obtain ⟨c, mem, hc⟩ := List.all_eq_false.mp h
  exact ⟨c, mem, by simpa using hc⟩

theorem not_blank_of_mem {cs : List Char} {c : Char} (mem : c ∈ cs) (hc : isBlank c = false) :
    isBlankText (String.ofList cs) = false := by
  simp only [isBlankText, String.toList_ofList]
  exact List.all_eq_false.mpr ⟨c, mem, by simp [hc]⟩

theorem mem_wordsFrom (word cs : List Char) {c : Char} (hc : isBlank c = false)
    (mem : c ∈ word ∨ c ∈ cs) : ∃ w ∈ wordsFrom word cs, c ∈ w := by
  induction cs generalizing word with
  | nil =>
      have inWord : c ∈ word := by simpa using mem
      have nonempty : word.isEmpty = false := by cases word <;> simp_all
      exact ⟨word.reverse, by simp [wordsFrom, nonempty], by simpa using inWord⟩
  | cons d cs ih =>
      cases hd : isBlank d with
      | true =>
          have inRest : c ∈ word ∨ c ∈ cs := by
            rcases mem with inWord | inRest
            · exact .inl inWord
            · rcases List.mem_cons.mp inRest with rfl | inRest
              · rw [hc] at hd
                cases hd
              · exact .inr inRest
          cases word with
          | nil =>
              obtain ⟨w, hw, hcw⟩ := ih [] inRest
              exact ⟨w, by simpa [wordsFrom, hd] using hw, hcw⟩
          | cons a word =>
              rcases inRest with inWord | inRest
              · exact ⟨(a :: word).reverse, by simp [wordsFrom, hd], List.mem_reverse.mpr inWord⟩
              · obtain ⟨w, hw, hcw⟩ := ih [] (.inr inRest)
                exact ⟨w, by simp [wordsFrom, hd, hw], hcw⟩
      | false =>
          have inRest : c ∈ d :: word ∨ c ∈ cs := by
            rcases mem with inWord | inRest
            · exact .inl (List.mem_cons_of_mem d inWord)
            · rcases List.mem_cons.mp inRest with rfl | inRest
              · exact .inl List.mem_cons_self
              · exact .inr inRest
          obtain ⟨w, hw, hcw⟩ := ih (d :: word) inRest
          exact ⟨w, by simpa [wordsFrom, hd] using hw, hcw⟩

/-- Splitting into words loses blanks only. -/
theorem mem_words {cs : List Char} {c : Char} (mem : c ∈ cs) (hc : isBlank c = false) :
    ∃ w ∈ words cs, c ∈ w := mem_wordsFrom [] cs hc (.inr mem)

theorem mem_intersperse {sep piece : List Char} {pieces : List (List Char)} (mem : piece ∈ pieces) :
    piece ∈ pieces.intersperse sep := by
  induction pieces with
  | nil => cases mem
  | cons head rest ih =>
      cases rest with
      | nil => exact mem
      | cons next rest =>
          rw [List.intersperse_cons_cons]
          rcases List.mem_cons.mp mem with rfl | mem
          · exact List.mem_cons_self
          · exact List.mem_cons_of_mem _ (List.mem_cons_of_mem _ (ih mem))

theorem mem_joinWith {sep piece : List Char} {pieces : List (List Char)} {c : Char}
    (mem : piece ∈ pieces) (hc : c ∈ piece) : c ∈ joinWith sep pieces :=
  List.mem_flatten.mpr ⟨piece, mem_intersperse mem, hc⟩

end Dues.Text
