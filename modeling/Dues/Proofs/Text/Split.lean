import Dues.Text.Split

/-! # Splitting

A piece without the character that pieces are split at comes back whole, whatever is behind it.
-/

namespace Dues.Text

variable {sep : Char} {start cs rest : List Char}

theorem dropStart?_eq_some : dropStart? start cs = some rest ↔ cs = start ++ rest := by
  fun_induction dropStart? start cs with
  | case1 cs => exact Option.some_inj
  | case2 => simp
  | case3 start a cs ih => rw [ih, List.cons_append, List.cons.injEq, eq_self, true_and]
  | case4 a start c cs other => simp [Ne.symm other]

theorem splitAtFirst_append (free : sep ∉ cs) :
    splitAtFirst sep (cs ++ sep :: rest) = (cs, some rest) := by
  induction cs with
  | nil => exact if_pos rfl
  | cons c cs ih =>
      rw [List.mem_cons, not_or] at free
      rw [List.cons_append, splitAtFirst, if_neg (Ne.symm free.1), ih free.2]

theorem splitAtFirst_of_notMem (free : sep ∉ cs) : splitAtFirst sep cs = (cs, none) := by
  induction cs with
  | nil => rfl
  | cons c cs ih =>
      rw [List.mem_cons, not_or] at free
      rw [splitAtFirst, if_neg (Ne.symm free.1), ih free.2]

theorem splitAtEach_of_notMem (free : sep ∉ cs) : splitAtEach sep cs = [cs] := by
  induction cs with
  | nil => rfl
  | cons c cs ih =>
      rw [List.mem_cons, not_or] at free
      rw [splitAtEach, if_neg (Ne.symm free.1), ih free.2]

theorem splitAtEach_append (free : sep ∉ cs) :
    splitAtEach sep (cs ++ sep :: rest) = cs :: splitAtEach sep rest := by
  induction cs with
  | nil => exact if_pos rfl
  | cons c cs ih =>
      rw [List.mem_cons, not_or] at free
      rw [List.cons_append, splitAtEach, if_neg (Ne.symm free.1), ih free.2]

theorem joinWith_cons_cons (sep piece piece' : List Char) (pieces : List (List Char)) :
    joinWith sep (piece :: piece' :: pieces) = piece ++ sep ++ joinWith sep (piece' :: pieces) := by
  simp [joinWith, List.intersperse]

theorem eq_or_mem_of_mem_joinWith {c : Char} {pieces : List (List Char)}
    (mem : c ∈ joinWith [sep] pieces) : c = sep ∨ ∃ piece ∈ pieces, c ∈ piece := by
  induction pieces with
  | nil => cases mem
  | cons piece pieces ih =>
      cases pieces with
      | nil =>
          have joined : joinWith [sep] [piece] = piece := List.append_nil piece
          exact .inr ⟨piece, List.mem_cons_self, joined ▸ mem⟩
      | cons piece' pieces =>
          rw [joinWith_cons_cons, List.mem_append, List.mem_append, List.mem_singleton] at mem
          rcases mem with (first | same) | later
          · exact .inr ⟨piece, List.mem_cons_self, first⟩
          · exact .inl same
          · exact (ih later).imp_right fun ⟨p, mem, inside⟩ =>
              ⟨p, List.mem_cons_of_mem _ mem, inside⟩

/-- Pieces that were joined come apart again. Where there are none, there is one empty piece. -/
theorem splitAtEach_joinWith {pieces : List (List Char)} (some : pieces ≠ [])
    (free : ∀ piece ∈ pieces, sep ∉ piece) : splitAtEach sep (joinWith [sep] pieces) = pieces := by
  induction pieces with
  | nil => exact absurd rfl some
  | cons piece pieces ih =>
      have first := free piece List.mem_cons_self
      cases pieces with
      | nil =>
          have joined : joinWith [sep] [piece] = piece := List.append_nil piece
          rw [joined, splitAtEach_of_notMem first]
      | cons piece' pieces =>
          rw [joinWith_cons_cons, List.append_assoc, List.singleton_append,
            splitAtEach_append first, ih (List.cons_ne_nil _ _)
              fun p mem => free p (List.mem_cons_of_mem _ mem)]

end Dues.Text
