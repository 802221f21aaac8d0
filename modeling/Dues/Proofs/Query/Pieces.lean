import Mathlib.Data.List.TakeWhile
import Dues.Query.Template

/-! # The pieces of a template

A template falls into pieces in exactly one way: markers, parameters with all of their digits, and
characters that are just text.
-/

namespace Dues.Query

open Dues.Text (isDecimalDigit)

/-- A part of a template. -/
inductive Piece
  | marker
  | parameter (digits : List Char)
  | text (c : Char)
  deriving DecidableEq

namespace Piece

def source : Piece → List Char
  | marker => Query.marker
  | parameter digits => '$' :: digits
  | text c => [c]

def isText : Piece → Bool
  | text _ => true
  | _ => false

def number? : Piece → Option (List Char)
  | parameter digits => some digits
  | _ => none

end Piece

def sourceOf (pieces : List Piece) : List Char := pieces.flatMap Piece.source

/-- The digits that a text begins with. -/
def leadingDigits (cs : List Char) : List Char := cs.takeWhile isDecimalDigit

/-- The numbers that come right behind signs of a kind. -/
def numbersBehind (isSign : Char → Bool) : List Char → List (List Char)
  | [] => []
  | c :: cs =>
      if isSign c && !(leadingDigits cs).isEmpty then
        leadingDigits cs :: numbersBehind isSign cs
      else numbersBehind isSign cs

/-- Parameters have numbers. -/
def Piece.Proper : Piece → Prop
  | parameter digits => digits ≠ [] ∧ ∀ d ∈ digits, isDecimalDigit d = true
  | _ => True

/-- Pieces that are what their text falls into: the digits of a parameter are all that there are,
and no text is the beginning of a marker or of a parameter. -/
inductive WellRead : List Piece → Prop
  | nil : WellRead []
  | marker {pieces : List Piece} (rest : WellRead pieces) : WellRead (.marker :: pieces)
  | parameter {pieces : List Piece} {digits : List Char}
      (proper : (Piece.parameter digits).Proper) (maximal : leadingDigits (sourceOf pieces) = [])
      (rest : WellRead pieces) : WellRead (.parameter digits :: pieces)
  | text {pieces : List Piece} {c : Char} (unmarked : ¬ marker <+: c :: sourceOf pieces)
      (unnumbered : c = '$' → leadingDigits (sourceOf pieces) = []) (rest : WellRead pieces) :
      WellRead (.text c :: pieces)

variable {pieces pieces' : List Piece} {p : Piece} {c d : Char} {cs digits : List Char}

theorem not_digit_brace : isDecimalDigit '\x7b' = false := by decide

theorem not_digit_dollar : isDecimalDigit '$' = false := by decide

theorem not_digit_question : isDecimalDigit '?' = false := by decide

theorem Piece.Proper.notMem (proper : (Piece.parameter digits).Proper)
    (other : isDecimalDigit c = false) : c ∉ digits := fun mem => by
  rw [proper.2 c mem] at other
  cases other

theorem leadingDigits_append (all : ∀ d ∈ digits, isDecimalDigit d = true) (cs : List Char) :
    leadingDigits (digits ++ cs) = digits ++ leadingDigits cs := List.takeWhile_append_of_pos all

theorem leadingDigits_cons (other : isDecimalDigit c = false) : leadingDigits (c :: cs) = [] :=
  List.takeWhile_cons_of_neg (by simp [other])

theorem not_marker_start (other : c ≠ '\x7b') : ¬ marker <+: c :: cs := fun h =>
  other (List.cons_prefix_cons.mp h).1.symm

theorem sourceOf_cons (p : Piece) (pieces : List Piece) :
    sourceOf (p :: pieces) = p.source ++ sourceOf pieces := List.flatMap_cons

theorem sourceOf_text_cons (c : Char) (pieces : List Piece) :
    sourceOf (.text c :: pieces) = c :: sourceOf pieces := rfl

theorem sourceOf_append (pieces pieces' : List Piece) :
    sourceOf (pieces ++ pieces') = sourceOf pieces ++ sourceOf pieces' := List.flatMap_append

theorem sourceOf_texts (cs : List Char) : sourceOf (cs.map .text) = cs := by
  induction cs with
  | nil => rfl
  | cons c cs ih => rw [List.map_cons, sourceOf_cons, ih]; rfl

theorem WellRead.tail (read : WellRead (p :: pieces)) : WellRead pieces := by
  cases read <;> assumption

theorem WellRead.proper (read : WellRead (p :: pieces)) : p.Proper := by
  cases read with
  | marker => trivial
  | parameter proper => exact proper
  | text => trivial

/-! ### Every text has its pieces -/

theorem leadingDigits_dropWhile (cs : List Char) :
    leadingDigits (cs.dropWhile isDecimalDigit) = [] := by
  induction cs with
  | nil => rfl
  | cons c cs ih =>
      by_cases digit : isDecimalDigit c = true
      · rwa [List.dropWhile_cons_of_pos digit]
      · rw [List.dropWhile_cons_of_neg digit]
        exact List.takeWhile_cons_of_neg digit

theorem exists_wellRead (cs : List Char) : ∃ pieces, WellRead pieces ∧ sourceOf pieces = cs := by
  induction size : cs.length using Nat.strongRecOn generalizing cs with
  | ind n ih =>
      cases cs with
      | nil => exact ⟨[], .nil, rfl⟩
      | cons c cs =>
          by_cases marked : marker <+: c :: cs
          · obtain ⟨rest, whole⟩ := marked
            have shorter : rest.length < n := by
              rw [← size, ← whole, List.length_append]
              exact Nat.lt_add_of_pos_left (by decide)
            obtain ⟨pieces, read, rfl⟩ := ih _ shorter rest rfl
            exact ⟨.marker :: pieces, .marker read, whole⟩
          by_cases numbered : c = '$' ∧ leadingDigits cs ≠ []
          · obtain ⟨rfl, some⟩ := numbered
            have shorter : (cs.dropWhile isDecimalDigit).length < n := by
              rw [← size, List.length_cons]
              exact Nat.lt_succ_of_le (List.dropWhile_suffix _).length_le
            obtain ⟨pieces, read, rest⟩ := ih _ shorter _ rfl
            have maximal : leadingDigits (sourceOf pieces) = [] := by
              rw [rest]
              exact leadingDigits_dropWhile cs
            refine ⟨.parameter (leadingDigits cs) :: pieces, .parameter ⟨some, ?_⟩ maximal read, ?_⟩
            · exact List.all_eq_true.mp List.all_takeWhile
            · rw [sourceOf_cons, rest]
              exact congrArg ('$' :: ·) List.takeWhile_append_dropWhile
          · have shorter : cs.length < n := by
              rw [← size]
              exact Nat.lt_succ_self _
            obtain ⟨pieces, read, rfl⟩ := ih _ shorter cs rfl
            refine ⟨.text c :: pieces, .text marked (fun same => ?_) read, rfl⟩
            exact Classical.not_not.mp fun some => numbered ⟨same, some⟩

theorem leadingDigits_number (proper : (Piece.parameter digits).Proper)
    (maximal : leadingDigits cs = []) : leadingDigits (digits ++ cs) = digits := by
  rw [leadingDigits_append proper.2, maximal, List.append_nil]

theorem WellRead.of_marker (read : WellRead pieces) (h : sourceOf pieces = Query.marker ++ cs) :
    ∃ rest, pieces = .marker :: rest ∧ sourceOf rest = cs := by
  cases read with
  | nil => cases h
  | @marker rest => exact ⟨rest, rfl, List.append_cancel_left h⟩
  | parameter => cases (List.cons.inj h).1
  | @text rest c unmarked =>
      rw [sourceOf_text_cons] at h
      exact absurd ⟨cs, h.symm⟩ unmarked

theorem WellRead.of_parameter (read : WellRead pieces) (proper : (Piece.parameter digits).Proper)
    (maximal : leadingDigits cs = []) (h : sourceOf pieces = '$' :: (digits ++ cs)) :
    ∃ rest, pieces = .parameter digits :: rest ∧ sourceOf rest = cs := by
  have number := leadingDigits_number proper maximal
  cases read with
  | nil => cases h
  | marker => cases (List.cons.inj h).1
  | @parameter rest digits' proper' maximal' =>
      have behind : digits' ++ sourceOf rest = digits ++ cs := (List.cons.inj h).2
      have same : digits' = digits := by
        rw [← leadingDigits_number proper' maximal', behind, number]
      subst same
      exact ⟨rest, rfl, List.append_cancel_left behind⟩
  | @text rest c unmarked unnumbered =>
      rw [sourceOf_text_cons] at h
      obtain ⟨sign, behind⟩ := List.cons.inj h
      have none := unnumbered sign
      rw [behind, number] at none
      exact absurd none proper.1

theorem WellRead.unique (read : WellRead pieces) (read' : WellRead pieces')
    (same : sourceOf pieces' = sourceOf pieces) : pieces' = pieces := by
  induction read generalizing pieces' with
  | nil =>
      cases read' with
      | nil => rfl
      | marker => cases same
      | parameter => cases same
      | text => cases same
  | marker rest ih =>
      obtain ⟨rest', rfl, same'⟩ := read'.of_marker same
      rw [ih read'.tail same']
  | parameter proper maximal rest ih =>
      obtain ⟨rest', rfl, same'⟩ := read'.of_parameter proper maximal same
      rw [ih read'.tail same']
  | @text rest c unmarked unnumbered _ ih =>
      rw [sourceOf_text_cons] at same
      cases read' with
      | nil => cases same
      | marker => exact absurd ⟨_, same⟩ unmarked
      | @parameter rest' digits proper maximal =>
          obtain ⟨sign, behind⟩ := List.cons.inj same
          have none := unnumbered sign.symm
          rw [← behind] at none
          exact absurd ((leadingDigits_number proper maximal).symm.trans none) proper.1
      | text _ _ read' =>
          obtain ⟨rfl, same'⟩ := List.cons.inj same
          rw [ih read' same']

/-! ### Markers and parameters in a text -/

theorem infix_of_infix_append {start : List Char} (free : c ∉ cs) {rest : List Char}
    (h : c :: start <:+: cs ++ rest) : c :: start <:+: rest := by
  induction cs with
  | nil => exact h
  | cons d cs ih =>
      rw [List.mem_cons, not_or] at free
      rw [List.cons_append, List.infix_cons_iff] at h
      rcases h with first | later
      · exact absurd (List.cons_prefix_cons.mp first).1 free.1
      · exact ih free.2 later

theorem WellRead.marker_not_inside (read : WellRead pieces) (unmarked : .marker ∉ pieces) :
    ¬ Query.marker <:+: sourceOf pieces := by
  induction read with
  | nil => decide
  | marker => exact absurd List.mem_cons_self unmarked
  | parameter proper _ _ ih =>
      have free := List.not_mem_cons_of_ne_of_not_mem (by decide : '\x7b' ≠ '$')
        (proper.notMem not_digit_brace)
      rw [sourceOf_cons]
      exact fun h => ih (List.not_mem_of_not_mem_cons unmarked) (infix_of_infix_append free h)
  | text none _ _ ih =>
      rw [sourceOf_text_cons]
      intro h
      rcases List.infix_cons_iff.mp h with first | later
      · exact none first
      · exact ih (List.not_mem_of_not_mem_cons unmarked) later

theorem WellRead.parameter_not_inside (read : WellRead pieces)
    (unnumbered : ∀ digits, .parameter digits ∉ pieces) (digit : isDecimalDigit d = true) :
    ¬ ['$', d] <:+: sourceOf pieces := by
  induction read with
  | nil => exact fun h => nomatch List.infix_nil.mp h
  | marker _ ih =>
      rw [sourceOf_cons]
      exact fun h => ih (fun digits => List.not_mem_of_not_mem_cons (unnumbered digits))
        (infix_of_infix_append (by decide) h)
  | parameter => exact absurd List.mem_cons_self (unnumbered _)
  | @text pieces c _ none _ ih =>
      rw [sourceOf_text_cons]
      intro h
      rcases List.infix_cons_iff.mp h with first | later
      · obtain ⟨same, rest, begins⟩ := List.cons_prefix_cons.mp first
        have number := none same.symm
        rw [← begins, List.singleton_append, leadingDigits, List.takeWhile_cons_of_pos digit]
          at number
        cases number
      · exact ih (fun digits => List.not_mem_of_not_mem_cons (unnumbered digits)) later

/-! ### The numbers of parameters -/

variable {isSign : Char → Bool}

theorem numbersBehind_cons (none : isSign c = true → leadingDigits cs = []) :
    numbersBehind isSign (c :: cs) = numbersBehind isSign cs := by
  rw [numbersBehind]
  refine if_neg fun h => ?_
  rw [Bool.and_eq_true] at h
  rw [none h.1] at h
  cases h.2

theorem numbersBehind_append (free : cs.any isSign = false) (rest : List Char) :
    numbersBehind isSign (cs ++ rest) = numbersBehind isSign rest := by
  induction cs with
  | nil => rfl
  | cons c cs ih =>
      rw [List.any_cons, Bool.or_eq_false_iff] at free
      rw [List.cons_append, numbersBehind_cons fun sign => ?_, ih free.2]
      rw [free.1] at sign
      cases sign

theorem numbersBehind_parameter (sign : isSign c = true)
    (proper : (Piece.parameter digits).Proper) (free : digits.any isSign = false)
    (maximal : leadingDigits cs = []) :
    numbersBehind isSign (c :: (digits ++ cs)) = digits :: numbersBehind isSign cs := by
  have some : digits.isEmpty = false := List.isEmpty_eq_false_iff.mpr proper.1
  rw [numbersBehind, leadingDigits_number proper maximal, sign, some, numbersBehind_append free]
  rfl

theorem Piece.Proper.not_sign (proper : (Piece.parameter digits).Proper)
    (signs : ∀ c, isSign c = true → isDecimalDigit c = false) : digits.any isSign = false :=
  List.any_eq_false.mpr fun d mem sign => proper.notMem (signs d sign) mem

def isDollar (c : Char) : Bool := c == '$'

def isQuestion (c : Char) : Bool := c == '?'

theorem not_digit_of_isDollar (c : Char) (h : isDollar c = true) : isDecimalDigit c = false := by
  rw [eq_of_beq h]
  exact not_digit_dollar

theorem not_digit_of_isQuestion (c : Char) (h : isQuestion c = true) :
    isDecimalDigit c = false := by
  rw [eq_of_beq h]
  exact not_digit_question

theorem not_digit_of_either (c : Char) (h : (isDollar c || isQuestion c) = true) :
    isDecimalDigit c = false :=
  (Bool.or_eq_true_iff.mp h).elim (not_digit_of_isDollar c) (not_digit_of_isQuestion c)

/-- The numbers behind dollars are the numbers of the parameters. -/
theorem WellRead.numbersBehind_dollar (read : WellRead pieces) :
    numbersBehind isDollar (sourceOf pieces) = pieces.filterMap Piece.number? := by
  induction read with
  | nil => rfl
  | marker _ ih =>
      rw [sourceOf_cons]
      exact (numbersBehind_append (by decide) _).trans ih
  | parameter proper maximal _ ih =>
      rw [sourceOf_cons]
      exact (numbersBehind_parameter rfl proper (proper.not_sign not_digit_of_isDollar)
        maximal).trans (congrArg _ ih)
  | text _ unnumbered _ ih =>
      rw [sourceOf_text_cons]
      have none (sign : isDollar _ = true) := unnumbered (eq_of_beq sign)
      exact (numbersBehind_cons none).trans ih

/-- Where nothing has the form that parameters get, only they have numbers. -/
theorem numbersBehind_either (none : numbersBehind isQuestion cs = []) :
    numbersBehind (fun c => isDollar c || isQuestion c) cs = numbersBehind isDollar cs := by
  induction cs with
  | nil => rfl
  | cons c cs ih =>
      rw [numbersBehind] at none ⊢
      rw [numbersBehind]
      by_cases question : (isQuestion c && !(leadingDigits cs).isEmpty) = true
      · rw [if_pos question] at none
        cases none
      · rw [if_neg question] at none
        rw [ih none, Bool.and_or_distrib_right, Bool.eq_false_iff.mpr question, Bool.or_false]

end Dues.Query
