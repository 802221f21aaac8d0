import Mathlib.Data.List.Infix
import Dues.Proofs.Text.Split
import Dues.Text.Markup

/-! # Texts in markup

A text that is written with entities has none of the characters that tags and attributes are made
of, and reading the entities gives it back. So what markup a page has depends on the markup that was
put into it, and never on a text.
-/

namespace Dues.Text.Markup

variable {c d : Char} {cs ds m rest : List Char}

/-- The characters that tags and the values of attributes begin and end with. -/
def isMark (c : Char) : Bool := c = '<' || c = '>' || c = '"' || c = '\''

/-- Reads entities. What is none of the five stands for itself. -/
def unescapeChars : List Char → List Char
  | [] => []
  | '&' :: 'a' :: 'm' :: 'p' :: ';' :: cs => '&' :: unescapeChars cs
  | '&' :: 'l' :: 't' :: ';' :: cs => '<' :: unescapeChars cs
  | '&' :: 'g' :: 't' :: ';' :: cs => '>' :: unescapeChars cs
  | '&' :: 'q' :: 'u' :: 'o' :: 't' :: ';' :: cs => '"' :: unescapeChars cs
  | '&' :: '#' :: '3' :: '9' :: ';' :: cs => '\'' :: unescapeChars cs
  | c :: cs => c :: unescapeChars cs

def unescape (s : String) : String := String.ofList (unescapeChars s.toList)

theorem entity_of_isDigit (digit : c.isDigit = true) : entity c = [c] := by
  unfold entity
  split <;> first | rfl | cases digit

theorem escapeChars_eq (plain : ∀ c ∈ cs, entity c = [c]) : escapeChars cs = cs := by
  induction cs with
  | nil => rfl
  | cons c cs ih =>
      have rest := ih fun c mem => plain c (List.mem_cons_of_mem _ mem)
      unfold escapeChars at rest ⊢
      rw [List.flatMap_cons, plain c List.mem_cons_self, rest]
      rfl

theorem isMark_of_mem_entity (mem : d ∈ entity c) : isMark d = false := by
  have none : (entity c).all (fun d => !isMark d) = true := by
    unfold entity
    split
    next => rfl
    next => rfl
    next => rfl
    next => rfl
    next => rfl
    next => simp_all [isMark]
  simpa using List.all_eq_true.mp none d mem

theorem isMark_of_mem_escapeChars (mem : d ∈ escapeChars cs) : isMark d = false := by
  obtain ⟨c, _, inEntity⟩ := List.mem_flatMap.mp mem
  exact isMark_of_mem_entity inEntity

theorem notMem_escapeChars (mark : isMark d = true) (cs : List Char) : d ∉ escapeChars cs := by
  intro mem
  have none := isMark_of_mem_escapeChars mem
  rw [mark] at none
  cases none

theorem lt_notMem_escapeChars (cs : List Char) : '<' ∉ escapeChars cs :=
  notMem_escapeChars rfl cs

/-- An ampersand that is written is the beginning of its own entity, never that of another. -/
theorem unescapeChars_entity (c : Char) (cs : List Char) :
    unescapeChars (entity c ++ cs) = c :: unescapeChars cs := by
  unfold entity
  split
  next => rfl
  next => rfl
  next => rfl
  next => rfl
  next => rfl
  next ampersand _ _ _ _ =>
    rw [List.singleton_append, unescapeChars]
    all_goals
      rintro _ rfl
      exact fun _ => ampersand rfl

theorem unescapeChars_escapeChars (cs : List Char) : unescapeChars (escapeChars cs) = cs := by
  induction cs with
  | nil => rfl
  | cons c cs ih => rw [escapeChars, List.flatMap_cons, unescapeChars_entity, ← escapeChars, ih]

theorem unescape_escape (s : String) : unescape (escape s) = s := by
  rw [unescape, escape, String.toList_ofList, unescapeChars_escapeChars, String.ofList_toList]

theorem escapeChars_injective : Function.Injective escapeChars :=
  Function.LeftInverse.injective unescapeChars_escapeChars

/-- What is behind each `<` of a stretch of a page. -/
def behindTags : List Char → List (List Char)
  | [] => []
  | c :: cs => if c = '<' then cs :: behindTags cs else behindTags cs

theorem behindTags_eq_nil (plain : '<' ∉ m) : behindTags m = [] := by
  induction m with
  | nil => rfl
  | cons c m ih =>
      rw [List.mem_cons, not_or] at plain
      rw [behindTags, if_neg (Ne.symm plain.1), ih plain.2]

theorem behindTags_append :
    behindTags (m ++ cs) = (behindTags m).map (· ++ cs) ++ behindTags cs := by
  induction m with
  | nil => rfl
  | cons c m ih =>
      rw [List.cons_append, behindTags, behindTags, ih]
      split
      next => rw [List.map_cons, List.cons_append]
      next => rfl

theorem mem_behindTags : rest ∈ behindTags cs ↔ '<' :: rest <:+ cs := by
  induction cs with
  | nil => simp [behindTags]
  | cons c cs ih =>
      rw [behindTags, List.suffix_cons_iff, List.cons.injEq, ← ih]
      split
      next tag => rw [List.mem_cons, tag, eq_self, true_and]
      next text => simp only [Ne.symm text, false_and, false_or]

theorem eq_of_append_lt (plain : '<' ∉ cs) (plain' : '<' ∉ ds)
    (same : cs ++ '<' :: m = ds ++ '<' :: rest) : cs = ds := by
  have split := congrArg (splitAtFirst '<') same
  rw [splitAtFirst_append plain, splitAtFirst_append plain'] at split
  exact (Prod.mk.inj split).1

end Dues.Text.Markup
