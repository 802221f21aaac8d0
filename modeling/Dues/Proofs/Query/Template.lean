import Dues.Proofs.Query.Pieces
import Dues.Proofs.Text.Split

/-! # Rendered queries

Rendering writes each piece of a template as the database has it. What is written for a piece begins
with a character that no marker and no number goes on with, so it never forms a marker or a
parameter together with the text around it. That is why the two replacements can be made in either
order, and why there is nothing left to replace.
-/

namespace Dues.Query

open Dues.Text (isDecimalDigit dropStart?_eq_some)

variable {pieces : List Piece} {p : Piece} {backend : Backend} {c d : Char}
  {cs digits word : List Char}

/-- A piece as a database has it. -/
def Piece.rendered (backend : Backend) : Piece → List Char
  | marker => backend.coalesce.toList
  | parameter digits => backend.parameter digits
  | text c => [c]

/-! ### One replacement -/

theorem splitDigits_eq (cs : List Char) :
    splitDigits cs = (leadingDigits cs, cs.dropWhile isDecimalDigit) := by
  unfold leadingDigits
  induction cs with
  | nil => rfl
  | cons c cs ih =>
      unfold splitDigits
      split
      next digit => rw [ih, List.takeWhile_cons_of_pos digit, List.dropWhile_cons_of_pos digit]
      next other => rw [List.takeWhile_cons_of_neg other, List.dropWhile_cons_of_neg other]

theorem splitDigits_append (proper : (Piece.parameter digits).Proper)
    (maximal : leadingDigits cs = []) : splitDigits (digits ++ cs) = (digits, cs) := by
  have none : cs.dropWhile isDecimalDigit = cs := by
    have whole := List.takeWhile_append_dropWhile (p := isDecimalDigit) (l := cs)
    rwa [show cs.takeWhile isDecimalDigit = [] from maximal, List.nil_append] at whole
  rw [splitDigits_eq, leadingDigits_append proper.2, maximal, List.append_nil,
    List.dropWhile_append_of_pos proper.2, none]

theorem replaceMarkers_marker (word cs : List Char) :
    replaceMarkers word (marker ++ cs) = word ++ replaceMarkers word cs := by
  have found : afterMarker? (marker ++ cs) = some cs := dropStart?_eq_some.mpr rfl
  change replaceMarkers word ('\x7b' :: _) = _
  rw [replaceMarkers]
  split
  next rest found' => cases found.symm.trans found'; rfl
  next none => cases found.symm.trans none

theorem replaceMarkers_cons (unmarked : ¬ marker <+: c :: cs) :
    replaceMarkers word (c :: cs) = c :: replaceMarkers word cs := by
  rw [replaceMarkers]
  split
  next rest found => exact absurd ⟨rest, (dropStart?_eq_some.mp found).symm⟩ unmarked
  next => rfl

theorem replaceMarkers_append (free : '\x7b' ∉ digits) :
    replaceMarkers word (digits ++ cs) = digits ++ replaceMarkers word cs := by
  induction digits with
  | nil => rfl
  | cons c digits ih =>
      rw [List.mem_cons, not_or] at free
      rw [List.cons_append, replaceMarkers_cons (not_marker_start (Ne.symm free.1)), ih free.2,
        List.cons_append]

theorem rewriteParameters_parameter (proper : (Piece.parameter digits).Proper)
    (maximal : leadingDigits cs = []) : rewriteParameters backend ('$' :: digits ++ cs) =
      backend.parameter digits ++ rewriteParameters backend cs := by
  rw [List.cons_append, rewriteParameters, splitDigits_append proper maximal]
  exact if_pos ⟨rfl, proper.1⟩

theorem rewriteParameters_cons (unnumbered : c = '$' → leadingDigits cs = []) :
    rewriteParameters backend (c :: cs) = c :: rewriteParameters backend cs := by
  rw [rewriteParameters, splitDigits_eq]
  exact if_neg fun numbered => numbered.2 (unnumbered numbered.1)

theorem rewriteParameters_append (free : '$' ∉ digits) :
    rewriteParameters backend (digits ++ cs) = digits ++ rewriteParameters backend cs := by
  induction digits with
  | nil => rfl
  | cons c digits ih =>
      rw [List.mem_cons, not_or] at free
      rw [List.cons_append, rewriteParameters_cons fun same => absurd same.symm free.1, ih free.2,
        List.cons_append]

/-! ### What is written for a piece -/

/-- What is written for a piece begins with one of these. -/
def isNewcomer (c : Char) : Bool := c == '?' || c == 'C' || c == 'I'

/-- A piece is kept, or written as a text that cannot be part of a marker or of a parameter. -/
inductive Resolves (p : Piece) : List Piece → Prop
  | kept : Resolves p [p]
  | written (special : p.isText = false) (c : Char) (cs : List Char) (first : isNewcomer c = true)
      (unmarked : '\x7b' ∉ c :: cs) (unnumbered : '$' ∉ c :: cs) :
      Resolves p ((c :: cs).map .text)

/-- Writes some pieces in another way. -/
def Pass (f : Piece → List Piece) : Prop := ∀ p, p.Proper → Resolves p (f p)

/-- Markers written as `word`. -/
def withWord (word : List Char) : Piece → List Piece
  | .marker => word.map .text
  | p => [p]

/-- Parameters written as a database has them. -/
def withParameters (backend : Backend) : Piece → List Piece
  | .parameter digits =>
      if backend = .postgres then [.parameter digits] else (backend.parameter digits).map .text
  | p => [p]

theorem withWord_pass (backend : Backend) : Pass (withWord backend.coalesce.toList) := by
  intro p _
  cases p with
  | marker => cases backend <;> exact .written rfl _ _ (by decide) (by decide) (by decide)
  | parameter digits => exact .kept
  | text c => exact .kept

theorem withParameters_pass (backend : Backend) : Pass (withParameters backend) := by
  intro p proper
  cases p with
  | marker => exact .kept
  | parameter digits =>
      cases backend with
      | postgres => exact .kept
      | sqlite =>
          refine .written rfl '?' digits (by decide) ?_ ?_
          · exact List.not_mem_cons_of_ne_of_not_mem (by decide) (proper.notMem not_digit_brace)
          · exact List.not_mem_cons_of_ne_of_not_mem (by decide) (proper.notMem not_digit_dollar)
      | mysql => exact .written rfl '?' [] (by decide) (by decide) (by decide)
  | text c => exact .kept

/-! ### Nothing new arises -/

variable {f : Piece → List Piece}

/-- What a text goes on with, where none of it has been written anew, it went on with before. -/
theorem Pass.prefix_source (pass : Pass f) (read : WellRead pieces) {start : List Char}
    (quiet : start.any isNewcomer = false) (h : start <+: sourceOf (pieces.flatMap f)) :
    start <+: sourceOf pieces := by
  induction pieces generalizing start with
  | nil => exact h
  | cons p pieces ih =>
      rw [List.flatMap_cons, sourceOf_append] at h
      rw [sourceOf_cons]
      have resolved := pass p read.proper
      generalize f p = qs at h resolved
      cases resolved with
      | kept =>
          rw [sourceOf_cons, sourceOf, List.flatMap_nil, List.append_nil] at h
          rcases List.prefix_or_prefix_of_prefix h (List.prefix_append _ _) with short | ⟨t, rfl⟩
          · exact List.prefix_append_of_prefix short
          · rw [List.any_append, Bool.or_eq_false_iff] at quiet
            refine (List.prefix_append_right_inj _).mpr (ih read.tail quiet.2 ?_)
            exact (List.prefix_append_right_inj _).mp h
      | written _ c cs first =>
          rw [sourceOf_texts, List.cons_append, List.prefix_cons_iff] at h
          rcases h with rfl | ⟨t, rfl, _⟩
          · exact List.nil_prefix
          · exact absurd first (List.any_eq_false.mp quiet c List.mem_cons_self)

theorem Pass.leadingDigits (pass : Pass f) (read : WellRead pieces) :
    leadingDigits (sourceOf (pieces.flatMap f)) = leadingDigits (sourceOf pieces) := by
  induction pieces with
  | nil => rfl
  | cons p pieces ih =>
      have resolved := pass p read.proper
      rw [List.flatMap_cons, sourceOf_append, sourceOf_cons]
      generalize f p = qs at resolved
      cases resolved with
      | kept =>
          rw [sourceOf_cons, sourceOf, List.flatMap_nil, List.append_nil]
          have rest := ih read.tail
          unfold Query.leadingDigits at rest ⊢
          rw [List.takeWhile_append, List.takeWhile_append, rest]
      | written special c cs first =>
          have other : isDecimalDigit c = false := by
            simp only [isNewcomer, Bool.or_eq_true, beq_iff_eq] at first
            rcases first with (rfl | rfl) | rfl <;> decide
          rw [sourceOf_texts, List.cons_append, leadingDigits_cons other]
          cases p with
          | marker => exact (leadingDigits_cons not_digit_brace).symm
          | parameter => exact (leadingDigits_cons not_digit_dollar).symm
          | text c => cases special

/-- A text that cannot be part of anything can stand before everything. -/
theorem WellRead.texts_append (read : WellRead pieces) (unmarked : '\x7b' ∉ cs)
    (unnumbered : '$' ∉ cs) : WellRead (cs.map .text ++ pieces) := by
  induction cs with
  | nil => exact read
  | cons c cs ih =>
      rw [List.mem_cons, not_or] at unmarked unnumbered
      exact .text (not_marker_start (Ne.symm unmarked.1))
        (fun same => absurd same.symm unnumbered.1) (ih unmarked.2 unnumbered.2)

/-- What has been written in another way is read as what has been written. -/
theorem WellRead.flatMap (read : WellRead pieces) (pass : Pass f) : WellRead (pieces.flatMap f) := by
  induction read with
  | nil => exact .nil
  | @marker pieces rest ih =>
      have resolved := pass .marker trivial
      rw [List.flatMap_cons]
      generalize f .marker = qs at resolved
      cases resolved with
      | kept => exact .marker ih
      | written _ _ _ _ unmarked unnumbered => exact ih.texts_append unmarked unnumbered
  | @parameter pieces digits proper maximal rest ih =>
      have resolved := pass _ proper
      rw [List.flatMap_cons]
      generalize f (.parameter digits) = qs at resolved
      cases resolved with
      | kept => exact .parameter proper ((pass.leadingDigits rest).trans maximal) ih
      | written _ _ _ _ unmarked unnumbered => exact ih.texts_append unmarked unnumbered
  | @text pieces c unmarked unnumbered rest ih =>
      have resolved := pass (.text c) trivial
      rw [List.flatMap_cons]
      generalize f (.text c) = qs at resolved
      cases resolved with
      | kept =>
          refine .text (fun h => unmarked ?_) (fun same => ?_) ih
          · rw [Query.marker, List.cons_prefix_cons] at h ⊢
            exact ⟨h.1, pass.prefix_source rest (by decide) h.2⟩
          · exact (pass.leadingDigits rest).trans (unnumbered same)
      | written special => cases special

/-! ### A pass over a text is a pass over its pieces -/

theorem replaceMarkers_sourceOf (read : WellRead pieces) (word : List Char) :
    replaceMarkers word (sourceOf pieces) = sourceOf (pieces.flatMap (withWord word)) := by
  induction read with
  | nil => rw [sourceOf, List.flatMap_nil, replaceMarkers]; rfl
  | marker rest ih =>
      rw [List.flatMap_cons, sourceOf_append, sourceOf_cons, ← ih]
      exact (replaceMarkers_marker word _).trans
        (congrArg (· ++ _) (sourceOf_texts word).symm)
  | @parameter pieces digits proper _ rest ih =>
      have free : '\x7b' ∉ '$' :: digits :=
        List.not_mem_cons_of_ne_of_not_mem (by decide) (proper.notMem not_digit_brace)
      rw [List.flatMap_cons, sourceOf_append, sourceOf_cons, ← ih]
      exact (replaceMarkers_append free).trans (congrArg (· ++ _) (List.append_nil _).symm)
  | text unmarked _ rest ih =>
      rw [List.flatMap_cons, sourceOf_append, sourceOf_cons, ← ih]
      exact replaceMarkers_cons unmarked

theorem sourceOf_withParameters (backend : Backend) (digits : List Char) :
    sourceOf (withParameters backend (.parameter digits)) = backend.parameter digits := by
  cases backend with
  | postgres => exact List.append_nil _
  | sqlite => exact sourceOf_texts ('?' :: digits)
  | mysql => exact sourceOf_texts ['?']

theorem rewriteParameters_sourceOf (read : WellRead pieces) (backend : Backend) :
    rewriteParameters backend (sourceOf pieces) =
      sourceOf (pieces.flatMap (withParameters backend)) := by
  induction read with
  | nil => rw [sourceOf, List.flatMap_nil, rewriteParameters]; rfl
  | marker rest ih =>
      rw [List.flatMap_cons, sourceOf_append, sourceOf_cons, ← ih]
      exact (rewriteParameters_append (by decide : '$' ∉ marker)).trans
        (congrArg (· ++ _) (List.append_nil _).symm)
  | @parameter pieces digits proper maximal rest ih =>
      rw [List.flatMap_cons, sourceOf_append, sourceOf_cons, ← ih]
      exact (rewriteParameters_parameter proper maximal).trans
        (congrArg (· ++ _) (sourceOf_withParameters backend digits).symm)
  | text _ unnumbered rest ih =>
      rw [List.flatMap_cons, sourceOf_append, sourceOf_cons, ← ih]
      exact rewriteParameters_cons unnumbered

/-! ### Two passes -/

theorem texts_flatMap (fixed : ∀ c, f (.text c) = [.text c]) (cs : List Char) :
    (cs.map .text).flatMap f = cs.map .text := by
  induction cs with
  | nil => rfl
  | cons c cs ih => rw [List.map_cons, List.flatMap_cons, fixed, ih]; rfl

/-- What becomes of a piece, whichever of the two replacements comes first. -/
def resolved (backend : Backend) : Piece → List Piece
  | .marker => backend.coalesce.toList.map .text
  | .parameter digits => withParameters backend (.parameter digits)
  | .text c => [.text c]

theorem word_then_parameters (backend : Backend) (p : Piece) :
    (withWord backend.coalesce.toList p).flatMap (withParameters backend) = resolved backend p := by
  cases p with
  | marker => exact texts_flatMap (fun _ => rfl) _
  | parameter digits => exact List.append_nil _
  | text c => rfl

theorem parameters_then_word (backend : Backend) (p : Piece) :
    (withParameters backend p).flatMap (withWord backend.coalesce.toList) = resolved backend p := by
  cases p with
  | marker => exact List.append_nil _
  | parameter digits =>
      cases backend with
      | postgres => rfl
      | sqlite => exact texts_flatMap (fun _ => rfl) ('?' :: digits)
      | mysql => exact texts_flatMap (fun _ => rfl) ['?']
  | text c => rfl

theorem sourceOf_resolved (backend : Backend) (p : Piece) :
    sourceOf (resolved backend p) = p.rendered backend := by
  cases p with
  | marker => exact sourceOf_texts _
  | parameter digits => exact sourceOf_withParameters backend digits
  | text c => rfl

theorem sourceOf_flatMap_resolved (backend : Backend) (pieces : List Piece) :
    sourceOf (pieces.flatMap (resolved backend)) = pieces.flatMap (Piece.rendered backend) := by
  rw [sourceOf, List.flatMap_assoc]
  exact congrArg pieces.flatMap (funext (sourceOf_resolved backend))

theorem flatMap_word_then_parameters (backend : Backend) (pieces : List Piece) :
    (pieces.flatMap (withWord backend.coalesce.toList)).flatMap (withParameters backend) =
      pieces.flatMap (resolved backend) := by
  rw [List.flatMap_assoc]
  exact congrArg pieces.flatMap (funext (word_then_parameters backend))

theorem flatMap_parameters_then_word (backend : Backend) (pieces : List Piece) :
    (pieces.flatMap (withParameters backend)).flatMap (withWord backend.coalesce.toList) =
      pieces.flatMap (resolved backend) := by
  rw [List.flatMap_assoc]
  exact congrArg pieces.flatMap (funext (parameters_then_word backend))

theorem resolved_pass (backend : Backend) : Pass (resolved backend) := by
  intro p proper
  cases p with
  | marker => exact withWord_pass backend .marker proper
  | parameter digits => exact withParameters_pass backend (.parameter digits) proper
  | text c => exact .kept

theorem WellRead.resolved (read : WellRead pieces) (backend : Backend) :
    WellRead (pieces.flatMap (resolved backend)) := read.flatMap (resolved_pass backend)

theorem renderChars_sourceOf (read : WellRead pieces) (backend : Backend) :
    renderChars backend (sourceOf pieces) = sourceOf (pieces.flatMap (resolved backend)) := by
  rw [renderChars, replaceMarkers_sourceOf read,
    rewriteParameters_sourceOf (read.flatMap (withWord_pass backend)), flatMap_word_then_parameters]

theorem replaceMarkers_rewriteParameters (read : WellRead pieces) (backend : Backend) :
    replaceMarkers backend.coalesce.toList (rewriteParameters backend (sourceOf pieces)) =
      sourceOf (pieces.flatMap (resolved backend)) := by
  rw [rewriteParameters_sourceOf read,
    replaceMarkers_sourceOf (read.flatMap (withParameters_pass backend)),
    flatMap_parameters_then_word]

/-! ### Nothing is left -/

theorem special_notMem_texts (special : p.isText = false) (cs : List Char) :
    p ∉ cs.map .text := by
  intro mem
  obtain ⟨c, _, rfl⟩ := List.mem_map.mp mem
  cases special

theorem marker_notMem_resolved (backend : Backend) (pieces : List Piece) :
    .marker ∉ pieces.flatMap (resolved backend) := by
  intro mem
  obtain ⟨p, _, inside⟩ := List.mem_flatMap.mp mem
  have texts := special_notMem_texts (rfl : Piece.marker.isText = false)
  cases p with
  | marker => exact texts _ inside
  | parameter digits =>
      cases backend with
      | postgres => cases List.mem_singleton.mp inside
      | sqlite => exact texts ('?' :: digits) inside
      | mysql => exact texts ['?'] inside
  | text c => cases List.mem_singleton.mp inside

theorem parameter_notMem_resolved (other : backend ≠ .postgres) (pieces : List Piece)
    (digits : List Char) : .parameter digits ∉ pieces.flatMap (resolved backend) := by
  intro mem
  obtain ⟨p, _, inside⟩ := List.mem_flatMap.mp mem
  have texts := special_notMem_texts (rfl : (Piece.parameter digits).isText = false)
  cases p with
  | marker => exact texts _ inside
  | parameter digits' =>
      cases backend with
      | postgres => exact other rfl
      | sqlite => exact texts ('?' :: digits') inside
      | mysql => exact texts ['?'] inside
  | text c => cases List.mem_singleton.mp inside

/-- There is nothing to do about texts, and about the parameters of a database that has them as
they are. -/
theorem flatMap_resolved_eq_self (unmarked : .marker ∉ pieces)
    (unnumbered : backend = .postgres ∨ ∀ digits, .parameter digits ∉ pieces) :
    pieces.flatMap (resolved backend) = pieces := by
  induction pieces with
  | nil => rfl
  | cons p pieces ih =>
      rw [List.mem_cons, not_or] at unmarked
      rw [List.flatMap_cons, ih unmarked.2 (unnumbered.imp_right fun none digits mem =>
        none digits (List.mem_cons_of_mem _ mem))]
      cases p with
      | marker => exact absurd rfl unmarked.1
      | parameter digits =>
          rcases unnumbered with rfl | none
          · rfl
          · exact absurd List.mem_cons_self (none digits)
      | text c => rfl

/-- A parameter keeps its number, and the place among the others that it has. -/
theorem WellRead.numbersBehind_resolved (read : WellRead pieces) :
    numbersBehind isQuestion (sourceOf (pieces.flatMap (Query.resolved .sqlite))) =
      numbersBehind (fun c => isDollar c || isQuestion c) (sourceOf pieces) := by
  induction read with
  | nil => rfl
  | marker _ ih =>
      rw [List.flatMap_cons, sourceOf_append, sourceOf_resolved, sourceOf_cons]
      exact (numbersBehind_append (by decide) _).trans
        (ih.trans (numbersBehind_append (by decide) _).symm)
  | parameter proper maximal rest ih =>
      have maximal' := ((resolved_pass .sqlite).leadingDigits rest).trans maximal
      rw [List.flatMap_cons, sourceOf_append, sourceOf_resolved, sourceOf_cons]
      exact (numbersBehind_parameter rfl proper (proper.not_sign not_digit_of_isQuestion)
        maximal').trans ((congrArg _ ih).trans (numbersBehind_parameter rfl proper
          (proper.not_sign not_digit_of_either) maximal).symm)
  | @text pieces c _ unnumbered rest ih =>
      have number := (resolved_pass .sqlite).leadingDigits rest
      rw [List.flatMap_cons, Query.resolved, List.singleton_append, sourceOf_text_cons,
        sourceOf_text_cons]
      by_cases question : isQuestion c = true
      · rw [numbersBehind, numbersBehind, number, ih, question, Bool.or_true]
      · rw [numbersBehind_cons fun sign => absurd sign question, ih,
          numbersBehind_cons fun either => ?_]
        exact unnumbered (eq_of_beq ((Bool.or_eq_true_iff.mp either).resolve_right question))

/-- Every template falls into pieces in exactly one way, and is rendered piece by piece: each marker
becomes the function, each parameter becomes what the database has for its digits, and the rest
stays. The numbers of the parameters stay in their order. Afterwards no marker is left, and no
parameter where the database has them otherwise. The order of the two replacements does not
matter, and rendering again changes nothing. -/
theorem render_resolves_template (template : String) :
    (∃ pieces, WellRead pieces ∧ sourceOf pieces = template.toList ∧
      (∀ pieces', WellRead pieces' → sourceOf pieces' = template.toList → pieces' = pieces) ∧
      (∀ backend, (render backend template).toList = pieces.flatMap (Piece.rendered backend)) ∧
      numbersBehind isDollar template.toList = pieces.filterMap Piece.number?) ∧
    numbersBehind isQuestion (render .sqlite template).toList =
      numbersBehind (fun c => isDollar c || isQuestion c) template.toList ∧
    (numbersBehind isQuestion template.toList = [] →
      numbersBehind isQuestion (render .sqlite template).toList =
        numbersBehind isDollar template.toList) ∧
    (∀ backend, ¬ marker <:+: (render backend template).toList) ∧
    (∀ backend, backend ≠ .postgres → ∀ d, isDecimalDigit d = true →
      ¬ ['$', d] <:+: (render backend template).toList) ∧
    (∀ backend, (render backend template).toList =
      replaceMarkers backend.coalesce.toList (rewriteParameters backend template.toList)) ∧
    (∀ backend, render backend (render backend template) = render backend template) := by
  obtain ⟨pieces, read, whole⟩ := exists_wellRead template.toList
  have source (backend : Backend) :
      (render backend template).toList = sourceOf (pieces.flatMap (resolved backend)) := by
    rw [render, String.toList_ofList, ← whole, renderChars_sourceOf read]
  have unmarked (backend : Backend) := marker_notMem_resolved backend pieces
  have numbers : numbersBehind isQuestion (render .sqlite template).toList =
      numbersBehind (fun c => isDollar c || isQuestion c) template.toList := by
    rw [source, read.numbersBehind_resolved, whole]
  refine ⟨⟨pieces, read, whole, ?_, ?_, ?_⟩, numbers, ?_, ?_, ?_, ?_, ?_⟩
  · exact fun pieces' read' whole' => read.unique read' (whole'.trans whole.symm)
  · exact fun backend => (source backend).trans (sourceOf_flatMap_resolved backend pieces)
  · rw [← whole, read.numbersBehind_dollar]
  · exact fun none => numbers.trans (numbersBehind_either none)
  · intro backend
    rw [source]
    exact (read.resolved backend).marker_not_inside (unmarked backend)
  · intro backend other d digit
    rw [source]
    exact (read.resolved backend).parameter_not_inside (parameter_notMem_resolved other pieces) digit
  · intro backend
    rw [source, ← whole, replaceMarkers_rewriteParameters read]
  · intro backend
    have settled : backend = .postgres ∨
        ∀ digits, .parameter digits ∉ pieces.flatMap (resolved backend) :=
      (Decidable.em (backend = .postgres)).imp_right fun other =>
        parameter_notMem_resolved other pieces
    refine String.toList_injective ?_
    rw [render, String.toList_ofList, source, renderChars_sourceOf (read.resolved backend),
      flatMap_resolved_eq_self (unmarked backend) settled]

example : render .sqlite "\x7bcoalesce\x7d(a, $12), $$1" = "IFNULL(a, ?12), $?1" := by
  decide +kernel

end Dues.Query
