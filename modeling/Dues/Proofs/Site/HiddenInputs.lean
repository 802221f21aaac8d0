import Mathlib.Data.List.TakeWhile
import Dues.Proofs.Site.Reading

/-! # Hidden inputs

What a page sends on with its form are the names and values of its hidden inputs. Here they are read
from the page as it is served: tag by tag, attribute by attribute, and with the entities of names
and values decoded. The page on which an order is confirmed has the form that it was made from, and
nothing else.
-/

namespace Dues.Site

open Money (Decimal)
open Text (splitAtFirst splitAtEach splitAtFirst_append splitAtEach_joinWith)
open Text.Markup

/-- The attributes of a tag that is cut at the quotes around their values. -/
def attributes : List (List Char) → List (String × String)
  | name :: value :: rest =>
      (String.ofList (name.filter fun c => c ≠ ' ' && c ≠ '='),
        String.ofList (unescapeChars value)) :: attributes rest
  | _ => []

/-- The name of an element: what is behind the `<` of its tag, up to a blank or the end. -/
def elementName (behind : List Char) : List Char := behind.takeWhile fun c => c ≠ ' ' && c ≠ '>'

/-- The name and the value of a hidden input, from what is behind the `<` of its tag. -/
def hiddenInput? (behind : List Char) : Option (String × String) :=
  if elementName behind = "input".toList then
    let written := (splitAtFirst '>' behind).1.drop (elementName behind).length
    let found := attributes (splitAtEach '"' written)
    if found.lookup "type" = some "hidden" then
      (found.lookup "name").map fun name => (name, (found.lookup "value").getD "")
    else none
  else none

/-- The names and values that a page sends on, in their order. -/
def hiddenInputs (page : List Char) : List (String × String) :=
  (behindTags page).filterMap hiddenInput?

/-! ### What stretches of a page send on -/

variable {behind rest : List Char} {m : String}

theorem hiddenInput?_of_elementName (other : elementName behind ≠ "input".toList) :
    hiddenInput? behind = none := if_neg other

theorem elementName_append (ended : elementName behind ≠ behind) :
    elementName (behind ++ rest) = elementName behind := by
  unfold elementName at ended ⊢
  rw [List.takeWhile_append, if_neg]
  intro whole
  exact ended ((List.takeWhile_prefix _).eq_of_length whole)

/-- Markup in which no tag is a hidden input, nor left open within the name of its element. -/
def Inert (m : String) : Prop :=
  ∀ behind ∈ behindTags m.toList,
    elementName behind ≠ behind ∧ elementName behind ≠ "input".toList

instance (m : String) : Decidable (Inert m) :=
  inferInstanceAs (Decidable (∀ behind ∈ behindTags m.toList, _ ∧ _))

theorem Inert.silent (inert : Inert m) : Silent hiddenInput? m := by
  intro behind mem rest
  obtain ⟨ended, other⟩ := inert behind mem
  refine hiddenInput?_of_elementName ?_
  rwa [elementName_append ended]

/-- The attributes of a hidden input as they are written, cut at the quotes around their values. -/
def hiddenPieces (name value : List Char) : List (List Char) :=
  [" type=".toList, "hidden".toList, " name=".toList, name, " value=".toList, value, []]

/-- What is written with entities does not end the value that it stands in. -/
theorem quote_notMem_hiddenPieces (name value : List Char) :
    ∀ piece ∈ hiddenPieces (escapeChars name) (escapeChars value), '"' ∉ piece := by
  have quote : ∀ cs, '"' ∉ escapeChars cs := notMem_escapeChars rfl
  simp [hiddenPieces, quote]

theorem hiddenInput?_hiddenPieces (name value rest : List Char) :
    hiddenInput? ("input".toList ++
      Text.joinWith ['"'] (hiddenPieces (escapeChars name) (escapeChars value)) ++ '>' :: rest) =
        some (String.ofList name, String.ofList value) := by
  have close : ∀ cs, '>' ∉ escapeChars cs := notMem_escapeChars rfl
  -- What the attributes are does not matter until the tag has been cut out of the page.
  generalize written :
    Text.joinWith ['"'] (hiddenPieces (escapeChars name) (escapeChars value)) = attrs
  have tag : '>' ∉ "input".toList ++ attrs := by
    subst written
    simp [hiddenPieces, Text.joinWith, List.intersperse, close]
  have element : elementName ("input".toList ++ attrs ++ '>' :: rest) = "input".toList := by
    subst written
    rfl
  have behindName : ("input".toList ++ attrs).drop "input".toList.length = attrs := rfl
  have pieces : splitAtEach '"' attrs = hiddenPieces (escapeChars name) (escapeChars value) := by
    rw [← written]
    exact splitAtEach_joinWith (by simp [hiddenPieces]) (quote_notMem_hiddenPieces _ _)
  rw [hiddenInput?, element, if_pos rfl, splitAtFirst_append tag]
  dsimp only
  rw [behindName, pieces, hiddenPieces]
  simp only [attributes, unescapeChars_escapeChars]
  rfl

theorem fieldName_plain :
    ∀ name ∈ MembershipForm.fieldNames, escapeChars name.toList = name.toList := by decide

/-! ### Content and what it sends on -/

namespace Content.Yields

/-- A field is read as the name and the value that it was hidden with, whatever the value is. -/
theorem hidden (name : String) (field : name ∈ MembershipForm.fieldNames) (value : String) :
    Yields hiddenInput? (Page.hidden name value) [(name, value)] := by
  intro rest
  have written : (Page.hidden name value).chars ++ rest = '<' :: ("input".toList ++
      Text.joinWith ['"'] (hiddenPieces (escapeChars name.toList) (escapeChars value.toList)) ++
        '>' :: rest) := by
    rw [fieldName_plain name field]
    simp [Page.hidden, Content.chars, Piece.chars, hiddenPieces, Text.joinWith, List.intersperse]
  have inner : '<' ∉ "input".toList ++
      Text.joinWith ['"'] (hiddenPieces (escapeChars name.toList) (escapeChars value.toList)) ++
        ['>'] := by
    simp [hiddenPieces, Text.joinWith, List.intersperse, lt_notMem_escapeChars]
  rw [written, behindTags, if_pos rfl, List.filterMap_cons_some (hiddenInput?_hiddenPieces _ _ _),
    String.ofList_toList, String.ofList_toList, List.append_cons, behindTags_append,
    behindTags_eq_nil inner]
  rfl

end Content.Yields

/-- The page for an order sends on the form that it was made from, and nothing else. -/
theorem hiddenInputs_confirmationPage (settings : Settings) (form : MembershipForm) (sale : Sale)
    (total : Decimal) :
    hiddenInputs (Page.confirmationPage settings form sale total).chars = form.pairs := by
  have frame : ∀ m ∈ Page.confirmationMarkup, Inert m := by decide
  have opened : ∀ label ∈ Page.labels, Inert ("<tr><td>" ++ label) := by decide
  have words : ∀ m ∈ [" for ", " "], Inert m := by decide
  have cell : ∀ m ∈ ["</td><td>", "</td></tr>"], Inert m := by decide
  have rows : ∀ item ∈ Page.items sale,
      Content.Yields hiddenInput? (Page.itemRow item) [] := fun item mem =>
    .itemRow mem (fun m listed => (opened m listed).silent) (fun m listed => (words m listed).silent)
      (.of_silent fun m listed => (cell m listed).silent)
  have yields : Content.Yields hiddenInput? (Page.confirmationPage settings form sale total)
      ((Page.items sale).flatMap (fun _ => []) ++ form.pairs.flatMap fun pair => [pair]) :=
    .confirmationPage settings form sale total (fun m mem => (frame m mem).silent) rows .hidden
  have none : (Page.items sale).flatMap (fun _ => ([] : List (String × String))) = [] :=
    List.flatMap_eq_nil_iff.mpr fun _ _ => rfl
  rw [none, List.nil_append, List.flatMap_singleton'] at yields
  exact yields.whole

end Dues.Site
