import Dues.Proofs.Text.Markup
import Dues.Site.Pages

/-! # The markup of pages

Content whose texts are taken out leaves the markup of its page. Two pages with the same markup have
the same tags and the same attributes, whatever the texts of customers and settings are. Only a few
things decide about the markup: which sections and lines a page has, which boxes are ticked and
which fields are complained about.
-/

namespace Dues

open Dues.Money (Decimal)

/-- Settings under which the form has the same sections. -/
structure Settings.SameSections (s t : Settings) : Prop where
  otherMemberTypes : s.otherMemberTypes = t.otherMemberTypes
  giftAid : s.giftAid = t.giftAid

/-- Sales for which the same things are paid. -/
structure Sale.SameLines (s t : Sale) : Prop where
  friend : s.primary.friend = t.primary.friend
  associate : s.associate.isPresent = t.associate.isPresent
  associateFriend : s.associate.friend = t.associate.friend
  donationToSociety : s.donationToSociety.isPositive = t.donationToSociety.isPositive
  donationToMuseum : s.donationToMuseum.isPositive = t.donationToMuseum.isPositive
  giftAid : s.giftAid = t.giftAid

namespace Site

open Text.Markup

/-- The characters of a page that tags and the values of attributes begin and end with. -/
def marks (page : List Char) : List Char := page.filter isMark

namespace Content

/-- The markup of a page, without the texts between. -/
def skeleton (content : Content) : List String :=
  content.filterMap fun
    | .markup m => some m
    | .text _ => none

def SameMarkup (content content' : Content) : Prop := skeleton content = skeleton content'

theorem marks_chars (content : Content) :
    marks content.chars = marks ((skeleton content).flatMap String.toList) := by
  induction content with
  | nil => rfl
  | cons piece content ih =>
      unfold marks at ih ⊢
      rw [Content.chars, List.flatMap_cons, List.filter_append, ← Content.chars, ih]
      cases piece with
      | markup m => exact (List.filter_append m.toList _).symm
      | text s =>
          have none : (escapeChars s.toList).filter isMark = [] :=
            List.filter_eq_nil_iff.mpr fun c mem => by simp [isMark_of_mem_escapeChars mem]
          rw [Piece.chars, none]
          rfl

variable {content content' more more' : Content}

namespace SameMarkup

theorem marks_render (same : SameMarkup content content') :
    marks content.render.toList = marks content'.render.toList := by
  rw [render, render, String.toList_ofList, String.toList_ofList, marks_chars, marks_chars, same]

theorem append (same : SameMarkup content content') (same' : SameMarkup more more') :
    SameMarkup (content ++ more) (content' ++ more') := by
  unfold SameMarkup skeleton at *
  rw [List.filterMap_append, List.filterMap_append, same, same']

theorem ite {p q : Prop} [Decidable p] [Decidable q] (fork : p ↔ q)
    (same : SameMarkup content content') (same' : SameMarkup more more') :
    SameMarkup (if p then content else more) (if q then content' else more') := by
  by_cases h : p
  · rwa [if_pos h, if_pos (fork.mp h)]
  · rwa [if_neg h, if_neg (mt fork.mpr h)]

theorem optional {b b' : Bool} (flag : b = b') (same : SameMarkup content content') :
    SameMarkup (if b then content else []) (if b' then content' else []) :=
  ite (by rw [flag]) same rfl

end SameMarkup

end Content

open Content (SameMarkup)

/-! ### What decides about the markup of each page -/

/-- Forms on which the same boxes are ticked. -/
structure MembershipForm.SameBoxes (f g : MembershipForm) : Prop where
  friend : f.friend.isSome = g.friend.isSome
  associateFriend : f.associateFriend.isSome = g.associateFriend.isSome
  giftAid : f.giftAid.isSome = g.giftAid.isSome

/-- Complaints about the same fields. -/
def Complaints.SameFields (c d : Complaints) : Prop :=
  ∀ name, (c.lookup name).isSome = (d.lookup name).isSome

/-- The pages of the site, and what each of them is made from besides the settings. -/
inductive Sheet where
  | form (form : MembershipForm) (complaints : Complaints)
  | confirmation (form : MembershipForm) (sale : Sale) (total : Decimal)
  | success (sale : Sale)
  | cancel
  | prePayment
  | postPayment

def Sheet.content (settings : Settings) : Sheet → Content
  | .form filled complaints => Page.formPage settings filled complaints
  | .confirmation filled sale total => Page.confirmationPage settings filled sale total
  | .success sale => Page.successPage settings sale
  | .cancel => Page.cancelPage settings
  | .prePayment => Page.prePaymentPage settings
  | .postPayment => Page.postPaymentPage settings

/-- The same page twice, made from things that differ in their texts at most. -/
inductive Sheet.Alike (settings settings' : Settings) : Sheet → Sheet → Prop
  | form {form form' : MembershipForm} {complaints complaints' : Complaints}
      (sections : settings.SameSections settings') (boxes : form.SameBoxes form')
      (fields : Complaints.SameFields complaints complaints') :
      Alike settings settings' (.form form complaints) (.form form' complaints')
  | confirmation {form form' : MembershipForm} {sale sale' : Sale} {total total' : Decimal}
      (boxes : form.SameBoxes form') (lines : sale.SameLines sale') :
      Alike settings settings' (.confirmation form sale total) (.confirmation form' sale' total')
  | success {sale sale' : Sale} (associate : sale.associate.isPresent = sale'.associate.isPresent) :
      Alike settings settings' (.success sale) (.success sale')
  | cancel : Alike settings settings' .cancel .cancel
  | prePayment : Alike settings settings' .prePayment .prePayment
  | postPayment : Alike settings settings' .postPayment .postPayment

namespace Page

variable {settings settings' : Settings} {form form' : MembershipForm}
  {complaints complaints' : Complaints} {sale sale' : Sale} {body body' label label' : Content}

theorem sameMarkup_layout (title : String) (same : SameMarkup body body') :
    SameMarkup (layout settings title body) (layout settings' title body') :=
  (SameMarkup.append rfl same).append rfl

theorem sameMarkup_complaintNote (fields : Complaints.SameFields complaints complaints')
    (name : String) :
    SameMarkup (complaintNote complaints name) (complaintNote complaints' name) := by
  have same := fields name
  unfold complaintNote
  cases found : complaints.lookup name <;> cases found' : complaints'.lookup name <;>
    rw [found, found'] at same
  · rfl
  · cases same
  · cases same
  · rfl

theorem isEmpty_of_sameFields (fields : Complaints.SameFields complaints complaints') :
    complaints.isEmpty = complaints'.isEmpty := by
  have none_of : ∀ {c d : Complaints}, Complaints.SameFields c d → d = [] → c = [] := by
    rintro (_ | ⟨⟨name, complaint⟩, c⟩) d same rfl
    · rfl
    · have found := same name
      rw [List.lookup_cons_self] at found
      cases found
  rw [Bool.eq_iff_iff, List.isEmpty_iff, List.isEmpty_iff]
  exact ⟨none_of fun name => (fields name).symm, none_of fields⟩

theorem sameMarkup_textInput (fields : Complaints.SameFields complaints complaints')
    (name label value value' : String) (mandatory : Bool) :
    SameMarkup (textInput name label value mandatory complaints)
      (textInput name label value' mandatory complaints') :=
  (SameMarkup.append rfl (sameMarkup_complaintNote fields name)).append rfl

theorem sameMarkup_tickbox (name : String) {ticked ticked' : Bool} (same : SameMarkup label label')
    (box : ticked = ticked') :
    SameMarkup (tickbox name label ticked) (tickbox name label' ticked') := by
  subst box
  exact (SameMarkup.append rfl same).append rfl

theorem sameMarkup_memberSection (fields : Complaints.SameFields complaints complaints') :
    SameMarkup (memberSection form complaints) (memberSection form' complaints') := by
  unfold memberSection
  refine ((SameMarkup.append rfl ?_).append ?_).append ?_ <;> exact sameMarkup_textInput fields ..

theorem sameMarkup_otherMembersSection (boxes : form.SameBoxes form')
    (fields : Complaints.SameFields complaints complaints') :
    SameMarkup (otherMembersSection settings form complaints)
      (otherMembersSection settings' form' complaints') := by
  unfold otherMembersSection
  refine ((((((SameMarkup.append ?_ rfl).append ?_).append rfl).append ?_).append ?_).append
    ?_).append ?_
  · exact sameMarkup_tickbox "friend" rfl boxes.friend
  · rfl
  · exact sameMarkup_textInput fields ..
  · exact sameMarkup_textInput fields ..
  · exact sameMarkup_textInput fields ..
  · exact sameMarkup_tickbox "associate_friend" rfl boxes.associateFriend

theorem sameMarkup_donationsSection (fields : Complaints.SameFields complaints complaints') :
    SameMarkup (donationsSection form complaints) (donationsSection form' complaints') := by
  unfold donationsSection
  refine (SameMarkup.append rfl ?_).append ?_ <;> exact sameMarkup_textInput fields ..

theorem sameMarkup_formPage (sections : settings.SameSections settings')
    (boxes : form.SameBoxes form') (fields : Complaints.SameFields complaints complaints') :
    SameMarkup (formPage settings form complaints) (formPage settings' form' complaints') := by
  refine sameMarkup_layout _ ((((((SameMarkup.append ?_ rfl).append ?_).append ?_).append ?_).append
    ?_).append ?_)
  · exact SameMarkup.ite (by rw [isEmpty_of_sameFields fields]) rfl rfl
  · exact sameMarkup_memberSection fields
  · exact SameMarkup.optional sections.otherMemberTypes
      (sameMarkup_otherMembersSection boxes fields)
  · exact sameMarkup_donationsSection fields
  · exact SameMarkup.optional sections.giftAid (sameMarkup_tickbox "giftaid" rfl boxes.giftAid)
  · rfl

/-- The lines of a table have the markup of what they name. -/
theorem skeleton_rows (rows : List (Content × Decimal)) :
    Content.skeleton (rows.flatMap itemRow) =
      (rows.map fun item => Content.skeleton item.1).flatMap fun named =>
        ["<tr><td>"] ++ named ++ ["</td><td>", "</td></tr>"] := by
  induction rows with
  | nil => rfl
  | cons item rows ih =>
      unfold Content.skeleton at ih ⊢
      rw [List.flatMap_cons, List.filterMap_append, ih, itemRow, List.filterMap_append,
        List.filterMap_append, List.map_cons, List.flatMap_cons]
      rfl

theorem map_skeleton_items (lines : sale.SameLines sale') :
    (items sale).map (fun item => Content.skeleton item.1) =
      (items sale').map (fun item => Content.skeleton item.1) := by
  unfold items
  -- With the same forks on both sides, what is left are texts in the same places.
  rw [lines.friend, lines.associate, lines.associateFriend, lines.donationToSociety,
    lines.donationToMuseum]
  simp only [List.map_append, apply_ite (List.map _), List.map_cons, List.map_nil]
  rfl

theorem sameMarkup_box (name : String) {box box' : Option String}
    (same : box.isSome = box'.isSome) :
    SameMarkup (box.toList.flatMap (hidden name)) (box'.toList.flatMap (hidden name)) := by
  cases box <;> cases box'
  · rfl
  · cases same
  · cases same
  · rfl

theorem sameMarkup_hiddenForm (boxes : form.SameBoxes form') :
    SameMarkup (hiddenForm form) (hiddenForm form') := by
  refine ((SameMarkup.append ?_ (sameMarkup_box "friend" boxes.friend)).append
    (sameMarkup_box "associate_friend" boxes.associateFriend)).append
      (sameMarkup_box "giftaid" boxes.giftAid)
  rfl

theorem sameMarkup_confirmationPage (boxes : form.SameBoxes form') (lines : sale.SameLines sale')
    (total total' : Decimal) :
    SameMarkup (confirmationPage settings form sale total)
      (confirmationPage settings' form' sale' total') := by
  refine sameMarkup_layout _ ((((((SameMarkup.append rfl ?_).append ?_).append ?_).append
    rfl).append ?_).append rfl)
  · exact (skeleton_rows _).trans ((congrArg _ (map_skeleton_items lines)).trans
      (skeleton_rows _).symm)
  · rfl
  · exact SameMarkup.optional lines.giftAid rfl
  · exact sameMarkup_hiddenForm boxes

theorem sameMarkup_successPage (associate : sale.associate.isPresent = sale'.associate.isPresent) :
    SameMarkup (successPage settings sale) (successPage settings' sale') := by
  refine sameMarkup_layout _ ((((SameMarkup.append ?_ ?_).append rfl).append ?_).append rfl)
  · rfl
  · refine SameMarkup.optional associate ?_
    rfl
  · rfl

end Page

/-- No text can change the markup of a page: on two pages that differ in texts of customers and
settings only, the characters that tags and attributes are made with are the same, in the same
order. And nothing is lost, as each text can be read from what is written for it. -/
theorem texts_leave_markup_alone :
    (∀ (settings settings' : Settings) (sheet sheet' : Sheet),
      Sheet.Alike settings settings' sheet sheet' →
        marks (sheet.content settings).render.toList =
          marks (sheet'.content settings').render.toList) ∧
    ∀ s : String, unescape (escape s) = s := by
  refine ⟨fun settings settings' sheet sheet' alike => SameMarkup.marks_render ?_,
    unescape_escape⟩
  cases alike with
  | form sections boxes fields => exact Page.sameMarkup_formPage sections boxes fields
  | confirmation boxes lines => exact Page.sameMarkup_confirmationPage boxes lines _ _
  | success associate => exact Page.sameMarkup_successPage associate
  | cancel => exact Page.sameMarkup_layout _ rfl
  | prePayment => exact Page.sameMarkup_layout _ rfl
  | postPayment => exact Page.sameMarkup_layout _ rfl

/-- A script for a name, a tag for the name of the society, and an attribute for its address, on a
form with a box that is ticked and a field that is complained about for another reason. -/
theorem script_in_name_is_text :
    let society : Settings := {
      organisationName := "History", otherMemberTypes := true, giftAid := true
      emailForQuestions := "office@example.org", emailForFailures := "office@example.org"
      ordinaryFee := Decimal.zero }
    let crafty := { society with
      organisationName := "<h1>'History'</h1>", emailForQuestions := "\" onclick=\"" }
    let form : MembershipForm := { firstName := "Ada", friend := some "on" }
    let crafted : MembershipForm := { form with
      firstName := "\"><script>alert('Ada')</script>", email := "<", friend := some ">" }
    let sheet := Sheet.form form [("email", .required)]
    let sheet' := Sheet.form crafted [("email", .invalidEmail)]
    Sheet.Alike society crafty sheet sheet' ∧
      marks (sheet.content society).render.toList = marks (sheet'.content crafty).render.toList ∧
      unescape (escape crafted.firstName) = crafted.firstName := by
  intro society crafty form crafted sheet sheet'
  have fields : Complaints.SameFields [("email", .required)] [("email", .invalidEmail)] := by
    intro name
    rw [List.lookup_cons, List.lookup_cons]
    cases name == "email" <;> rfl
  have alike : Sheet.Alike society crafty sheet sheet' := .form ⟨rfl, rfl⟩ ⟨rfl, rfl, rfl⟩ fields
  exact ⟨alike, texts_leave_markup_alone.1 _ _ _ _ alike, texts_leave_markup_alone.2 _⟩

end Site

end Dues
