import Dues.Proofs.Site.Resubmission

/-! # Sections that are switched off

A society can do without the section for other member types and without gift aid. What a form says
in such a section makes no difference to what is shown, entered and charged, with one exception: the
associate's email is checked although nobody can see it, and the form comes back without a word
about what is wrong with it.
-/

namespace Dues

open Dues.Payment (PaymentProvider Sandbox)
open Dues.Time (Instant)

theorem Checkout.start_of_price {σ : Type} {settings : Settings} {now : Instant}
    {order order' : Order} (provider : PaymentProvider σ)
    (same : order.price settings now = order'.price settings now) :
    start settings provider now order = start settings provider now order' := by
  unfold start
  rw [same]

namespace Site

variable {σ : Type} {settings : Settings} {now : Instant} {form f g : MembershipForm}

namespace MembershipForm

/-- A form without what it says about an associate and about friends. -/
def withoutOthers (form : MembershipForm) : MembershipForm :=
  { form with
    friend := none, associateFirstName := "", associateLastName := "", associateEmail := ""
    associateFriend := none }

def withoutGiftAid (form : MembershipForm) : MembershipForm := { form with giftAid := none }

/-- Two forms that come to the same thing. At the checkout they are answered in the same way by
every provider, and what is entered in the book and sent to the provider is the same. On the way
there both are accepted or neither is, and what is shown are the same lines with the same total. -/
structure SameEffect (f : MembershipForm) (settings : Settings) (now : Instant)
    (g : MembershipForm) : Prop where
  paid : ∀ request request' : Request, request.Sends f "/checkout" →
    request'.Sends g "/checkout" → ∀ (σ : Type) (provider : PaymentProvider σ),
      answer settings provider now request = answer settings provider now request'
  accepted : f.complaints = [] ↔ g.complaints = []
  confirmed : ∀ request request' : Request, request.Sends f "/displayPaymentForm" →
    request'.Sends g "/displayPaymentForm" →
    ∀ (σ : Type) (provider : PaymentProvider σ) (counter : Counter σ),
      answer settings provider now request counter =
          answer settings provider now request' counter ∨
        ∃ sale total,
          answer settings provider now request counter =
            .ok (.page 200 (Page.confirmationPage settings f sale total)) counter ∧
          answer settings provider now request' counter =
            .ok (.page 200 (Page.confirmationPage settings g sale total)) counter

theorem isEmpty_complaints_eq (accepted : f.complaints = [] ↔ g.complaints = []) :
    f.complaints.isEmpty = g.complaints.isEmpty := by
  rw [Bool.eq_iff_iff, List.isEmpty_iff, List.isEmpty_iff, accepted]

/-- It is enough that the forms come to the same sale, that both are accepted or neither is, and
that they are sent back with the same page. -/
theorem sameEffect_of (sale : f.order.price settings now = g.order.price settings now)
    (accepted : f.complaints = [] ↔ g.complaints = [])
    (page : Page.formPage settings f f.complaints = Page.formPage settings g g.complaints) :
    f.SameEffect settings now g := by
  refine ⟨fun request request' sends sends' σ provider => ?_, accepted,
    fun request request' sends sends' σ provider counter => ?_⟩
  · rw [answer_checkout sends, answer_checkout sends', pay, pay, isEmpty_complaints_eq accepted,
      page, Checkout.start_of_price provider sale]
  · rw [answer_form sends, answer_form sends']
    by_cases none : f.complaints = []
    · cases summed : (f.order.price settings now).total with
      | ok total =>
          refine .inr ⟨f.order.price settings now, total, confirm_accepted none summed counter, ?_⟩
          rw [sale] at summed ⊢
          exact confirm_accepted (accepted.mp none) summed counter
      | error fault =>
          -- The sale is the same, so neither of the two can be added up.
          left
          rw [confirm_unsummed none summed]
          rw [sale] at summed
          rw [confirm_unsummed (accepted.mp none) summed]
    · left
      rw [confirm_refused none, confirm_refused (mt accepted.mpr none), page]

/-! ### Nothing is priced that is switched off -/

theorem price_withoutOthers (form : MembershipForm) (off : settings.otherMemberTypes = false) :
    form.withoutOthers.order.price settings now = form.order.price settings now := by
  have nobody : ∀ order : Order, order.associateParticipant settings = {} := by
    intro order
    unfold Order.associateParticipant
    rw [off]
    split <;> rfl
  unfold Order.price
  rw [nobody, nobody]
  simp [order, withoutOthers, Applicant.participant, off]

theorem price_withoutGiftAid (form : MembershipForm) (off : settings.giftAid = false) :
    form.withoutGiftAid.order.price settings now = form.order.price settings now := by
  unfold Order.price
  rw [off]
  rfl

/-! ### What comes back with a form -/

theorem complaints_eq_nil_iff :
    f.complaints = [] ↔ ∀ check ∈ f.checks, check.2 = none := by
  unfold complaints
  rw [List.filterMap_eq_nil_iff]
  simp only [Option.map_eq_none_iff]

/-- There is nothing to complain about just where there is nothing in the other sections, and the
email of the associate is one or is left out. -/
theorem complaints_eq_nil_iff_withoutOthers (form : MembershipForm) : form.complaints = [] ↔
    form.withoutOthers.complaints = [] ∧ checkOptionalEmail form.associateEmail = none := by
  have blank : checkOptionalEmail "" = none := by decide
  simp only [complaints_eq_nil_iff, checks, withoutOthers, List.forall_mem_cons, blank]
  tauto

theorem lookup_filterMap {checks : List (String × Option Complaint)} (name : String)
    (apart : (checks.map Prod.fst).Nodup) :
    (checks.filterMap fun (field, complaint) => complaint.map (field, ·)).lookup name =
      (checks.lookup name).join := by
  induction checks with
  | nil => rfl
  | cons check checks ih =>
      obtain ⟨field, complaint⟩ := check
      rw [List.map_cons, List.nodup_cons] at apart
      have rest := ih apart.2
      by_cases same : name = field
      · subst same
        rw [List.lookup_cons_self]
        cases complaint with
        | none =>
            have gone : checks.lookup name = none := by
              rw [List.lookup_eq_none_iff]
              rintro ⟨field, complaint⟩ mem
              exact bne_iff_ne.mpr fun same => apart.1 (List.mem_map.mpr ⟨_, mem, same.symm⟩)
            rw [List.filterMap_cons_none rfl, rest, gone]
            rfl
        | some c => exact List.lookup_cons_self
      · have other : (name == field) = false := beq_false_of_ne same
        rw [List.lookup_cons, other, ← rest]
        cases complaint with
        | none => rfl
        | some c => exact List.lookup_cons.trans (by rw [other])

/-- Each field has a check of its own, so what is complained about is what that check has found. -/
theorem lookup_complaints (form : MembershipForm) (name : String) :
    form.complaints.lookup name = (form.checks.lookup name).join := by
  have names : form.checks.map Prod.fst = ["first_name", "last_name", "email", "associate_email",
      "donation_to_society", "donation_to_museum"] := rfl
  exact lookup_filterMap name (names ▸ by decide)

theorem lookup_complaints_withoutOthers {name : String} (other : name ≠ "associate_email") :
    form.complaints.lookup name = form.withoutOthers.complaints.lookup name := by
  have skipped : (name == "associate_email") = false := beq_false_of_ne other
  rw [lookup_complaints, lookup_complaints]
  simp only [checks, List.lookup_cons, skipped]
  rfl

theorem textInput_withoutOthers (form : MembershipForm) (name : String)
    (other : name ≠ "associate_email") (label value : String) (mandatory : Bool) :
    Page.textInput name label value mandatory form.complaints =
      Page.textInput name label value mandatory form.withoutOthers.complaints := by
  unfold Page.textInput Page.complaintNote
  rw [lookup_complaints_withoutOthers other]

theorem memberSection_withoutOthers (form : MembershipForm) :
    Page.memberSection form form.complaints =
      Page.memberSection form.withoutOthers form.withoutOthers.complaints := by
  unfold Page.memberSection
  rw [form.textInput_withoutOthers "first_name" (by decide),
    form.textInput_withoutOthers "last_name" (by decide),
    form.textInput_withoutOthers "email" (by decide)]
  rfl

theorem donationsSection_withoutOthers (form : MembershipForm) :
    Page.donationsSection form form.complaints =
      Page.donationsSection form.withoutOthers form.withoutOthers.complaints := by
  unfold Page.donationsSection
  rw [form.textInput_withoutOthers "donation_to_society" (by decide),
    form.textInput_withoutOthers "donation_to_museum" (by decide)]
  rfl

/-- Nothing of the section is on the page that a form is sent back with, not even a complaint. -/
theorem formPage_eq_of_withoutOthers (off : settings.otherMemberTypes = false)
    (agree : f.withoutOthers = g.withoutOthers)
    (accepted : f.complaints = [] ↔ g.complaints = []) :
    Page.formPage settings f f.complaints = Page.formPage settings g g.complaints := by
  have box : f.withoutOthers.giftAid = g.withoutOthers.giftAid := by rw [agree]
  change f.giftAid = g.giftAid at box
  unfold Page.formPage
  rw [off, isEmpty_complaints_eq accepted, box, memberSection_withoutOthers,
    memberSection_withoutOthers g, donationsSection_withoutOthers,
    donationsSection_withoutOthers g, agree]
  rfl

theorem sameEffect_iff_of_withoutOthers (off : settings.otherMemberTypes = false)
    (agree : f.withoutOthers = g.withoutOthers) :
    f.SameEffect settings now g ↔ (f.complaints = [] ↔ g.complaints = []) := by
  refine ⟨SameEffect.accepted, fun accepted => sameEffect_of ?_ accepted ?_⟩
  · rw [← f.price_withoutOthers off, agree, g.price_withoutOthers off]
  · exact formPage_eq_of_withoutOthers off agree accepted

theorem sameEffect_of_withoutGiftAid (off : settings.giftAid = false)
    (agree : f.withoutGiftAid = g.withoutGiftAid) : f.SameEffect settings now g := by
  have complaints : ∀ form : MembershipForm, form.complaints = form.withoutGiftAid.complaints :=
    fun _ => rfl
  have page : ∀ form : MembershipForm, Page.formPage settings form form.complaints =
      Page.formPage settings form.withoutGiftAid form.withoutGiftAid.complaints := by
    intro form
    unfold Page.formPage
    rw [off]
    rfl
  refine sameEffect_of ?_ ?_ ?_
  · rw [← f.price_withoutGiftAid off, agree, g.price_withoutGiftAid off]
  · rw [complaints f, complaints g, agree]
  · rw [page f, page g, agree]

end MembershipForm

/-- What a form says in a section that is switched off has no effect, but for the email of an
associate: two forms that differ there come to different things just where one email is in order,
the other is not, and nothing else is wrong with the forms. -/
theorem switched_off_sections_are_ignored_iff (settings : Settings) (now : Instant)
    (f g : MembershipForm) :
    (settings.otherMemberTypes = false → f.withoutOthers = g.withoutOthers →
      (f.SameEffect settings now g ↔
        ((checkOptionalEmail f.associateEmail = none ↔ checkOptionalEmail g.associateEmail = none) ∨
          f.withoutOthers.complaints ≠ []))) ∧
    (settings.giftAid = false → f.withoutGiftAid = g.withoutGiftAid →
      f.SameEffect settings now g) := by
  refine ⟨fun off agree => ?_, MembershipForm.sameEffect_of_withoutGiftAid⟩
  have accepted := f.complaints_eq_nil_iff_withoutOthers
  have accepted' := g.complaints_eq_nil_iff_withoutOthers
  rw [← agree] at accepted'
  rw [MembershipForm.sameEffect_iff_of_withoutOthers off agree, accepted, accepted']
  by_cases none : f.withoutOthers.complaints = []
  · simp only [none, true_and, ne_eq, not_true, or_false]
  · simp only [none, false_and, ne_eq, not_false_iff, or_true]

/-- An associate and a friend where there are none, and a box for gift aid where there is none. -/
theorem other_members_are_ignored :
    let settings := { Settings.sample with otherMemberTypes := false, giftAid := false }
    let now := Instant.ofSeconds 1757930400 0
    let ada : MembershipForm :=
      { firstName := "Ada", lastName := "Lovelace", email := "ada@example.org" }
    let couple : MembershipForm := { ada with
      friend := some "on", associateFirstName := "William", associateLastName := "King"
      associateEmail := "william@example.org", associateFriend := some "on" }
    let aided : MembershipForm := { ada with giftAid := some "on" }
    ada.withoutOthers = couple.withoutOthers ∧ ada.SameEffect settings now couple ∧
      ada.withoutGiftAid = aided.withoutGiftAid ∧ ada.SameEffect settings now aided := by
  intro settings now ada couple aided
  have valid : checkOptionalEmail ada.associateEmail = none ↔
      checkOptionalEmail couple.associateEmail = none := by decide +kernel
  have others := (switched_off_sections_are_ignored_iff settings now ada couple).1 rfl rfl
  have giftAid := (switched_off_sections_are_ignored_iff settings now ada aided).2 rfl rfl
  exact ⟨rfl, others.mpr (.inl valid), rfl, giftAid⟩

/-- An email that nobody is asked for keeps a customer from paying: the form comes back, and no
field of it is marked. -/
theorem unasked_email_keeps_from_paying :
    let settings := { Settings.sample with otherMemberTypes := false }
    let now := Instant.ofSeconds 1757930400 0
    let ada : MembershipForm :=
      { firstName := "Ada", lastName := "Lovelace", email := "ada@example.org" }
    let junk : MembershipForm := { ada with associateEmail := "junk" }
    settings.otherMemberTypes = false ∧ ada.withoutOthers = junk.withoutOthers ∧
      (∃ url after, answer settings Sandbox.provider now (ada.sentTo "/checkout") ⟨.initial, {}⟩ =
        .ok (.redirect url) after) ∧
      (∃ page, answer settings Sandbox.provider now (junk.sentTo "/checkout") ⟨.initial, {}⟩ =
        .ok (.page 200 page) ⟨.initial, {}⟩ ∧ .markup " <span class=\"error\">" ∉ page) ∧
      ¬ ada.SameEffect settings now junk := by
  intro settings now ada junk
  have sends : ∀ form : MembershipForm, (form.sentTo "/checkout").Sends form "/checkout" :=
    fun form => form.sends_sentTo (by decide)
  have accepted : ada.complaints = [] := by decide +kernel
  have complaints : junk.complaints = [("associate_email", .invalidEmail)] := by decide +kernel
  have charged : Checkout.charge (ada.order.price settings now) = .ok 2000 := by decide +kernel
  have paid : ∃ url after, answer settings Sandbox.provider now (ada.sentTo "/checkout")
      ⟨.initial, {}⟩ = .ok (.redirect url) after := by
    rw [answer_checkout (sends ada), pay, accepted, List.isEmpty_nil, if_pos rfl, orFailurePage,
      Checkout.start_charged Desk.initial_installed charged rfl]
    exact ⟨_, _, give_redirect (by decide +kernel) _⟩
  have refused : answer settings Sandbox.provider now (junk.sentTo "/checkout") ⟨.initial, {}⟩ =
      .ok (.page 200 (Page.formPage settings junk junk.complaints)) ⟨.initial, {}⟩ := by
    rw [answer_checkout (sends junk), pay, complaints]
    rfl
  have unmarked : .markup " <span class=\"error\">" ∉
      Page.formPage settings junk junk.complaints := by
    rw [complaints]
    decide +kernel
  refine ⟨rfl, rfl, paid, ⟨_, refused, unmarked⟩, fun same => ?_⟩
  have none := same.accepted.mp accepted
  rw [complaints] at none
  cases none

end Site

end Dues
