import Dues.Proofs.Site.Acceptance
import Dues.Proofs.Site.HiddenInputs
import Dues.Proofs.Text.FormEncoding

/-! # The order that is confirmed and the order that is paid for

Between the page on which an order is confirmed and the payment, the order is nowhere but in the
hidden inputs of that page. They come back as the form that was sent in, so the sale that is entered
in the book is the one on the page, and its total is what the provider is asked for.
-/

namespace Dues.Site

open Dues.Money (Decimal)
open Dues.Payment (PaymentProvider CheckoutRequest CheckoutSession Sandbox)
open Dues.Time (Instant)

variable {σ : Type} {settings : Settings} {provider : PaymentProvider σ} {now : Instant}
  {form : MembershipForm} {request : Request} {target : String} {total : Decimal}

theorem MembershipForm.repeated_pairs (form : MembershipForm) :
    Text.FormEncoding.repeated fieldNames [] form.pairs = none := by
  obtain ⟨_, _, _, friend, _, _, _, associateFriend, _, _, giftAid⟩ := form
  cases friend <;> cases associateFriend <;> cases giftAid <;> rfl

/-- A request with the names and values of a form sends in that form. -/
theorem Request.sends_of_pairs (post : request.method = "POST") (path : request.path = target)
    (announced : request.announcesForm = true)
    (pairs : Text.FormEncoding.decode request.body = form.pairs) : request.Sends form target := by
  refine ⟨post, path, ?_⟩
  rw [readForm, if_pos announced]
  dsimp only
  rw [pairs, form.repeated_pairs, form.ofPairs_pairs]

/-- A form as it is sent in at an address of the site. -/
def MembershipForm.sentTo (form : MembershipForm) (target : String) : Request where
  method := "POST"
  target := target
  contentType := some "application/x-www-form-urlencoded"
  body := Text.FormEncoding.encode form.pairs

theorem MembershipForm.sends_sentTo (form : MembershipForm)
    (plain : '#' ∉ target.toList ∧ '?' ∉ target.toList) :
    (form.sentTo target).Sends form target := by
  have path : (form.sentTo target).path = target := by
    unfold Request.path Request.resource sentTo
    rw [Text.splitAtFirst_of_notMem plain.1, Text.splitAtFirst_of_notMem plain.2,
      String.ofList_toList]
  have announced : (form.sentTo target).announcesForm = true := by
    unfold Request.announcesForm sentTo
    dsimp only
    decide
  exact Request.sends_of_pairs rfl path announced (Text.FormEncoding.decode_encode _)

/-- A request that pays for what a form comes to: the form is accepted, and where a session is
opened the sale is in the book as it was priced, and the provider has been asked for the pennies of
its total. -/
structure Request.PaysFor (request : Request) (settings : Settings) (now : Instant)
    (form : MembershipForm) (total : Decimal) : Prop where
  sends : request.Sends form "/checkout"
  starts : ∀ (σ : Type) (provider : PaymentProvider σ),
    answer settings provider now request =
      orFailurePage settings (Checkout.start settings provider now form.order)
        fun session => Response.redirectTo session.url
  charges : ∀ (σ : Type) (provider : PaymentProvider σ) (d : Desk) (state : σ)
    (session : CheckoutSession) (after : Counter σ),
    Checkout.start settings provider now form.order ⟨d, state⟩ = .ok session after →
      after.desk = Checkout.entered d (form.order.price settings now) ∧
      ∃ amount, total.pennies = .ok (some amount) ∧
        provider.openSession (Checkout.sessionRequest settings
          (Checkout.entry d settings now form.order) amount) state = .ok session after.provider

theorem Request.Sends.paysFor (sends : request.Sends form "/checkout")
    (accepted : form.complaints = [])
    (summed : (form.order.price settings now).total = .ok total) :
    request.PaysFor settings now form total where
  sends := sends
  starts := by
    intro σ provider
    rw [answer_checkout sends, pay, accepted, List.isEmpty_nil, if_pos rfl]
  charges := by
    intro σ provider d state session after started
    obtain ⟨amount, charged, desk, sent⟩ := Checkout.start_ok started
    obtain ⟨total', summed', _, priced⟩ := Checkout.charge_ok charged
    cases summed.symm.trans summed'
    exact ⟨desk, amount, priced, sent⟩

/-- What is answered to an accepted form is the page that confirms its order, unless there is no
total that could be shown. -/
theorem confirm_accepted_ok {counter after : Counter σ} {response : Response}
    (accepted : form.complaints = [])
    (answered : confirm settings now form counter = .ok response after) :
    ∃ total, (form.order.price settings now).total = .ok total ∧ after = counter ∧
      response = .page 200
        (Page.confirmationPage settings form (form.order.price settings now) total) := by
  cases summed : (form.order.price settings now).total with
  | ok total =>
      rw [confirm_accepted accepted summed] at answered
      cases answered
      exact ⟨total, rfl, rfl, rfl⟩
  | error fault =>
      rw [confirm_unsummed accepted summed] at answered
      cases answered

/-- The order that is confirmed is the order that is charged. The hidden inputs of the page that
answers an accepted form are the fields of that form, the texts as they were sent in and the boxes
just where they were ticked. Whoever sends them on, in whatever way they are encoded, sends in the
same form, and pays for the sale that the page shows. -/
theorem confirmed_order_is_charged (settings : Settings) (provider : PaymentProvider σ)
    (now : Instant) (form : MembershipForm) (shown : Request) (counter after : Counter σ)
    (response : Response) (accepted : form.complaints = [])
    (sends : shown.Sends form "/displayPaymentForm")
    (answered : answer settings provider now shown counter = .ok response after) :
    ∃ total, (form.order.price settings now).total = .ok total ∧
      response = .page 200
        (Page.confirmationPage settings form (form.order.price settings now) total) ∧
      hiddenInputs response.body.toList = form.pairs ∧
      MembershipForm.ofPairs (hiddenInputs response.body.toList) = form ∧
      Text.FormEncoding.decode (Text.FormEncoding.encode (hiddenInputs response.body.toList)) =
        hiddenInputs response.body.toList ∧
      ∀ resent : Request, resent.method = "POST" → resent.path = "/checkout" →
        resent.announcesForm = true →
        Text.FormEncoding.decode resent.body = hiddenInputs response.body.toList →
          resent.PaysFor settings now form total := by
  rw [answer_form sends] at answered
  obtain ⟨total, summed, _, rfl⟩ := confirm_accepted_ok accepted answered
  have hidden : hiddenInputs (Response.page 200 (Page.confirmationPage settings form
      (form.order.price settings now) total)).body.toList = form.pairs := by
    rw [Response.page, Content.render, String.toList_ofList, hiddenInputs_confirmationPage]
  refine ⟨total, summed, rfl, hidden, by rw [hidden, form.ofPairs_pairs],
    Text.FormEncoding.decode_encode _, fun resent post path announced pairs => ?_⟩
  rw [hidden] at pairs
  exact (Request.sends_of_pairs post path announced pairs).paysFor accepted summed

/-- A form with quotes, tags and an entity in its texts, blanks around them, and values of their own
for the boxes. It comes to a membership, two friends, an associate and a donation of 5. -/
def quotedForm : MembershipForm where
  firstName := " Ada \"<b>\" & "
  lastName := "O'Lovelace &amp;"
  email := "ada@example.org"
  friend := some "\">"
  associateFirstName := "Zoë"
  associateLastName := "=+%26"
  associateFriend := some ""
  donationToSociety := " 5.00 "

theorem quotedForm_is_charged :
    let now := Instant.ofSeconds 1757930400 0
    ∃ (response : Response) (session : CheckoutSession) (after : Counter Sandbox)
      (request : CheckoutRequest),
      answer .sample Sandbox.provider now (quotedForm.sentTo "/displayPaymentForm") ⟨.initial, {}⟩ =
        .ok response ⟨.initial, {}⟩ ∧
      MembershipForm.ofPairs (hiddenInputs response.body.toList) = quotedForm ∧
      answer .sample Sandbox.provider now (quotedForm.sentTo "/checkout") ⟨.initial, {}⟩ =
        .ok (.redirect session.url) after ∧
      after.desk = Checkout.entered .initial (quotedForm.order.price .sample now) ∧
      after.provider.sessions = [request] ∧ request.amount = 4500 := by
  intro now
  have accepted : quotedForm.complaints = [] := by decide +kernel
  have charged : Checkout.charge (quotedForm.order.price .sample now) = .ok 4500 := by
    decide +kernel
  obtain ⟨total, summed, _, priced⟩ := Checkout.charge_ok charged
  have sends : (quotedForm.sentTo "/displayPaymentForm").Sends quotedForm
      "/displayPaymentForm" := quotedForm.sends_sentTo (by decide)
  obtain ⟨response, answered⟩ : ∃ response, answer .sample Sandbox.provider now
      (quotedForm.sentTo "/displayPaymentForm") ⟨.initial, {}⟩ = .ok response ⟨.initial, {}⟩ :=
    ⟨_, (congrFun (answer_form sends) _).trans (confirm_accepted accepted summed _)⟩
  obtain ⟨session, after, request, started, sessions, fits⟩ : ∃ session after request,
      Checkout.start .sample Sandbox.provider now quotedForm.order ⟨.initial, {}⟩ =
        .ok session after ∧ after.provider.sessions = [request] ∧
      Response.fitsHeader session.url = true :=
    ⟨_, _, _, Checkout.start_charged Desk.initial_installed charged rfl, rfl, by decide +kernel⟩
  obtain ⟨_, same, _, hidden, read, _, pays⟩ := confirmed_order_is_charged .sample
    Sandbox.provider now quotedForm _ _ _ _ accepted sends answered
  cases summed.symm.trans same
  have resends : (quotedForm.sentTo "/checkout").Sends quotedForm "/checkout" :=
    quotedForm.sends_sentTo (by decide)
  have resent := pays (quotedForm.sentTo "/checkout") resends.method resends.path (by decide)
    ((Text.FormEncoding.decode_encode _).trans hidden.symm)
  obtain ⟨desk, amount, priced', asked⟩ := resent.charges _ _ _ _ _ _ started
  cases priced.symm.trans priced'
  have granted := Sandbox.accounts.granted _ _ _ _ asked
  rw [sessions] at granted
  refine ⟨response, session, after, request, answered, read, ?_, desk, sessions, ?_⟩
  · rw [resent.starts, orFailurePage, started]
    exact give_redirect fits after
  · cases List.singleton_inj.mp granted
    rfl

end Dues.Site
