import Dues.Proofs.Purchase.Extension
import Dues.Proofs.Sale.Amounts
import Dues.Proofs.Text.Number
import Dues.Proofs.Time.London

/-! # Whoever pays becomes a member

All that can keep a sale from being fulfilled is settled before its customer is sent to the payment
provider: the form asks for an email, the order for names, and the charge for amounts that the book
gives back. What others do at the desk in the meantime leaves the row of the sale alone.
-/

namespace Dues

open Dues.Payment
open Dues.Text (trim isBlankText)
open Dues.Time (Instant)

theorem Site.MembershipForm.email_not_blank {form : MembershipForm} (accepted : form.complaints = []) :
    isBlankText form.email = false := by
  have none := List.filterMap_eq_nil_iff.mp accepted ("email", checkRequiredEmail form.email)
    (by simp [checks])
  have checked : checkRequiredEmail form.email = .none := Option.map_eq_none_iff.mp none
  cases blank : isBlankText form.email with
  | false => rfl
  | true =>
      unfold checkRequiredEmail checkRequired at checked
      rw [blank] at checked
      cases checked

namespace Order

variable {order : Order} {settings : Settings} {now : Instant}

theorem price_email (email : isBlankText order.primary.email = false) :
    isBlankText (order.price settings now).primary.email = false :=
  (Text.isBlankText_trim _).trans email

theorem price_associate (present : (order.price settings now).associate.isPresent = true) :
    isBlankText (order.price settings now).associate.firstName = false := by
  change isBlankText (order.associateParticipant settings).firstName = false
  change (order.associateParticipant settings).isPresent = true at present
  unfold associateParticipant at present ⊢
  split at present
  next => cases present
  next associate _ =>
    split at present
    next counts =>
      rw [if_pos counts]
      have filled := (Bool.and_eq_true_iff.mp counts).2
      exact (Text.isBlankText_trim _).trans (Bool.not_eq_true' _ |>.mp filled)
    next => cases present

theorem price_friendFee (noFriend : (order.price settings now).primary.friend = false) :
    (order.price settings now).primary.friendFee = Money.Decimal.zero :=
  if_neg (Bool.eq_false_iff.mp noFriend)

end Order

namespace Checkout

variable {d : Desk} {sale : Sale} {now : Instant} {amount id : Int}

theorem charge_ok (h : charge sale = .ok amount) : ∃ total, sale.total = .ok total ∧
    total.isPositive = true ∧ total.pennies = .ok (some amount) := by
  unfold charge at h
  split at h
  next => cases h
  next total summed =>
    split at h
    next positive =>
      split at h
      next => cases h
      next => cases h
      next priced =>
        cases h
        exact ⟨total, summed, positive, priced⟩
    next => cases h

theorem saleOfReference_digits (positive : 0 < id) (fits : Text.fitsSigned 64 id = true) :
    saleOfReference (some (String.ofList (Text.digitsOfInt id))) = some id := by
  unfold saleOfReference
  simp only [bind, Option.bind_some]
  rw [Text.trim_digitsOfInt, String.toList_ofList, Text.readSigned?_digitsOfInt fits,
    Option.bind_some, if_pos positive]

/-- A sale as it was entered, and charged for, is fulfilled as soon as it is to be settled. -/
theorem settle_entered {order : Order} {earlier : Settings} {started : Instant}
    (installed : d.Installed) (settings : Settings) (paymentId : String)
    (row : d.store.sales.find? id = some (order.price earlier started).record)
    (charged : charge (order.price earlier started) = .ok amount)
    (email : isBlankText order.primary.email = false) (clock : now.InYears 1 9998) :
    ∃ sale d', settle settings now id paymentId d = .ok (.fulfilled sale) d' ∧ sale.id = id ∧
      sale.status = .complete ∧ d'.store.sales.find? id = some sale.record ∧
      sale.year = (order.price earlier started).year := by
  obtain ⟨total, summed, positive, priced⟩ := charge_ok charged
  obtain ⟨entry, read, _, total, summed⟩ := Sale.sale?_succeeds id
    (Sale.amounts_atMost summed positive priced) Order.price_friendFee
  obtain ⟨status, year, primary, associate⟩ := Sale.sale?_record read
  have entered := Store.sale?_ok.mpr ⟨installed.has .sales, _, row, read⟩
  have pending : entry.status ≠ .complete := fun complete => nomatch status.symm.trans complete
  have present : entry.associate.isPresent = (order.price earlier started).associate.isPresent := by
    unfold Participant.isPresent
    rw [associate]
  obtain ⟨sale, mid, fulfil⟩ := Fulfilment.fulfil_succeeds installed paymentId now
    settings.otherMemberTypes entered pending
    (by rw [primary]; exact Order.price_email email)
    (by rw [present, associate]; exact Order.price_associate)
  obtain ⟨today, dated⟩ := Time.London.today_ok (by decide) clock.1 clock.2
  obtain ⟨sameYear, sameTotal⟩ := Fulfilment.fulfil_entry fulfil entered
  obtain ⟨d', settled, frame⟩ := settle_succeeds fulfil dated
    (sameTotal.trans summed)
  obtain ⟨same, complete⟩ := Fulfilment.fulfil_sale fulfil
  refine ⟨sale, d', settled, same, complete, ?_, sameYear.trans year⟩
  rw [frame.store.sales (by simp)]
  exact Fulfilment.fulfil_row fulfil

end Checkout

/-- A provider reports a session as paid, with the reference of the request that it was opened
for. -/
def Payment.PaymentProvider.ReportsPaid {σ : Type} (provider : PaymentProvider σ) (state : σ)
    (sessionId : String) (request : CheckoutRequest) : Prop :=
  ∃ details state', provider.findSession sessionId state = .ok details state' ∧
    details.isPaid = true ∧ details.reference = some request.reference

namespace Visit

variable {d : Desk} {σ : Type} {provider : PaymentProvider σ} {state : σ} {settings : Settings}
  {now : Instant} {order : Order}

theorem serve_opened {session : CheckoutSession}
    (opened : ((starts provider state settings now order).serve d).1 = .opened session) :
    (∃ amount, Checkout.charge (order.price settings now) = .ok amount) ∧
      ((starts provider state settings now order).serve d).2.store.sales.find?
        (Checkout.entry d settings now order).id = some (order.price settings now).record := by
  have started := Checkout.start_started settings provider now order d state
  dsimp only [serve] at opened ⊢
  generalize Checkout.start settings provider now order ⟨d, state⟩ = r at started opened
  cases started with
  | refused => cases opened
  | unanswered => cases opened
  | opened amount charged session c desk =>
      refine ⟨⟨amount, charged⟩, ?_⟩
      dsimp only
      rw [desk]
      exact (Store.Table.find?_insert _).trans (if_pos rfl)

theorem saleId?_returns {sessionId : String} {amount : Int} {sale : Sale} {sold : Settings}
    (settings : Settings) (now : Instant) (positive : 0 < sale.id)
    (numbered : Text.fitsSigned 64 sale.id = true)
    (reported : provider.ReportsPaid state sessionId (Checkout.sessionRequest sold sale amount)) :
    (returns provider state settings now sessionId).saleId? = some sale.id := by
  obtain ⟨details, state', found, paid, own⟩ := reported
  dsimp only [saleId?]
  rw [found]
  dsimp only
  rw [Checkout.settledBy, if_pos paid, own]
  exact Checkout.saleOfReference_digits positive numbered

end Visit

namespace Desk

theorem row_after {d : Desk} {i : Int} {record : SaleRecord} (visits : List Visit)
    (row : d.store.sales.find? i = some record) (others : ∀ v ∈ visits, v.saleId? ≠ some i) :
    (d.after visits).store.sales.find? i = some record := by
  refine after_induction (P := fun d => d.store.sales.find? i = some record) visits row
    fun d v mem row => v.serve_row row fun sale completes same => ?_
  obtain ⟨saleId, mid, settles, fulfil⟩ := Visit.completes_eq_some.mp completes
  rw [← (Fulfilment.fulfil_sale fulfil).1, same] at settles
  exact others v mem settles

/-- Nobody pays in vain. When a session was opened for an accepted form, whatever happened at the
desk before, and whatever other customers do there afterwards: once the session is reported as paid,
the sale is fulfilled, its row is complete, and the customer is paid up for its year. The numbers of
rows are those of 64 bits. -/
theorem paid_sale_is_fulfilled (before later : List Visit) {form : Site.MembershipForm}
    (accepted : form.complaints = []) {σ σ' : Type} (provider : PaymentProvider σ) (state : σ)
    (settings : Settings) (now : Instant) (session : CheckoutSession) (amount : Int) {entry : Sale}
    (opened : ((Visit.starts provider state settings now form.order).serve (initial.after before)).1 =
      .opened session)
    (entered : entry = Checkout.entry (initial.after before) settings now form.order)
    (numbered : Text.fitsSigned 64 entry.id = true)
    (others : ∀ v ∈ later, v.saleId? ≠ some entry.id)
    (provider' : PaymentProvider σ') (state' : σ') (settings' : Settings) (now' : Instant)
    (reported : provider'.ReportsPaid state' session.id
      (Checkout.sessionRequest settings entry amount))
    (clock : now'.InYears 1 9998) :
    ∃ sale d', (Visit.returns provider' state' settings' now' session.id).serve
        (initial.after (before ++ .starts provider state settings now form.order :: later)) =
          (.settled (.fulfilled sale), d') ∧
      sale.id = entry.id ∧ sale.status = .complete ∧
      d'.store.sales.find? entry.id = some sale.record ∧
      d'.store.Covers sale.primary.userId entry.year := by
  have installed := initial_installed.after
    (before ++ .starts provider state settings now form.order :: later)
  rw [after_append, after_cons] at installed ⊢
  obtain ⟨⟨_, charged⟩, row⟩ := Visit.serve_opened opened
  subst entered
  obtain ⟨sale, d', settled, same, complete, row, year⟩ := Checkout.settle_entered installed settings' session.id
    (row_after later row others) charged (Site.MembershipForm.email_not_blank accepted) clock
  have settles := Visit.saleId?_returns settings' now' Store.Table.nextId_pos numbered reported
  have served := Visit.serve_of_settle _ settles settled
  have paid := Visit.serve_paidFor installed (Visit.completes_of_told (congrArg Prod.fst served))
  rw [served, year] at paid
  exact ⟨sale, d', served, same, complete, row, paid.covers List.mem_cons_self⟩

/-- A couple waits for its payment to be reported while another customer comes back. -/
theorem couple_is_fulfilled_after_another :
    let couple : Site.MembershipForm :=
      { firstName := "Pierre", lastName := "Curie", email := "curie@example.org"
        associateFirstName := "Marie", associateLastName := "Curie", donationToMuseum := "2.50" }
    let before := [Visit.sampleStart 1757930400
      { firstName := "Ada", lastName := "Lovelace", email := "ada@example.org" }]
    let later := [Visit.sampleReturn 1757934000 1]
    let entry := Checkout.entry (initial.after before) .sample (.ofSeconds 1757930460 0) couple.order
    ∃ sale d', (Visit.sampleReturn 1757937600 2).serve
        (initial.after (before ++ .sampleStart 1757930460 couple :: later)) =
          (.settled (.fulfilled sale), d') ∧
      sale.id = entry.id ∧ sale.status = .complete ∧
      d'.store.sales.find? entry.id = some sale.record ∧
      d'.store.Covers sale.primary.userId entry.year := by
  intro couple before later entry
  refine paid_sale_is_fulfilled before later (by decide +kernel) Sandbox.provider {} .sample
    (.ofSeconds 1757930460 0)
    ⟨Sandbox.sessionId 1, "https://checkout.example.org/pay/" ++ Sandbox.sessionId 1⟩ 3250
    (by decide +kernel) rfl (by decide +kernel) (by decide +kernel) Sandbox.provider _ .sample _ ?_
    (by decide +kernel)
  exact ⟨_, _, rfl, by decide +kernel, by decide +kernel⟩

end Desk

end Dues
