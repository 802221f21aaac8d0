import Dues.Proofs.Payment.SessionForm
import Dues.Proofs.Purchase.Footprint
import Dues.Proofs.Purchase.Legibility
import Dues.Proofs.Site.Acceptance
import Dues.Proofs.Site.Thanks

/-! # Who writes, and what the answers mean

Two requests write: the one that sends in an accepted form to be paid for, and the one that comes
back from the payment provider. What was written can be told from the answer, with two exceptions.
Nobody can be sent on to an address that fits into no header, so whoever was to pay there gets no
answer at all. Nor does whoever comes back while the calendar in London has no date: the sale has
just been completed then, and the notes behind it are interrupted.
-/

namespace Dues

open Dues.Payment
open Dues.Time (Instant)

/-- A sale that waited for its payment has become complete, and nothing else has changed but what
there is about its household. -/
structure Store.Completes (sale : Sale) (s s' : Store) : Prop where
  pending : ∃ record, s.sales.find? sale.id = some record ∧ record.status = .pending
  complete : s'.Completed sale.id sale.record
  rest : s.Footprint sale s'

namespace Store.Completes

variable {d mid d' : Desk} {sale : Sale} {saleId : Int} {paymentId : String} {now : Instant}
  {withAssociate : Bool}

theorem of_fulfil (h : d.store.Legible)
    (ok : Fulfilment.fulfil saleId paymentId now withAssociate d = .ok (.fulfilled sale) mid) :
    d.store.Completes sale mid.store := by
  obtain ⟨rfl, complete⟩ := Fulfilment.fulfil_sale ok
  obtain ⟨order, settings, priced, _, _, row⟩ := Fulfilment.fulfil_charged h ok
  exact ⟨⟨_, row, (order.price_unpaid settings priced).status⟩, ⟨Fulfilment.fulfil_row ok, complete⟩,
    .of_fulfil ok⟩

theorem noted {settings : Settings} (h : d.store.Completes sale mid.store)
    (frame : mid.Frame [.values] d') (kept : Household.keep settings sale now mid = .ok () d') :
    d.store.Completes sale d'.store where
  pending := h.pending
  complete := by
    refine ⟨?_, h.complete.2⟩
    rw [frame.store.sales (by decide)]
    exact h.complete.1
  rest := h.rest.noted frame ((Household.keep_confined _ _ _ _ _).of_ok kept h.rest.confined)

end Store.Completes

/-- A provider that keeps account of its sessions, and leaves them alone where one is looked up. -/
structure Payment.PaymentProvider.KeepsSessions {σ : Type} (provider : PaymentProvider σ)
    (sessions : σ → List CheckoutRequest) : Prop extends provider.Accounts sessions where
  lookedUp : ∀ sessionId state, sessions (provider.afterLookup sessionId state) = sessions state

theorem Payment.Sandbox.keepsSessions : provider.KeepsSessions Sandbox.sessions where
  toAccounts := accounts
  lookedUp sessionId sandbox := by
    dsimp only [PaymentProvider.afterLookup, provider, findSession, bind, EStateM.bind, get,
      getThe, MonadStateOf.get, EStateM.get]
    cases sandbox.sessions.zipIdx.find? fun s => Sandbox.sessionId (s.2 + 1) == sessionId <;> rfl

namespace Checkout

variable {σ : Type} {settings : Settings} {provider : PaymentProvider σ} {now : Instant}
  {sessionId : String} {d : Desk} {state : σ} {saleId : Int}

/-- A session is reported as paid, with a reference that is the number of a sale. -/
def PaidFor (provider : PaymentProvider σ) (state : σ) (sessionId : String) (saleId : Int) : Prop :=
  ∃ details after, provider.findSession sessionId state = .ok details after ∧
    details.status = paid ∧ saleOfReference details.reference = some saleId

/-- A session is reported as paid, and whoever looks its sale up in the book finds it complete. -/
def Redeemed (provider : PaymentProvider σ) (state : σ) (sessionId : String) (d : Desk) : Prop :=
  ∃ saleId sale, PaidFor provider state sessionId saleId ∧ SaleBook.find saleId d = .ok sale d ∧
    sale.status = .complete

theorem paidFor_iff : PaidFor provider state sessionId saleId ↔
    (Visit.returns provider state settings now sessionId).saleId? = some saleId := by
  dsimp only [PaidFor, Visit.saleId?]
  cases provider.findSession sessionId state with
  | error e after => simp
  | ok details after => simp [settledBy_eq_some]

/-- What can become of a session that is to be completed, at a desk whose sales can be read. -/
inductive Finished (settings : Settings) (provider : PaymentProvider σ) (now : Instant)
    (sessionId : String) (d : Desk) (state : σ) :
    EStateM.Result (Stop CheckoutError) (Counter σ) Outcome → Prop
  | refused (e : StepError) (d' : Desk) (store : d'.store = d.store)
      (idle : (Visit.returns provider state settings now sessionId).completes d = none)
      (unredeemed : ¬ Redeemed provider state sessionId d') :
      Finished settings provider now sessionId d state
        (.error (.failure (.postPayment e)) ⟨d', provider.afterLookup sessionId state⟩)
  | told (outcome : Outcome) (d' : Desk) (redeemed : Redeemed provider state sessionId d')
      (wrote : d'.store = d.store ∨ ∃ sale, d.store.Completes sale d'.store)
      (dated : ∀ sale, (Visit.returns provider state settings now sessionId).completes d =
        some sale → ∃ today, Time.London.today now = .ok today) :
      Finished settings provider now sessionId d state
        (.ok outcome ⟨d', provider.afterLookup sessionId state⟩)
  | interrupted (fault : Fault) (sale : Sale) (d' : Desk)
      (redeemed : Redeemed provider state sessionId d') (wrote : d.store.Completes sale d'.store)
      (completes : (Visit.returns provider state settings now sessionId).completes d = some sale)
      (undated : ∀ today, Time.London.today now ≠ .ok today) :
      Finished settings provider now sessionId d state
        (.error (.fault fault) ⟨d', provider.afterLookup sessionId state⟩)

theorem settle_finished (h : d.store.Legible) (paid : PaidFor provider state sessionId saleId) :
    Finished settings provider now sessionId d state (Counter.atDesk
      (settle settings now saleId sessionId) toCheckoutError
        ⟨d, provider.afterLookup sessionId state⟩) := by
  have settles : (Visit.returns provider state settings now sessionId).saleId? = some saleId :=
    paidFor_iff.mp paid
  have told : ∀ sale, SaleBook.find saleId d = .ok sale d → sale.status = .complete →
      settle settings now saleId sessionId d = .ok (.alreadyComplete sale) d :=
    fun sale => settle_complete
  have settled := settle_settled settings now saleId sessionId d
  rw [Counter.atDesk]
  generalize settle settings now saleId sessionId d = r at told settled ⊢
  cases settled with
  | refused e d' frame unfulfilled =>
      refine .refused e d' frame.store.eq (Visit.completes_eq_none settles unfulfilled) ?_
      rintro ⟨other, sale, paid', found, complete⟩
      cases settles.symm.trans (paidFor_iff.mp paid')
      -- the desk is what it was before, so the sale would have been told to be complete
      obtain ⟨connected, entered, _⟩ := SaleBook.find_ok.mp found
      rw [frame.connected] at connected
      rw [frame.store.eq] at entered
      cases told sale (SaleBook.find_ok.mpr ⟨connected, entered, rfl⟩) complete
  | complete sale found complete =>
      refine .told _ d ⟨saleId, sale, paid, found, complete⟩ (.inl rfl) fun sale' completes => ?_
      obtain ⟨_, mid, same, fulfil⟩ := Visit.completes_eq_some.mp completes
      cases settles.symm.trans same
      cases fulfil.symm.trans (Fulfilment.fulfil_alreadyComplete.mpr ⟨found, complete, rfl⟩)
  | fulfilled sale mid d' fulfil frame kept =>
      obtain ⟨stored, found, complete⟩ := Fulfilment.find_of_fulfil h fulfil frame
      have connected := ((Fulfilment.fulfil_touches _ _ _ _).of_ok fulfil).connected.trans
        (Fulfilment.fulfil_connected fulfil)
      refine .told _ d' ⟨saleId, stored, paid, found, complete⟩
        (.inr ⟨sale, (Store.Completes.of_fulfil h fulfil).noted frame kept⟩) fun _ _ => ?_
      exact Household.keep_dated connected kept
  | interrupted sale mid d' fulfil frame fault faulted =>
      have quiet := frame.mono (List.nil_subset [.values])
      obtain ⟨stored, found, complete⟩ := Fulfilment.find_of_fulfil h fulfil quiet
      refine .interrupted fault sale d' ⟨saleId, stored, paid, found, complete⟩ ?_
        (Visit.completes_eq_some.mpr ⟨saleId, mid, settles, fulfil⟩) fun today dated => ?_
      · rw [frame.store.eq]
        exact .of_fulfil h fulfil
      · obtain ⟨_, _, _, _, charged, row⟩ := Fulfilment.fulfil_charged h fulfil
        obtain ⟨_, kept⟩ := keep_of_fulfil row charged dated fulfil mid
        cases kept.symm.trans faulted

theorem finish_finished (h : d.store.Legible) : Finished settings provider now sessionId d state
    (finish settings provider now sessionId ⟨d, state⟩) := by
  cases settles : (Visit.returns provider state settings now sessionId).saleId? with
  | none =>
      obtain ⟨e, unsettled⟩ := finish_unsettled settings provider now sessionId d state
        fun details after found => by
          dsimp only [Visit.saleId?] at settles
          rwa [found] at settles
      rw [unsettled]
      refine .refused e d rfl (by rw [Visit.completes, settles]) ?_
      rintro ⟨_, _, paid, _⟩
      cases settles.symm.trans (paidFor_iff.mp paid)
  | some saleId =>
      have paid : PaidFor provider state sessionId saleId := paidFor_iff.mpr settles
      obtain ⟨details, after, found, reported⟩ := paid
      have lookedUp : after = provider.afterLookup sessionId state := by
        rw [PaymentProvider.afterLookup, found]
      rw [finish_eq settings provider now sessionId d state after details found
        (settledBy_eq_some.mpr reported), lookedUp]
      exact settle_finished h ⟨details, after, found, reported⟩

end Checkout

namespace Site

variable {σ : Type} {settings : Settings} {provider : PaymentProvider σ} {now : Instant}
  {sessions : σ → List CheckoutRequest} {request : Request} {d : Desk} {state : σ}

/-- What there may be on the counter behind a request: what was there before; or a sale that waits
for its payment besides, and one more session at most; or one sale that is complete by now. -/
inductive Writes (sessions : σ → List CheckoutRequest) (request : Request) (c c' : Counter σ) : Prop
  | nothing (store : c'.desk.store = c.desk.store)
      (kept : sessions c'.provider = sessions c.provider)
  | begins (form : MembershipForm) (sale : Sale) (post : request.method = "POST")
      (path : request.path = "/checkout") (read : request.readForm = .ok form)
      (accepted : form.complaints = []) (pending : sale.status = .pending)
      (store : c'.desk.store = (Checkout.entered c.desk sale).store)
      (opened : sessions c'.provider = sessions c.provider ∨
        ∃ sent, sessions c'.provider = sessions c.provider ++ [sent])
  | completes (sale : Sale) (path : request.path = "/success")
      (store : c.desk.store.Completes sale c'.desk.store)
      (kept : sessions c'.provider = sessions c.provider)

/-- A request writes what it asks for, if it asks for anything. -/
theorem writes_of_answer (books : provider.KeepsSessions sessions) (h : d.store.Legible)
    (request : Request) : Writes sessions request ⟨d, state⟩
      (Counter.behind (answer settings provider now request ⟨d, state⟩)) := by
  rw [behind_answer]
  cases asks : request.errand? with
  | none => exact .nothing rfl rfl
  | some errand =>
      cases errand with
      | begins order =>
          obtain ⟨post, path, form, read, accepted, _⟩ := Request.begins_of_errand? asks
          have opening := Checkout.start_opening settings provider now order d state
          dsimp only [Option.elim, Errand.run]
          generalize Checkout.start settings provider now order ⟨d, state⟩ = r at opening
          cases opening with
          | unpriced stop uncharged => exact .nothing rfl rfl
          | unstored e unnumbered => exact .nothing rfl rfl
          | unopened amount charged e state' sent =>
              exact .begins form _ post path read accepted rfl rfl
                (.inl (books.refused _ _ _ _ sent))
          | opened amount charged session state' sent =>
              exact .begins form _ post path read accepted rfl rfl
                (.inr ⟨_, books.granted _ _ _ _ sent⟩)
      | completes sessionId =>
          obtain ⟨path, _⟩ := Request.completes_of_errand? asks
          have finished : Checkout.Finished settings provider now sessionId d state _ :=
            Checkout.finish_finished h
          dsimp only [Option.elim, Errand.run]
          generalize Checkout.finish settings provider now sessionId ⟨d, state⟩ = r at finished
          cases finished with
          | refused e d' store => exact .nothing store (books.lookedUp _ _)
          | told outcome d' redeemed wrote =>
              rcases wrote with store | ⟨sale, completes⟩
              · exact .nothing store (books.lookedUp _ _)
              · exact .completes sale path completes (books.lookedUp _ _)
          | interrupted fault sale d' redeemed wrote =>
              exact .completes sale path wrote (books.lookedUp _ _)

/-! ## Forms that are sent in to be paid for -/

/-- Whether an answer sends the customer on. -/
def Response.isRedirect (response : Response) : Bool :=
  decide (300 ≤ response.status ∧ response.status < 400)

theorem readForm_refused {response : Response} (refused : request.readForm = .error response) :
    response.isRedirect = false := by
  unfold Request.readForm at refused
  split at refused
  next =>
    dsimp only at refused
    split at refused
    next =>
      cases refused
      rfl
    next => cases refused
  next =>
    cases refused
    rfl

/-- The answer sends the customer on just where a session was opened. -/
def TellsOpening (sessions : σ → List CheckoutRequest) (c : Counter σ)
    (result : EStateM.Result Fault (Counter σ) Response) : Prop :=
  (∃ response after, result = .ok response after ∧ response.isRedirect = true) ↔
    ∃ sent, sessions (Counter.behind result).provider = sessions c.provider ++ [sent]

theorem TellsOpening.of_page {c c' : Counter σ} {response : Response}
    (plain : response.isRedirect = false) (kept : sessions c'.provider = sessions c.provider) :
    TellsOpening sessions c (.ok response c') := by
  constructor
  · rintro ⟨_, _, same, redirect⟩
    cases same
    cases plain.symm.trans redirect
  · rintro ⟨sent, grown⟩
    cases List.append_right_eq_self.mp (grown.symm.trans kept)

theorem TellsOpening.of_fault {c c' : Counter σ} {fault : Fault}
    (kept : sessions c'.provider = sessions c.provider) :
    TellsOpening sessions c (.error fault c') := by
  constructor
  · rintro ⟨_, _, same, _⟩
    cases same
  · rintro ⟨sent, grown⟩
    cases List.append_right_eq_self.mp (grown.symm.trans kept)

/-- A customer can be sent on to a session just where its address fits into a header. -/
theorem tellsOpening_give {c c' : Counter σ} {sent : CheckoutRequest} {url : String}
    (grown : sessions c'.provider = sessions c.provider ++ [sent]) :
    TellsOpening sessions c (give (Response.redirectTo url) c') ↔
      Response.fitsHeader url = true := by
  have opened : ∃ sent, sessions (Counter.behind (give (Response.redirectTo url) c')).provider =
      sessions c.provider ++ [sent] := by
    rw [behind_give]
    exact ⟨sent, grown⟩
  cases fits : Response.fitsHeader url with
  | true => exact iff_of_true ⟨fun _ => opened, fun _ => ⟨_, _, give_redirect fits c', rfl⟩⟩ rfl
  | false =>
      refine iff_of_false (fun tells => ?_) Bool.false_ne_true
      obtain ⟨_, _, same, _⟩ := tells.mpr opened
      cases (give_nowhere fits c').symm.trans same

theorem pay_tellsOpening (books : provider.KeepsSessions sessions) (form : MembershipForm) :
    TellsOpening sessions ⟨d, state⟩ (pay settings provider now form ⟨d, state⟩) ↔
      (form.complaints = [] → ∀ session after,
        Checkout.start settings provider now form.order ⟨d, state⟩ = .ok session after →
          Response.fitsHeader session.url = true) := by
  unfold pay
  split
  next accepted =>
    rw [List.isEmpty_iff] at accepted
    rw [forall_prop_of_true accepted, orFailurePage]
    have opening := Checkout.start_opening settings provider now form.order d state
    generalize Checkout.start settings provider now form.order ⟨d, state⟩ = r at opening
    cases opening with
    | unpriced stop uncharged =>
        refine iff_of_true ?_ (by rintro _ _ ⟨⟩)
        rcases Checkout.charge_error uncharged with ⟨e, rfl, _⟩ | ⟨fault, rfl⟩
        · exact .of_page rfl rfl
        · exact .of_fault rfl
    | unstored e unnumbered => exact iff_of_true (.of_page rfl rfl) (by rintro _ _ ⟨⟩)
    | unopened amount charged e state' sent =>
        exact iff_of_true (.of_page rfl (books.refused _ _ _ _ sent)) (by rintro _ _ ⟨⟩)
    | opened amount charged session state' sent =>
        rw [tellsOpening_give (books.granted _ _ _ _ sent)]
        constructor
        · rintro fits _ _ ⟨⟩
          exact fits
        · exact fun all => all _ _ rfl
  next refused =>
    exact iff_of_true (.of_page rfl rfl) fun accepted =>
      absurd (List.isEmpty_iff.mpr accepted) refused

theorem answer_tellsOpening (books : provider.KeepsSessions sessions)
    (post : request.method = "POST") (path : request.path = "/checkout") :
    TellsOpening sessions ⟨d, state⟩ (answer settings provider now request ⟨d, state⟩) ↔
      ∀ form session after, request.readForm = .ok form → form.complaints = [] →
        Checkout.start settings provider now form.order ⟨d, state⟩ = .ok session after →
          Response.fitsHeader session.url = true := by
  have found : Route.ofPath? request.path = some .checkout := by rw [path]; decide
  rw [answer_posted post found rfl]
  unfold answerPost orRefuse
  cases read : request.readForm with
  | error response =>
      exact iff_of_true (.of_page (readForm_refused read) rfl) (by rintro _ _ _ ⟨⟩)
  | ok form =>
      dsimp only
      rw [if_pos rfl, pay_tellsOpening books form]
      constructor
      · rintro fits _ session after ⟨⟩ accepted
        exact fits accepted session after
      · exact fun fits accepted session after => fits form session after rfl accepted

/-! ## Customers who come back -/

theorem readSessionId_refused {response : Response}
    (refused : request.readSessionId = .error response) : response.status = 400 := by
  unfold Request.readSessionId at refused
  dsimp only at refused
  split at refused
  next =>
    cases refused
    rfl
  next => cases refused

/-- The session that a request names is reported as paid, and its sale is found complete. -/
def Request.Redeemed (request : Request) (provider : PaymentProvider σ) (state : σ) (d : Desk) :
    Prop :=
  ∃ sessionId, request.readSessionId = .ok sessionId ∧
    Checkout.Redeemed provider state sessionId d

/-- The answer to a customer who comes back is that of success where the sale is complete by now, on
the strength of a session that is reported as paid. Otherwise it is an error and nothing has been
written, and whoever has named a session sees the page for failures behind the payment. -/
structure TellsCompletion (settings : Settings) (provider : PaymentProvider σ)
    (sessions : σ → List CheckoutRequest) (request : Request) (c : Counter σ)
    (result : EStateM.Result Fault (Counter σ) Response) : Prop where
  success : (∃ response after, result = .ok response after ∧ response.status = 200) ↔
    request.Redeemed provider c.provider (Counter.behind result).desk
  failure : ¬ request.Redeemed provider c.provider (Counter.behind result).desk →
    ∃ response after, result = .ok response after ∧ 400 ≤ response.status ∧
      after.desk.store = c.desk.store ∧ sessions after.provider = sessions c.provider ∧
      ∀ sessionId, request.readSessionId = .ok sessionId →
        response = .page 500 (Page.postPaymentPage settings)

theorem TellsCompletion.of_refusal {response : Response} {c : Counter σ}
    (refused : request.readSessionId = .error response) :
    TellsCompletion settings provider sessions request c (.ok response c) := by
  have status := readSessionId_refused refused
  have nobody : ¬ request.Redeemed provider c.provider c.desk := by
    rintro ⟨sessionId, named, _⟩
    cases refused.symm.trans named
  refine ⟨iff_of_false ?_ nobody, fun _ => ⟨response, c, rfl, status.ge, rfl, rfl, ?_⟩⟩
  · rintro ⟨_, _, same, ok⟩
    cases same
    cases status.symm.trans ok
  · intro sessionId named
    cases refused.symm.trans named

/-- Whoever comes back is told what became of the sale, if it has a date to be completed on. -/
theorem answer_tellsCompletion (books : provider.KeepsSessions sessions) (h : d.store.Legible)
    (get : request.method = "GET") (path : request.path = "/success")
    (dated : ∀ sessionId sale, request.readSessionId = .ok sessionId →
      (Visit.returns provider state settings now sessionId).completes d = some sale →
        ∃ today, Time.London.today now = .ok today) :
    TellsCompletion settings provider sessions request ⟨d, state⟩
      (answer settings provider now request ⟨d, state⟩) := by
  rw [answer_success get path, answerGet]
  cases read : request.readSessionId with
  | error response => exact .of_refusal read
  | ok sessionId =>
      have finished : Checkout.Finished settings provider now sessionId d state _ :=
        Checkout.finish_finished h
      dsimp only [orRefuse, orFailurePage]
      generalize Checkout.finish settings provider now sessionId ⟨d, state⟩ = r at finished
      cases finished with
      | refused e d' store idle unredeemed =>
          refine ⟨iff_of_false ?_ ?_, fun _ => ?_⟩
          · rintro ⟨_, _, same, ok⟩
            cases same
            cases ok
          · rintro ⟨other, named, redeemed⟩
            cases read.symm.trans named
            exact unredeemed redeemed
          · have error : 400 ≤ 500 := by decide
            exact ⟨_, _, rfl, error, store, books.lookedUp _ _, fun _ _ => rfl⟩
      | told outcome d' redeemed =>
          have redeemed : request.Redeemed provider state d' := ⟨sessionId, read, redeemed⟩
          exact ⟨iff_of_true ⟨_, _, rfl, rfl⟩ redeemed, fun none => absurd redeemed none⟩
      | interrupted fault sale d' redeemed wrote completes undated =>
          obtain ⟨today, dated⟩ := dated sessionId sale read completes
          exact absurd dated (undated today)

/-- Without a date the sale is completed all the same, and there is no answer. -/
theorem answer_fails_of_undated (h : d.store.Legible) (get : request.method = "GET")
    (path : request.path = "/success") {sessionId : String}
    (read : request.readSessionId = .ok sessionId) {sale : Sale}
    (completes : (Visit.returns provider state settings now sessionId).completes d = some sale)
    (undated : ∀ today, Time.London.today now ≠ .ok today) :
    (∃ fault after, answer settings provider now request ⟨d, state⟩ = .error fault after ∧
      request.Redeemed provider state after.desk) ∧
    ¬ TellsCompletion settings provider sessions request ⟨d, state⟩
      (answer settings provider now request ⟨d, state⟩) := by
  rw [answer_success get path, answerGet, read]
  have finished : Checkout.Finished settings provider now sessionId d state _ :=
    Checkout.finish_finished h
  dsimp only [orRefuse, orFailurePage]
  generalize Checkout.finish settings provider now sessionId ⟨d, state⟩ = r at finished
  cases finished with
  | refused e d' store idle => cases idle.symm.trans completes
  | told outcome d' redeemed wrote dated =>
      obtain ⟨today, dated⟩ := dated sale completes
      exact absurd dated (undated today)
  | interrupted fault _ d' redeemed =>
      have redeemed : request.Redeemed provider state d' := ⟨sessionId, read, redeemed⟩
      refine ⟨⟨fault, _, rfl, redeemed⟩, fun tells => ?_⟩
      obtain ⟨_, _, same, _⟩ := tells.success.mpr redeemed
      cases same

/-- Whatever visits have led to the store, whether or not it can be reached, and whatever is
requested: what is written is one sale that waits for its payment, with one session at most, where
an accepted form is sent in to be paid for; or one sale is completed, where somebody comes back from
the provider; or it is nothing. Whoever sends in a form to be paid for is sent on just where a
session was opened, if and only if its address fits into a header. Whoever comes back is told what
became of the sale, if and only if there is a date in London or the request has not completed any. -/
theorem writes_and_answers (books : provider.KeepsSessions sessions) (visits : List Visit)
    (c : Counter σ) (reached : c.desk.store = (Desk.initial.after visits).store)
    (settings : Settings) (now : Instant) (request : Request) :
    let result := answer settings provider now request c
    Writes sessions request c (Counter.behind result) ∧
    (request.method = "POST" → request.path = "/checkout" →
      (TellsOpening sessions c result ↔
        ∀ form session after, request.readForm = .ok form → form.complaints = [] →
          Checkout.start settings provider now form.order c = .ok session after →
            Response.fitsHeader session.url = true)) ∧
    (request.method = "GET" → request.path = "/success" →
      (TellsCompletion settings provider sessions request c result ↔
        ∀ sessionId sale, request.readSessionId = .ok sessionId →
          (Visit.returns provider c.provider settings now sessionId).completes c.desk = some sale →
            ∃ today, Time.London.today now = .ok today)) := by
  have legible : c.desk.store.Legible := by
    rw [reached]
    exact Desk.legible_after visits
  refine ⟨writes_of_answer books legible request, answer_tellsOpening books, fun get path => ?_⟩
  constructor
  · intro tells sessionId sale read completes
    by_contra undated
    exact (answer_fails_of_undated legible get path read completes (not_exists.mp undated)).2 tells
  · exact answer_tellsCompletion books legible get path

/-- A couple comes back with its payment. -/
theorem couple_is_completed_and_told :
    let c : Counter Sandbox := ⟨Desk.initial.after Desk.couple, Desk.couplePaid⟩
    let now := Instant.ofSeconds 1757934000 0
    let result := answer .sample Sandbox.provider now Desk.coupleReturns c
    Writes Sandbox.sessions Desk.coupleReturns c (Counter.behind result) ∧
      (∃ response after, result = .ok response after ∧ response.status = 200) ∧
      Desk.coupleReturns.Redeemed Sandbox.provider Desk.couplePaid (Counter.behind result).desk := by
  intro c now result
  obtain ⟨writes, _, tells⟩ := writes_and_answers Sandbox.keepsSessions Desk.couple c rfl .sample now
    Desk.coupleReturns
  have clock : now.InYears 1 9998 := by decide +kernel
  have dated := Time.London.today_ok (by decide) clock.1 clock.2
  have success := ((tells rfl (by decide)).mpr fun _ _ _ _ => dated).success
  have status : (match result with
      | .ok response _ => response.status == 200
      | .error _ _ => false) = true := by decide +kernel
  have thanked : ∃ response after, result = .ok response after ∧ response.status = 200 := by
    cases answered : result with
    | error fault after =>
        rw [answered] at status
        cases status
    | ok response after =>
        rw [answered] at status
        exact ⟨response, after, rfl, beq_iff_eq.mp status⟩
  exact ⟨writes, thanked, success.mp thanked⟩

/-- The sandbox, with one address for all of its sessions. -/
def leadingTo (url : String) : PaymentProvider Sandbox where
  openSession request := do
    let session ← Sandbox.openSession request
    return { session with url }
  findSession := Sandbox.findSession

theorem leadingTo_keepsSessions (url : String) :
    (leadingTo url).KeepsSessions Sandbox.sessions where
  granted request sandbox session after asked := by
    dsimp only [leadingTo, bind, EStateM.bind] at asked
    cases opened : Sandbox.openSession request sandbox with
    | ok session' after' =>
        rw [opened] at asked
        cases asked
        exact Sandbox.accounts.granted _ _ _ _ opened
    | error e after' =>
        rw [opened] at asked
        cases asked
  refused request sandbox e after asked := by
    dsimp only [leadingTo, bind, EStateM.bind] at asked
    cases opened : Sandbox.openSession request sandbox with
    | ok session' after' =>
        rw [opened] at asked
        cases asked
    | error e' after' =>
        rw [opened] at asked
        cases asked
        exact Sandbox.accounts.refused _ _ _ _ opened
  lookedUp := Sandbox.keepsSessions.lookedUp

/-- The address of a session, with a line break behind it. -/
def brokenUrl : String := "https://checkout.example.org/pay/cs_test_1\n"

/-- The octets of an answer that hands out this address. -/
def brokenBody : List UInt8 :=
  "\x7b\"id\":\"cs_test_1\",\"url\":\"https://checkout.example.org/pay/cs_test_1\\n\"\x7d".toList.map
    fun c => UInt8.ofNat c.toNat

/-- Ada sends in her form to pay for it. -/
def adaPays : Request where
  method := "POST"
  target := "/checkout"
  contentType := some "application/x-www-form-urlencoded"
  body := "first_name=Ada&last_name=Lovelace&email=ada%40example.org"

/-- Ada has joined, and has sent in the form again a year later. -/
def adaAgain : List Visit :=
  let form : MembershipForm :=
    { firstName := "Ada", lastName := "Lovelace", email := "ada@example.org" }
  [.sampleStart 1726394400 form, .sampleReturn 1726398000 1, .sampleStart 1757930400 form]

/-- Both payments of Ada's. -/
def adaPaid : Sandbox :=
  { sessions := [⟨2000, "1", "", "", none, ""⟩, ⟨2000, "2", "", "", none, ""⟩] }

/-- Ada comes back with the second one. -/
def adaReturns : Request := { method := "GET", target := "/success?session_id=cs_test_2" }

/-- The provider opens a session for Ada, and the address in its answer ends with a line break. So
there is a session, and Ada is not sent there. Nor does she get an answer when she comes back in the
first minute that a clock can show: the calendar in London has no date yet, and her sale is completed
all the same. -/
theorem ada_gets_no_answer :
    let start := Instant.ofSeconds 1757930400 0
    let paying := answer .sample (leadingTo brokenUrl) start adaPays ⟨.initial, {}⟩
    let c : Counter Sandbox := ⟨Desk.initial.after adaAgain, adaPaid⟩
    let now := Instant.ofSeconds (-8334601228800) 0
    let returning := answer .sample Sandbox.provider now adaReturns c
    (HostedAccount.readOpenAnswer (some ⟨200, brokenBody⟩) = .ok ⟨"cs_test_1", brokenUrl⟩ ∧
      (∃ after, paying = .error .invalidAddress after ∧ after.provider.sessions.length = 1) ∧
      ¬ TellsOpening Sandbox.sessions ⟨.initial, {}⟩ paying) ∧
    (∃ fault after, returning = .error fault after ∧
      adaReturns.Redeemed Sandbox.provider adaPaid after.desk) ∧
    ¬ TellsCompletion .sample Sandbox.provider Sandbox.sessions adaReturns c returning := by
  intro start paying c now returning
  let ada : MembershipForm :=
    { firstName := "Ada", lastName := "Lovelace", email := "ada@example.org" }
  have told : HostedAccount.readOpenAnswer (some ⟨200, brokenBody⟩) =
      .ok ⟨"cs_test_1", brokenUrl⟩ :=
    HostedAccount.readOpenAnswer_success rfl (by decide +kernel)
  have accepted : ada.complaints = [] := by decide +kernel
  have unfit : Response.fitsHeader brokenUrl = false := by decide +kernel
  have charged : Checkout.charge (ada.order.price .sample start) = .ok 2000 := by decide +kernel
  have sends : adaPays.Sends ada "/checkout" := ⟨rfl, by decide, rfl⟩
  obtain ⟨session, after, started, url, sessions⟩ : ∃ session after,
      Checkout.start .sample (leadingTo brokenUrl) start ada.order ⟨.initial, {}⟩ =
        .ok session after ∧ session.url = brokenUrl ∧ after.provider.sessions.length = 1 :=
    ⟨_, _, Checkout.start_charged Desk.initial_installed charged rfl, rfl, rfl⟩
  have unanswered : answer .sample (leadingTo brokenUrl) start adaPays ⟨.initial, {}⟩ =
      .error .invalidAddress after := by
    rw [answer_checkout sends, pay, accepted, List.isEmpty_nil, if_pos rfl, orFailurePage, started]
    exact give_nowhere (url ▸ unfit) after
  have silent : ¬ TellsOpening Sandbox.sessions ⟨.initial, {}⟩ paying := by
    rw [answer_tellsOpening (leadingTo_keepsSessions brokenUrl) sends.method sends.path]
    intro fits
    exact Bool.false_ne_true
      (unfit.symm.trans (url ▸ fits ada session after sends.read accepted started))
  have completed : ((Visit.returns Sandbox.provider adaPaid .sample now "cs_test_2").completes
      (Desk.initial.after adaAgain)).isSome = true := by decide +kernel
  obtain ⟨sale, completes⟩ := Option.isSome_iff_exists.mp completed
  have undated : ∀ today, Time.London.today now ≠ .ok today := by
    have none : (Time.London.today now).toBool = false := by decide +kernel
    intro today dated
    rw [dated] at none
    cases none
  have read : adaReturns.readSessionId = .ok "cs_test_2" := rfl
  exact ⟨⟨told, ⟨after, unanswered, sessions⟩, silent⟩, answer_fails_of_undated
    (Desk.legible_after adaAgain) rfl (by decide) read completes undated⟩

end Site

end Dues
