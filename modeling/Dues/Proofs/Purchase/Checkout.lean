import Dues.Proofs.Purchase.Fulfilment
import Dues.Purchase.Checkout

/-! # What a visit does to the store

The first visit enters a sale at most. The second one leaves the store as it is, or fulfils the sale
and then makes notes, which are profile values only.
-/

namespace Dues

open Dues.Action (Keeps Touches)
open Dues.Payment
open Dues.Time (Instant)

variable {d d' : Desk} {settings : Settings} {now : Instant} {saleId : Int} {paymentId : String}

namespace Household

theorem note_touches {ε : Type} (n : Note) : Touches [.values] (note n : Action ε Unit) := by
  intro d
  have frame := Register.setValue_touches n.field n.userId n.value d
  unfold note
  cases ran : Register.setValue n.field n.userId n.value d with
  | ok _ d' => rwa [ran] at frame
  | error e d' => rwa [ran] at frame

/-- A note that cannot be made does what the attempt did. -/
theorem note_keeps {ε : Type} {P : Desk → Prop} {n : Note}
    (h : Keeps P (Register.setValue n.field n.userId n.value)) : Keeps P (note n : Action ε Unit) := by
  intro d before
  unfold note
  cases ran : Register.setValue n.field n.userId n.value d with
  | ok _ d' => exact h.of_ok ran before
  | error e d' => exact h.of_error ran before

theorem notes_keep {ε : Type} {P : Desk → Prop} {notes : List Note}
    (h : ∀ n ∈ notes, Keeps P (note n : Action ε Unit)) :
    Keeps P (notes.forM note : Action ε Unit) := by
  induction notes with
  | nil => exact .pure _
  | cons n notes ih =>
      have rest := ih fun n mem => h n (List.mem_cons_of_mem _ mem)
      exact (h n List.mem_cons_self).bind fun _ => rest

theorem note_succeeds {ε : Type} (n : Note) (d : Desk) :
    ∃ d', (note n : Action ε Unit) d = .ok () d' := by
  unfold note
  cases Register.setValue n.field n.userId n.value d with
  | ok _ d' => exact ⟨d', rfl⟩
  | error e d' => exact ⟨d', rfl⟩

theorem notes_touches {ε : Type} (notes : List Note) :
    Touches [.values] (notes.forM note : Action ε Unit) := by
  induction notes with
  | nil => exact .pure _
  | cons n notes ih => exact (note_touches n).bind fun _ => ih

theorem notes_succeed {ε : Type} (notes : List Note) (d : Desk) :
    ∃ d', (notes.forM note : Action ε Unit) d = .ok () d' := by
  induction notes generalizing d with
  | nil => exact ⟨d, rfl⟩
  | cons n notes ih =>
      obtain ⟨mid, noted⟩ := note_succeeds n d
      obtain ⟨d', rest⟩ := ih mid
      exact ⟨d', (Action.bind_of_ok noted).trans rest⟩

theorem orFault_touches {ε α : Type} (r : Except ε α) : Touches [] (orFault r) := by
  cases r with
  | ok a => exact .pure a
  | error e => exact .throw e

theorem record_touches (settings : Settings) (sale : Sale) (now : Instant) :
    Touches [.values] (record settings sale now) := by
  refine ((orFault_touches _).mono (List.nil_subset _)).bind fun today => ?_
  refine (notes_touches _).bind fun _ => ?_
  exact ((orFault_touches _).mono (List.nil_subset _)).bind fun total => notes_touches _

theorem record_succeeds (settings : Settings) {sale : Sale} {today : Time.Date}
    {total : Money.Decimal} (dated : Time.London.today now = .ok today)
    (summed : sale.total = .ok total) (d : Desk) :
    ∃ d', record settings sale now d = .ok () d' := by
  obtain ⟨d₁, first⟩ := notes_succeed (ε := Fault) (addressNotes sale today) d
  obtain ⟨d₂, second⟩ := notes_succeed (ε := Fault) (paymentNotes settings sale total) d₁
  refine ⟨d₂, ?_⟩
  unfold record
  rw [dated, summed]
  exact (Action.bind_of_ok rfl).trans
    ((Action.bind_of_ok first).trans ((Action.bind_of_ok rfl).trans second))

/-- The notes that are kept are those that were made. A fault takes them all back. -/
theorem keep_cases (settings : Settings) (sale : Sale) (now : Instant) (d : Desk) :
    (∃ d', keep settings sale now d = .ok () d' ∧ d.Frame [.values] d') ∨
      ∃ fault d', keep settings sale now d = .error fault d' ∧ d.Frame [] d' := by
  have touches := (record_touches settings sale now).orFail some
  unfold keep
  cases ran : ((record settings sale now).orFail some).transaction none d with
  | ok _ d' => exact .inl ⟨d', rfl, (touches.transaction none).of_ok ran⟩
  | error stop d' =>
      have frame := Action.transaction_error touches ran
      cases stop with
      | none => exact .inl ⟨d', rfl, frame.mono (List.nil_subset _)⟩
      | some fault => exact .inr ⟨fault, d', rfl, frame⟩

/-- Where there is a date and a total to be noted, nothing keeps the notes from being made as far as
they can be. -/
theorem keep_succeeds (settings : Settings) {sale : Sale} {today : Time.Date}
    {total : Money.Decimal} (dated : Time.London.today now = .ok today)
    (summed : sale.total = .ok total) (d : Desk) :
    ∃ d', keep settings sale now d = .ok () d' := by
  unfold keep
  cases connected : d.connected with
  | false => exact ⟨d, by rw [Action.transaction, connected]; rfl⟩
  | true =>
      obtain ⟨d', noted⟩ := record_succeeds settings dated summed d
      have kept : ((record settings sale now).orFail some).transaction none d = .ok () d' :=
        Action.transaction_ok.mpr ⟨connected, Action.orFail_ok.mpr noted⟩
      exact ⟨d', by rw [kept]⟩

end Household

/-- What a provider keeps once it has looked a session up. -/
def Payment.PaymentProvider.afterLookup {σ : Type} (provider : PaymentProvider σ)
    (sessionId : String) (state : σ) : σ :=
  match provider.findSession sessionId state with
  | .ok _ state' => state'
  | .error _ state' => state'

namespace Checkout

/-- What can become of a sale that is to be settled. -/
inductive Settled (settings : Settings) (now : Instant) (saleId : Int) (paymentId : String)
    (d : Desk) : EStateM.Result (Stop StepError) Desk Outcome → Prop
  | refused (e : StepError) (d' : Desk) (frame : d.Frame [] d')
      (unfulfilled : ∀ sale mid, Fulfilment.fulfil saleId paymentId now settings.otherMemberTypes d ≠
        .ok (.fulfilled sale) mid) :
      Settled settings now saleId paymentId d (.error (.failure e) d')
  | complete (sale : Sale) (found : SaleBook.find saleId d = .ok sale d)
      (status : sale.status = .complete) :
      Settled settings now saleId paymentId d (.ok (.alreadyComplete sale) d)
  | fulfilled (sale : Sale) (mid d' : Desk)
      (fulfil : Fulfilment.fulfil saleId paymentId now settings.otherMemberTypes d =
        .ok (.fulfilled sale) mid)
      (frame : mid.Frame [.values] d') (kept : Household.keep settings sale now mid = .ok () d') :
      Settled settings now saleId paymentId d (.ok (.fulfilled sale) d')
  | interrupted (sale : Sale) (mid d' : Desk)
      (fulfil : Fulfilment.fulfil saleId paymentId now settings.otherMemberTypes d =
        .ok (.fulfilled sale) mid)
      (frame : mid.Frame [] d') (fault : Fault)
      (faulted : Household.keep settings sale now mid = .error fault d') :
      Settled settings now saleId paymentId d (.error (.fault fault) d')

theorem settle_settled (settings : Settings) (now : Instant) (saleId : Int) (paymentId : String)
    (d : Desk) : Settled settings now saleId paymentId d (settle settings now saleId paymentId d) := by
  unfold settle
  have touches := Fulfilment.fulfil_touches saleId paymentId now settings.otherMemberTypes
  cases ran : (Fulfilment.fulfil saleId paymentId now settings.otherMemberTypes).transaction
      ⟨"transaction", saleId, .store .closed⟩ d with
  | error e d' =>
      rw [Action.bind_of_error (Action.orFail_of_error ran)]
      refine .refused e d' (Action.transaction_error touches ran) fun sale mid fulfil => ?_
      have connected := Fulfilment.fulfil_connected fulfil
      exact nomatch ran.symm.trans (Action.transaction_ok.mpr ⟨connected, fulfil⟩)
  | ok outcome mid =>
      rw [Action.bind_of_ok (Action.orFail_ok.mpr ran)]
      have fulfil := (Action.transaction_ok.mp ran).2
      cases outcome with
      | alreadyComplete sale =>
          obtain ⟨found, complete, rfl⟩ := Fulfilment.fulfil_alreadyComplete.mp fulfil
          exact .complete sale found complete
      | fulfilled sale =>
          dsimp only
          rcases Household.keep_cases settings sale now mid with
            ⟨d', kept, frame⟩ | ⟨fault, d', faulted, frame⟩
          · rw [Action.bind_of_ok (Action.orFail_ok.mpr kept)]
            exact .fulfilled sale mid d' fulfil frame kept
          · rw [Action.bind_of_error (Action.orFail_of_error faulted)]
            exact .interrupted sale mid d' fulfil frame fault faulted

theorem settle_succeeds {sale : Sale} {mid : Desk} {today : Time.Date} {total : Money.Decimal}
    (fulfil : Fulfilment.fulfil saleId paymentId now settings.otherMemberTypes d =
      .ok (.fulfilled sale) mid)
    (dated : Time.London.today now = .ok today) (summed : sale.total = .ok total) :
    ∃ d', settle settings now saleId paymentId d = .ok (.fulfilled sale) d' ∧
      mid.Frame [.values] d' := by
  have settled := settle_settled settings now saleId paymentId d
  generalize settle settings now saleId paymentId d = r at settled
  cases settled with
  | refused e d' frame unfulfilled => exact absurd fulfil (unfulfilled sale mid)
  | complete sale' found status =>
      cases fulfil.symm.trans (Fulfilment.fulfil_alreadyComplete.mpr ⟨found, status, rfl⟩)
  | fulfilled sale' mid' d' fulfil' frame =>
      cases fulfil'.symm.trans fulfil
      exact ⟨d', rfl, frame⟩
  | interrupted sale' mid' d' fulfil' frame fault faulted =>
      cases fulfil'.symm.trans fulfil
      obtain ⟨_, kept⟩ := Household.keep_succeeds settings dated summed mid
      cases kept.symm.trans faulted

variable {σ : Type} {provider : PaymentProvider σ} {order : Order} {state : σ}

/-- The desk once a sale has been entered in the book. -/
def entered (d : Desk) (sale : Sale) : Desk :=
  { d with store := { d.store with sales := d.store.sales.insert sale.record } }

theorem entered_frame (d : Desk) (sale : Sale) : d.Frame [.sales] (entered d sale) :=
  ⟨rfl, ⟨rfl, rfl, rfl, rfl, fun _ => rfl, fun _ => rfl, fun _ => rfl, by simp⟩,
    fun _ mem => .inl mem⟩

/-- The sale that an order is entered as. -/
def entry (d : Desk) (settings : Settings) (now : Instant) (order : Order) : Sale :=
  { order.price settings now with id := d.store.sales.nextId }

/-- What can become of an order that a customer sends in. It cannot be priced; or its sale cannot be
stored; or the provider is asked, once, to open a session for it, behind the entry in the book. -/
inductive Opening (settings : Settings) (provider : PaymentProvider σ) (now : Instant)
    (order : Order) (d : Desk) (state : σ) :
    EStateM.Result (Stop CheckoutError) (Counter σ) CheckoutSession → Prop
  | unpriced (stop : Stop CheckoutError)
      (uncharged : charge (order.price settings now) = .error stop) :
      Opening settings provider now order d state (.error stop ⟨d, state⟩)
  | unstored (e : StepError) (unnumbered : e.saleId = 0) :
      Opening settings provider now order d state (.error (.failure (.prePayment e)) ⟨d, state⟩)
  | unopened (amount : Int) (charged : charge (order.price settings now) = .ok amount)
      (e : PaymentError) (state' : σ)
      (sent : provider.openSession (sessionRequest settings (entry d settings now order) amount)
        state = .error e state') :
      Opening settings provider now order d state
        (.error (.failure (.prePayment
            ⟨"create payment session", d.store.sales.nextId, .payment e⟩))
          ⟨entered d (order.price settings now), state'⟩)
  | opened (amount : Int) (charged : charge (order.price settings now) = .ok amount)
      (session : CheckoutSession) (state' : σ)
      (sent : provider.openSession (sessionRequest settings (entry d settings now order) amount)
        state = .ok session state') :
      Opening settings provider now order d state
        (.ok session ⟨entered d (order.price settings now), state'⟩)

theorem start_opening (settings : Settings) (provider : PaymentProvider σ) (now : Instant)
    (order : Order) (d : Desk) (state : σ) : Opening settings provider now order d state
      (start settings provider now order ⟨d, state⟩) := by
  unfold start
  dsimp only
  cases charged : charge (order.price settings now) with
  | error stop => exact .unpriced stop charged
  | ok amount =>
      dsimp only [bind, EStateM.bind, Counter.atDesk, Counter.atProvider]
      cases connected : d.connected with
      | false =>
          rw [Action.transaction, connected]
          exact .unstored _ rfl
      | true =>
          rcases SaleBook.add_cases (order.price settings now) d with ⟨e, failed⟩ | added
          · rw [Action.transaction, connected, if_pos rfl, Action.orFail_of_error failed]
            exact .unstored _ rfl
          · rw [Action.transaction_ok.mpr ⟨connected, Action.orFail_ok.mpr added⟩]
            dsimp only
            cases sent : provider.openSession
                (sessionRequest settings (entry d settings now order) amount) state with
            | error e state' =>
                rw [entry] at sent
                rw [sent]
                exact .unopened amount charged e state' sent
            | ok session state' =>
                rw [entry] at sent
                rw [sent]
                exact .opened amount charged session state' sent

/-- What can become of an order: nothing at the desk, or an entry in the book. Only an order that can
be charged is entered, and the session is opened for what is charged. -/
inductive Started (settings : Settings) (provider : PaymentProvider σ) (now : Instant)
    (order : Order) (d : Desk) (state : σ) :
    EStateM.Result (Stop CheckoutError) (Counter σ) CheckoutSession → Prop
  | refused (e : Stop CheckoutError) (c : Counter σ) (frame : d.Frame [] c.desk) :
      Started settings provider now order d state (.error e c)
  | unanswered (amount : Int) (charged : charge (order.price settings now) = .ok amount)
      (e : Stop CheckoutError) (c : Counter σ)
      (desk : c.desk = entered d (order.price settings now)) :
      Started settings provider now order d state (.error e c)
  | opened (amount : Int) (charged : charge (order.price settings now) = .ok amount)
      (session : CheckoutSession) (c : Counter σ)
      (desk : c.desk = entered d (order.price settings now))
      (sent : provider.openSession (sessionRequest settings (entry d settings now order) amount)
        state = .ok session c.provider) :
      Started settings provider now order d state (.ok session c)

theorem start_started (settings : Settings) (provider : PaymentProvider σ) (now : Instant)
    (order : Order) (d : Desk) (state : σ) : Started settings provider now order d state
      (start settings provider now order ⟨d, state⟩) := by
  have opening := start_opening settings provider now order d state
  generalize start settings provider now order ⟨d, state⟩ = r at opening
  cases opening with
  | unpriced stop => exact .refused stop _ (.refl d)
  | unstored e => exact .refused _ _ (.refl d)
  | unopened amount charged => exact .unanswered amount charged _ _ rfl
  | opened amount charged session state' sent => exact .opened amount charged session _ rfl sent

theorem start_ok {session : CheckoutSession} {c : Counter σ}
    (ok : start settings provider now order ⟨d, state⟩ = .ok session c) :
    ∃ amount, charge (order.price settings now) = .ok amount ∧
      c.desk = entered d (order.price settings now) ∧
      provider.openSession (sessionRequest settings (entry d settings now order) amount) state =
        .ok session c.provider := by
  have started := start_started settings provider now order d state
  rw [ok] at started
  cases started with
  | opened amount charged _ _ desk sent => exact ⟨amount, charged, desk, sent⟩

/-- The sale that a reported session settles, if it has been paid. -/
def settledBy (details : SessionDetails) : Option Int :=
  if details.isPaid then saleOfReference details.reference else none

theorem settledBy_eq_some {details : SessionDetails} : settledBy details = some saleId ↔
    details.status = paid ∧ saleOfReference details.reference = some saleId := by
  unfold settledBy SessionDetails.isPaid
  split
  next same => simp [beq_iff_eq.mp same]
  next other => simp [mt beq_iff_eq.mpr other]

def toCheckoutError : Stop StepError → Stop CheckoutError
  | .failure e => .failure (.postPayment e)
  | .fault fault => .fault fault

/-- Only a session that is paid, and tells the sale that it was opened for, has a sale settled. -/
theorem finish_eq (settings : Settings) (provider : PaymentProvider σ) (now : Instant)
    (sessionId : String) (d : Desk) (state state' : σ) (details : SessionDetails)
    (found : provider.findSession sessionId state = .ok details state') {saleId : Int}
    (settles : settledBy details = some saleId) :
    finish settings provider now sessionId ⟨d, state⟩ =
      Counter.atDesk (settle settings now saleId sessionId) toCheckoutError ⟨d, state'⟩ := by
  unfold settledBy at settles
  split at settles
  next paid =>
    have fetched : Counter.atProvider (provider.findSession sessionId)
        (fun e => after "fetch payment session" 0 (.payment e)) ⟨d, state⟩ =
          (.ok details ⟨d, state'⟩ :
            EStateM.Result (Stop CheckoutError) (Counter σ) SessionDetails) := by
      rw [Counter.atProvider, found]
    unfold finish
    dsimp only [bind, EStateM.bind]
    rw [fetched]
    dsimp only
    rw [settles]
    dsimp only
    rw [if_pos paid]
    rfl
  next => cases settles

/-- A session that settles nothing leaves the desk as it is, and the provider as it is once the
session has been looked up. -/
theorem finish_unsettled (settings : Settings) (provider : PaymentProvider σ) (now : Instant)
    (sessionId : String) (d : Desk) (state : σ)
    (idle : ∀ details state', provider.findSession sessionId state = .ok details state' →
      settledBy details = none) :
    ∃ e, finish settings provider now sessionId ⟨d, state⟩ =
      .error (.failure (.postPayment e)) ⟨d, provider.afterLookup sessionId state⟩ := by
  unfold finish PaymentProvider.afterLookup
  dsimp only [bind, EStateM.bind, Counter.atProvider]
  cases found : provider.findSession sessionId state with
  | error e state' => exact ⟨_, rfl⟩
  | ok details state' =>
      have none := idle details state' found
      unfold settledBy at none
      dsimp only
      cases reference : saleOfReference details.reference with
      | none => exact ⟨_, rfl⟩
      | some saleId =>
          rw [reference] at none
          split at none
          next => cases none
          next unpaid =>
            dsimp only
            rw [if_neg unpaid]
            exact ⟨_, rfl⟩

end Checkout

end Dues
