import Dues.Proofs.Purchase.Progress
import Dues.Proofs.Purchase.Recorded

/-! # Starting a purchase

The sale is in the book before the provider is asked for a session, and stays there whatever the
provider answers. Nothing else is left behind by a start. Rows are numbered upwards, so the number
that the provider gives back stands for one sale only.
-/

namespace Dues

open Dues.Payment
open Dues.Time (Instant)

/-- The row of a sale that waits for its payment. -/
structure SaleRecord.Unpaid (record : SaleRecord) : Prop where
  status : record.status = .pending
  paymentId : record.paymentId = ""
  primary : record.primary.userRef = none
  associate : record.associate.userRef = none

theorem Order.price_unpaid (order : Order) (settings : Settings) (now : Instant) :
    (order.price settings now).record.Unpaid := by
  have nobody : ∀ (applicant : Applicant) (fee : Money.Decimal),
      userRef (applicant.participant settings fee).userId = none := fun _ _ => rfl
  refine ⟨rfl, rfl, nobody order.primary settings.ordinaryFee, ?_⟩
  change (if (order.associateParticipant settings).isPresent then
    userRef (order.associateParticipant settings).userId else none) = none
  split
  next =>
    unfold Order.associateParticipant
    split
    next => rfl
    next =>
      split
      next => exact nobody _ _
      next => rfl
  next => rfl

namespace Payment

variable {σ : Type}

/-- A provider keeps account of its sessions: one for each request that it grants, and no other. -/
structure PaymentProvider.Accounts (provider : PaymentProvider σ)
    (sessions : σ → List CheckoutRequest) : Prop where
  granted : ∀ request state session state', provider.openSession request state = .ok session state' →
    sessions state' = sessions state ++ [request]
  refused : ∀ request state e state', provider.openSession request state = .error e state' →
    sessions state' = sessions state

theorem Sandbox.openSession_cases (request : CheckoutRequest) (sandbox : Sandbox) :
    (∃ e after, Sandbox.openSession request sandbox = .error e after ∧
      after.sessions = sandbox.sessions) ∨
    ∃ session after, Sandbox.openSession request sandbox = .ok session after ∧
      after.sessions = sandbox.sessions ++ [request] := by
  obtain ⟨sessions, status, reference, rejection⟩ := sandbox
  cases rejection with
  | some turnedDown => exact .inl ⟨_, _, rfl, rfl⟩
  | none => exact .inr ⟨_, _, rfl, rfl⟩

theorem Sandbox.accounts : provider.Accounts Sandbox.sessions := by
  constructor <;> intro request sandbox _ _ asked
  · rcases openSession_cases request sandbox with ⟨_, _, refused, _⟩ | ⟨_, _, granted, kept⟩
    · cases refused.symm.trans asked
    · cases granted.symm.trans asked
      exact kept
  · rcases openSession_cases request sandbox with ⟨_, _, refused, kept⟩ | ⟨_, _, granted, _⟩
    · cases refused.symm.trans asked
      exact kept
    · cases granted.symm.trans asked

end Payment

/-- The counter behind a step of a purchase that succeeded or failed. -/
def Counter.behind {σ ε α : Type} : EStateM.Result ε (Counter σ) α → Counter σ
  | .ok _ c => c
  | .error _ c => c

namespace Checkout

variable {σ : Type} {d : Desk} {settings : Settings} {provider : PaymentProvider σ} {now : Instant}
  {order : Order} {state : σ}

theorem charge_error {sale : Sale} {stop : Stop CheckoutError} (h : charge sale = .error stop) :
    (∃ e : StepError, stop = .failure (.prePayment e) ∧ e.saleId = 0) ∨
      ∃ fault, stop = .fault fault := by
  unfold charge at h
  split at h
  next fault _ =>
    cases h
    exact .inr ⟨fault, rfl⟩
  next total _ =>
    split at h
    next =>
      split at h
      next fault _ =>
        cases h
        exact .inr ⟨fault, rfl⟩
      next =>
        cases h
        exact .inl ⟨_, rfl, rfl⟩
      next => cases h
    next =>
      cases h
      exact .inl ⟨_, rfl, rfl⟩

end Checkout

namespace Visit

variable {d : Desk}

theorem serve_nextId (v : Visit) (d : Desk) :
    d.store.sales.nextId ≤ (v.serve d).2.store.sales.nextId := by
  have effect := v.serve_effect d
  generalize v.serve d = r at effect
  cases effect with
  | idle answer d' frame => exact Int.le_of_eq (by rw [frame.store.eq])
  | enters answer d' order desk =>
      subst desk
      rw [Checkout.entered, Store.Table.nextId_insert]
      omega
  | fulfils sale completes mid d' fulfil frame =>
      rw [frame.store.sales (by simp), Fulfilment.fulfil_sales fulfil]
      exact Int.le_refl _

theorem serve_opened_nextId {v : Visit} {session : CheckoutSession}
    (opened : (v.serve d).1 = .opened session) :
    (v.serve d).2.store.sales.nextId = d.store.sales.nextId + 1 := by
  cases v with
  | settles settings now saleId paymentId =>
      dsimp only [serve] at opened
      split at opened <;> cases opened
  | returns provider state settings now sessionId =>
      dsimp only [serve] at opened
      split at opened <;> cases opened
  | starts provider state settings now order =>
      have opening := Checkout.start_opening settings provider now order d state
      dsimp only [serve] at opened ⊢
      generalize Checkout.start settings provider now order ⟨d, state⟩ = r at opening opened
      cases opening with
      | unpriced => cases opened
      | unstored => cases opened
      | unopened => cases opened
      | opened => exact Store.Table.nextId_insert _

end Visit

namespace Desk

/-- The numbers of the sales that sessions were opened for in a run. -/
def begun (d : Desk) : List Visit → List Int
  | [] => []
  | v :: visits =>
      match (v.serve d).1 with
      | .opened _ => d.store.sales.nextId :: begun (v.serve d).2 visits
      | _ => begun (v.serve d).2 visits

theorem nextId_le_begun {d : Desk} (visits : List Visit) :
    ∀ id ∈ d.begun visits, d.store.sales.nextId ≤ id := by
  induction visits generalizing d with
  | nil => exact fun id mem => nomatch mem
  | cons v visits ih =>
      intro id mem
      rw [begun] at mem
      split at mem
      next =>
        rcases List.mem_cons.mp mem with rfl | mem
        · exact Int.le_refl _
        · exact Int.le_trans (v.serve_nextId d) (ih id mem)
      next => exact Int.le_trans (v.serve_nextId d) (ih id mem)

theorem begun_ascending (d : Desk) (visits : List Visit) : (d.begun visits).Pairwise (· < ·) := by
  induction visits generalizing d with
  | nil => exact List.Pairwise.nil
  | cons v visits ih =>
      rw [begun]
      split
      next session opened =>
        refine List.pairwise_cons.mpr ⟨fun id mem => ?_, ih _⟩
        have taken := Visit.serve_opened_nextId opened
        have later := nextId_le_begun visits id mem
        omega
      next => exact ih _

end Desk

namespace Checkout

variable {σ : Type} (settings : Settings) (provider : PaymentProvider σ) (now : Instant)
  (order : Order) (d : Desk) (state : σ)

/-- A start that fails has come as far as the request for a session, and then the sale is there that
the failure tells, or it has done nothing. -/
theorem start_error {stop : Stop CheckoutError} {c : Counter σ}
    (failed : start settings provider now order ⟨d, state⟩ = .error stop c) :
    (c = ⟨d, state⟩ ∧ (∀ e, stop = .failure e → ∃ step, e = .prePayment step ∧ step.saleId = 0) ∧
      ∀ fault, stop = .fault fault → charge (order.price settings now) = .error stop) ∨
    (c.desk = entered d (order.price settings now) ∧ ∃ request e,
      provider.openSession request state = .error e c.provider ∧
      stop = .failure (.prePayment
        ⟨"create payment session", d.store.sales.nextId, .payment e⟩)) := by
  have opening := start_opening settings provider now order d state
  rw [failed] at opening
  cases opening with
  | unpriced _ uncharged =>
      refine .inl ⟨rfl, fun e same => ?_, fun _ _ => uncharged⟩
      subst same
      rcases charge_error uncharged with ⟨step, same, number⟩ | ⟨fault, same⟩
      · cases same
        exact ⟨step, rfl, number⟩
      · cases same
  | unstored step number =>
      refine .inl ⟨rfl, fun e same => ?_, fun fault same => nomatch same⟩
      cases same
      exact ⟨step, rfl, number⟩
  | unopened amount _ e _ sent => exact .inr ⟨rfl, _, e, sent, rfl⟩

theorem start_frame :
    d.Frame [.sales] (Counter.behind (start settings provider now order ⟨d, state⟩)).desk := by
  have opening := start_opening settings provider now order d state
  generalize start settings provider now order ⟨d, state⟩ = r at opening
  cases opening with
  | unpriced => exact .refl d
  | unstored => exact .refl d
  | unopened => exact entered_frame d _
  | opened => exact entered_frame d _

/-- What a start leaves behind, at any desk and with any provider.

If it succeeds, one row is added, which is that of the order as priced, waits for its payment, and
stays until the sale is completed. The provider has been asked for one session, for the pennies of
the total, and with a reference that leads back to the row, as the numbers of rows are those of 64
bits. If the provider refuses, the row is there as well, and the failure tells its number. If it
fails earlier, nothing has been done. Accounts, members and values are never touched, every failure
is one before the payment, and no two sales of a run have the same number. -/
theorem start_leaves_pending_sale :
    (∀ session c, start settings provider now order ⟨d, state⟩ = .ok session c →
      c.desk = entered d (order.price settings now) ∧
      d.store.sales.find? d.store.sales.nextId = none ∧
      (order.price settings now).record.Unpaid ∧
      (∀ visits, (c.desk.after visits).store.sales.find? d.store.sales.nextId =
          some (order.price settings now).record ∨
        ∃ done, (c.desk.after visits).store.Completed d.store.sales.nextId done) ∧
      ∃ request total, provider.openSession request state = .ok session c.provider ∧
        (∀ sessions, provider.Accounts sessions →
          sessions c.provider = sessions state ++ [request]) ∧
        (order.price settings now).total = .ok total ∧
        total.pennies = .ok (some request.amount) ∧
        (Text.fitsSigned 64 d.store.sales.nextId = true →
          saleOfReference (some request.reference) = some d.store.sales.nextId)) ∧
    (∀ stop c, start settings provider now order ⟨d, state⟩ = .error stop c →
      (c = ⟨d, state⟩ ∧ (∀ e, stop = .failure e → ∃ step, e = .prePayment step ∧ step.saleId = 0) ∧
        ∀ fault, stop = .fault fault → charge (order.price settings now) = .error stop) ∨
      (c.desk = entered d (order.price settings now) ∧
        (order.price settings now).record.Unpaid ∧ ∃ request e,
          provider.openSession request state = .error e c.provider ∧
          (∀ sessions, provider.Accounts sessions → sessions c.provider = sessions state) ∧
          stop = .failure (.prePayment
            ⟨"create payment session", d.store.sales.nextId, .payment e⟩))) ∧
    d.Frame [.sales] (Counter.behind (start settings provider now order ⟨d, state⟩)).desk ∧
    ∀ visits, (d.begun visits).Pairwise (· < ·) := by
  refine ⟨fun session c started => ?_, fun stop c failed => ?_,
    start_frame settings provider now order d state, d.begun_ascending⟩
  · obtain ⟨amount, charged, desk, sent⟩ := start_ok started
    obtain ⟨total, summed, _, priced⟩ := charge_ok charged
    have row : c.desk.store.sales.find? d.store.sales.nextId =
        some (order.price settings now).record := by
      rw [desk, entered, Store.Table.find?_insert, if_pos rfl]
    refine ⟨desk, Store.Table.find?_nextId, order.price_unpaid settings now,
      fun visits => Desk.row_or_completed row visits, _, total, sent, ?_, summed, priced, ?_⟩
    · exact fun sessions accounts => accounts.granted _ _ _ _ sent
    · exact saleOfReference_digits Store.Table.nextId_pos
  · rcases start_error settings provider now order d state failed with
      nothing | ⟨desk, request, e, sent, told⟩
    · exact .inl nothing
    · refine .inr ⟨desk, order.price_unpaid settings now, request, e, sent, ?_, told⟩
      exact fun sessions accounts => accounts.refused _ _ _ _ sent

/-- A customer sends in an order, to a provider that grants a session and to one that does not. -/
theorem start_granted_and_refused :
    let form : Site.MembershipForm :=
      { firstName := "Ada", lastName := "Lovelace", email := "ada@example.org" }
    let now := Instant.ofSeconds 1757930400 0
    let started := fun sandbox : Sandbox =>
      start .sample Sandbox.provider now form.order ⟨Desk.initial, sandbox⟩
    (∃ session c request, started {} = .ok session c ∧ c.provider.sessions = [request] ∧
      c.desk = entered Desk.initial (form.order.price .sample now) ∧
      saleOfReference (some request.reference) = some 1) ∧
    ∃ stop c e, started { rejection := some (402, "declined") } = .error stop c ∧
      c.desk = entered Desk.initial (form.order.price .sample now) ∧
      c.provider.sessions = [] ∧
      stop = .failure (.prePayment ⟨"create payment session", 1, .payment e⟩) := by
  intro form now started
  have first : Desk.initial.store.sales.nextId = 1 := by decide +kernel
  have leaves := fun sandbox =>
    start_leaves_pending_sale .sample Sandbox.provider now form.order Desk.initial sandbox
  rw [first] at leaves
  let visit := fun sandbox => Visit.starts Sandbox.provider sandbox .sample now form.order
  constructor
  · have granted : ((visit {}).serve Desk.initial).1.stop? = none := by decide +kernel
    dsimp only [visit, Visit.serve] at granted
    split at granted
    next session c ran =>
      obtain ⟨desk, _, _, _, request, _, _, sessions, _, _, reference⟩ :=
        (leaves {}).1 session c ran
      exact ⟨session, c, request, ran, sessions _ Sandbox.accounts, desk,
        reference (by decide +kernel)⟩
    next stop c ran =>
      cases stop with
      | failure e => cases granted
      | fault fault => cases granted
  · let declines : Sandbox := { rejection := some (402, "declined") }
    have refused : ((visit declines).serve Desk.initial).1.stop?.isSome = true := by decide +kernel
    have entry : ((visit declines).serve Desk.initial).2.store.sales.rows.length = 1 := by
      decide +kernel
    dsimp only [visit, Visit.serve] at refused entry
    cases ran : start .sample Sandbox.provider now form.order ⟨Desk.initial, declines⟩ with
    | ok session c =>
        rw [ran] at refused
        cases refused
    | error stop c =>
        rw [ran] at entry
        rcases (leaves declines).2.1 stop c ran with
          ⟨nothing, _⟩ | ⟨desk, _, _, e, _, sessions, told⟩
        · rw [nothing] at entry
          change Desk.initial.store.sales.rows.length = 1 at entry
          exact absurd entry (by decide +kernel)
        · exact ⟨stop, c, e, ran, desk, sessions _ Sandbox.accounts, told⟩

end Checkout

end Dues
