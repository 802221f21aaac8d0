import Dues.Payment.Hosted
import Dues.Proofs.Site.Requests

/-! # Evidence of payment

A sale waits until the provider reports a session as paid and gives back the number of the sale.
Whoever looks at a completed sale can tell the call that brought that evidence. What was sold, to
whom and for which year stays as it was entered.
-/

namespace Dues

open Dues.Payment
open Dues.Text (trim)
open Dues.Time (Instant)

namespace Payment

/-- A provider in the state that it is in. No session goes without a name. -/
structure Cashier : Type 1 where
  {σ : Type}
  provider : PaymentProvider σ
  state : σ
  named : ∀ details after, provider.findSession "" state ≠ .ok details after

namespace Cashier

def sandbox (sandbox : Sandbox) : Cashier where
  provider := Sandbox.provider
  state := sandbox
  named details after found := by
    change Sandbox.findSession "" sandbox = _ at found
    have nameless : (sandbox.sessions.zipIdx.find? fun s =>
        Sandbox.sessionId (s.2 + 1) == "") = none := by
      refine List.find?_eq_none.mpr fun s _ same => ?_
      have empty := congrArg String.toList (beq_iff_eq.mp same)
      rw [Sandbox.sessionId, String.toList_append] at empty
      exact absurd (List.append_eq_nil_iff.mp empty).1 (by decide)
    unfold Sandbox.findSession at found
    dsimp only [bind, EStateM.bind, get, getThe, MonadStateOf.get, EStateM.get] at found
    rw [nameless] at found
    cases found

/-- A hosted account does not even ask for a session without a name. -/
def hosted {σ : Type} (account : HostedAccount) (transport : Transport σ) (state : σ) : Cashier where
  provider := account.provider transport
  state := state
  named details after found := by
    change account.findSession transport "" state = _ at found
    have nameless : HostedAccount.isSessionId "" = false := by decide
    rw [HostedAccount.findSession, nameless] at found
    cases found

end Cashier

end Payment

/-- A purchase is begun or completed as such, or by a request to the site. -/
inductive Approach where
  | errand (errand : Errand)
  | request (request : Site.Request)

structure Call : Type 1 where
  cashier : Cashier
  settings : Settings
  now : Instant
  approach : Approach

namespace Call

def errand? (call : Call) : Option Errand :=
  match call.approach with
  | .errand errand => some errand
  | .request request => request.errand?

/-- The desk behind a call. -/
def make (d : Desk) (call : Call) : Desk :=
  match call.approach with
  | .errand (.begins order) =>
      (Counter.behind (Checkout.start call.settings call.cashier.provider call.now order
        ⟨d, call.cashier.state⟩)).desk
  | .errand (.completes sessionId) =>
      (Counter.behind (Checkout.finish call.settings call.cashier.provider call.now sessionId
        ⟨d, call.cashier.state⟩)).desk
  | .request request =>
      (Counter.behind (Site.answer call.settings call.cashier.provider call.now request
        ⟨d, call.cashier.state⟩)).desk

def visits (call : Call) : List Visit :=
  (call.errand?.map
    (Errand.visit call.settings call.cashier.provider call.cashier.state call.now)).toList

theorem make_eq (d : Desk) (call : Call) : call.make d = d.after call.visits := by
  obtain ⟨cashier, settings, now, approach⟩ := call
  cases approach with
  | errand errand =>
      cases errand with
      | begins order => exact (Visit.serve_starts settings _ now order d _).symm
      | completes sessionId => exact (Visit.serve_returns settings _ now sessionId d _).symm
  | request request => exact Site.desk_answer request

/-- A call asks for a session to be completed that the provider reports as paid, with a reference
that reads as the number of the sale. -/
structure Pays (call : Call) (saleId : Int) (sessionId : String) : Prop where
  asks : call.errand? = some (.completes sessionId)
  reported : ∃ details after reference,
    call.cashier.provider.findSession sessionId call.cashier.state = .ok details after ∧
    details.status = "paid" ∧ details.reference = some reference ∧
    Text.readSigned? 64 (trim reference).toList = some saleId

end Call

namespace Checkout

theorem saleOfReference_eq_some {reference : Option String} {id : Int}
    (h : saleOfReference reference = some id) : ∃ text, reference = some text ∧
      Text.readSigned? 64 (trim text).toList = some id := by
  obtain ⟨text, same, read⟩ := Option.bind_eq_some_iff.mp h
  obtain ⟨number, numbered, positive⟩ := Option.bind_eq_some_iff.mp read
  split at positive
  next =>
    cases positive
    exact ⟨text, same, numbered⟩
  next => cases positive

end Checkout

/-- What settles a sale in a call is that the call pays for it, with a session that has a name. -/
theorem Call.pays_of_settles {call : Call} {v : Visit} {saleId : Int} (mem : v ∈ call.visits)
    (settles : v.saleId? = some saleId) :
    v.paymentId ≠ "" ∧ call.Pays saleId v.paymentId := by
  obtain ⟨errand, asks, rfl⟩ := Option.map_eq_some_iff.mp (Option.mem_toList.mp mem)
  cases errand with
  | begins order => cases settles
  | completes sessionId =>
      dsimp only [Errand.visit, Visit.saleId?] at settles
      dsimp only [Errand.visit, Visit.paymentId]
      split at settles
      next details after found =>
        unfold Checkout.settledBy at settles
        split at settles
        next paid =>
          obtain ⟨reference, same, read⟩ := Checkout.saleOfReference_eq_some settles
          constructor
          · rintro rfl
            exact call.cashier.named details after found
          · exact ⟨asks, details, after, reference, found, beq_iff_eq.mp paid, same, read⟩
        next => cases settles
      next => cases settles

namespace SaleRecord

/-- The row of a sale that has been paid. -/
structure Paid (record : SaleRecord) : Prop where
  status : record.status = .complete
  paymentId : record.paymentId ≠ ""
  primary : ∃ userId, record.primary.userRef = some userId ∧ 0 < userId
  associate : record.associate.firstName = "" → record.associate.userRef = none

end SaleRecord

/-- What a row tells of a person, but for their account and what they pay. -/
def ParticipantRecord.terms (person : ParticipantRecord) : ParticipantRecord :=
  { person with userRef := none, fee := .ofDecimal .zero, friendFee := .ofDecimal .zero }

/-- What a row tells of the sale, but for its progress, the accounts and the amounts. -/
def SaleRecord.terms (record : SaleRecord) : SaleRecord :=
  { record with
    status := .pending
    paymentId := ""
    kind := .newMember
    primary := record.primary.terms
    associate := record.associate.terms
    donationToSociety := .ofDecimal .zero
    donationToMuseum := .ofDecimal .zero }

/-- A row stays as it is, or becomes complete and keeps its terms. -/
structure SaleRecord.Follows (later record : SaleRecord) : Prop where
  terms : later.terms = record.terms
  completed : later = record ∨ (record.status ≠ .complete ∧ later.status = .complete)

namespace SaleRecord.Follows

variable {first second third : SaleRecord}

theorem refl (record : SaleRecord) : record.Follows record := ⟨rfl, .inl rfl⟩

theorem trans (h : third.Follows second) (h' : second.Follows first) : third.Follows first where
  terms := h.terms.trans h'.terms
  completed := by
    rcases h.completed with rfl | ⟨pending, complete⟩
    · exact h'.completed
    · rcases h'.completed with rfl | ⟨_, done⟩
      · exact .inr ⟨pending, complete⟩
      · exact absurd done pending

end SaleRecord.Follows

theorem ParticipantRecord.terms_participant {r : ParticipantRecord} {p : Participant}
    (read : r.participant? = some p) (userId : Int) (ref : Option Int) :
    ({ p with userId }.record ref).terms = r.terms := by
  obtain ⟨fee, friendFee, _, _, rfl⟩ := participant?_eq_some.mp read
  rfl

namespace Fulfilment

variable {d d' : Desk} {saleId : Int} {paymentId : String} {now : Instant} {withAssociate : Bool}
  {sale : Sale} {row : SaleRecord}

theorem fulfil_follows (ok : fulfil saleId paymentId now withAssociate d = .ok (.fulfilled sale) d')
    (entered : d.store.sales.find? saleId = some row) : sale.record.Follows row := by
  obtain ⟨entry, result, mid, looked, pending, all, rfl, _⟩ := fulfil_ok ok
  obtain ⟨_, row', found, read⟩ := Store.sale?_ok.mp looked
  cases entered.symm.trans found
  obtain ⟨found, primaryId, associateId, rfl⟩ := provideAll_provided all
  refine ⟨?_, .inr ⟨fun complete => ?_, rfl⟩⟩
  · obtain ⟨primary, associate, _, _, readPrimary, readAssociate, _, _, rfl⟩ :=
      SaleRecord.sale?_eq_some.mp read
    have first := ParticipantRecord.terms_participant readPrimary primaryId (userRef primaryId)
    have second := fun ref =>
      ParticipantRecord.terms_participant readAssociate associateId ref
    unfold SaleRecord.terms
    dsimp only [Sale.record, provided]
    rw [first, second]
  · exact pending ((SaleRecord.sale?_id read).2.trans complete)

/-- A sale that is fulfilled at an installed desk is one that has been paid. -/
theorem fulfil_paid (h : d.Installed) (named : paymentId ≠ "")
    (ok : fulfil saleId paymentId now withAssociate d = .ok (.fulfilled sale) d') :
    sale.record.Paid := by
  obtain ⟨entry, found, between, primaryId, associateId, _, rfl, provides⟩ := fulfil_provides h ok
  have positive := userId_pos provides.primary
  refine ⟨rfl, named, ⟨primaryId, if_pos positive, positive⟩, fun absent => ?_⟩
  refine if_neg ?_
  change ¬ (!entry.associate.firstName.isEmpty) = true
  change entry.associate.firstName = "" at absent
  rw [absent]
  decide

end Fulfilment

namespace Visit

variable {d : Desk} {i : Int} {record : SaleRecord}

/-- A row that is there behind a visit was there before, or is that of a new sale, or that of the
sale which the visit completes. -/
theorem serve_row_cases (v : Visit) (row : (v.serve d).2.store.sales.find? i = some record) :
    d.store.sales.find? i = some record ∨ record.Unpaid ∨
      ∃ sale, v.completes d = some sale ∧ sale.id = i ∧ record = sale.record := by
  have effect := v.serve_effect d
  generalize v.serve d = r at effect row
  cases effect with
  | idle answer d' frame =>
      rw [frame.store.eq] at row
      exact .inl row
  | enters answer d' order desk =>
      subst desk
      rw [Checkout.entered, Store.Table.find?_insert] at row
      split at row
      next =>
        cases row
        exact .inr (.inl (order.price_unpaid v.settings v.now))
      next => exact .inl row
  | fulfils sale completes mid d' fulfil frame =>
      rw [frame.store.sales (by simp), Fulfilment.fulfil_sales fulfil, SaleBook.find?_replaced] at row
      obtain ⟨old, found, same⟩ := Option.map_eq_some_iff.mp row
      split at same
      next own => exact .inr (.inr ⟨sale, completes, own.symm, same.symm⟩)
      next =>
        cases same
        exact .inl found

theorem serve_follows (v : Visit) (row : d.store.sales.find? i = some record) :
    ∃ later, (v.serve d).2.store.sales.find? i = some later ∧ later.Follows record := by
  by_cases own : ∃ sale, v.completes d = some sale ∧ sale.id = i
  · obtain ⟨sale, completes, rfl⟩ := own
    obtain ⟨mid, fulfil, frame⟩ := serve_completes completes
    refine ⟨sale.record, ?_, Fulfilment.fulfil_follows fulfil row⟩
    rw [frame.store.sales (by simp)]
    exact Fulfilment.fulfil_row fulfil
  · refine ⟨record, v.serve_row row fun sale completes same => ?_, .refl record⟩
    exact own ⟨sale, completes, same⟩

end Visit

namespace Desk

variable {d : Desk} {i : Int} {record : SaleRecord}

theorem follows_after (row : d.store.sales.find? i = some record) (visits : List Visit) :
    ∃ later, (d.after visits).store.sales.find? i = some later ∧ later.Follows record := by
  refine after_induction (P := fun d => ∃ later, d.store.sales.find? i = some later ∧
    later.Follows record) visits ⟨record, row, .refl record⟩ ?_
  rintro d v _ ⟨between, row, before⟩
  obtain ⟨later, row, behind⟩ := v.serve_follows row
  exact ⟨later, row, behind.trans before⟩

/-- The desk behind all calls. -/
def afterCalls (d : Desk) (calls : List Call) : Desk := calls.foldl Call.make d

theorem afterCalls_eq (d : Desk) (calls : List Call) :
    d.afterCalls calls = d.after (calls.flatMap Call.visits) := by
  induction calls generalizing d with
  | nil => rfl
  | cons call calls ih =>
      rw [List.flatMap_cons, after_append, ← Call.make_eq]
      exact ih (call.make d)

/-- Every sale waits for its payment, or has been paid in one of the calls. -/
def Vouched (calls : List Call) (d : Desk) : Prop :=
  ∀ i record, d.store.sales.find? i = some record →
    record.Unpaid ∨ record.Paid ∧ ∃ call ∈ calls, call.Pays i record.paymentId

theorem Vouched.serve {calls : List Call} (h : Vouched calls d) (installed : d.Installed)
    {call : Call} (made : call ∈ calls) {v : Visit} (mem : v ∈ call.visits) :
    Vouched calls (v.serve d).2 := by
  intro i record row
  rcases v.serve_row_cases row with before | unpaid | ⟨sale, completes, rfl, rfl⟩
  · exact h i record before
  · exact .inl unpaid
  · obtain ⟨saleId, mid, settles, fulfil⟩ := Visit.completes_eq_some.mp completes
    obtain ⟨named, pays⟩ := Call.pays_of_settles mem settles
    have paymentId := Fulfilment.fulfil_paymentId fulfil
    refine .inr ⟨Fulfilment.fulfil_paid installed named fulfil, call, made, ?_⟩
    change call.Pays sale.id sale.paymentId
    rw [(Fulfilment.fulfil_sale fulfil).1, paymentId]
    exact pays

theorem vouched_after (calls : List Call) : Vouched calls (initial.afterCalls calls) := by
  rw [afterCalls_eq]
  refine (after_induction (P := fun d => d.Installed ∧ Vouched calls d) _
    ⟨initial_installed, fun i record row => ?_⟩ fun d v mem h => ?_).2
  · have empty := initial.store.sales.find?_of_empty (i := i) (by decide +kernel)
    cases row.symm.trans empty
  · obtain ⟨call, made, mem⟩ := List.mem_flatMap.mp mem
    exact ⟨h.1.of_frame (v.serve_frame d), h.2.serve h.1 made mem⟩

/-- A sale is complete only on evidence of payment. Whatever has been called for since the
installation, with whatever settings, clocks and providers: each sale waits for its payment, or it
has been paid, and one of the calls has asked for the session that it was paid in, while the
provider reported that session as paid and gave back the number of the sale. From there on a sale
can only become complete, and keeps its terms. -/
theorem sales_complete_on_payment (calls : List Call)
    (row : (initial.afterCalls calls).store.sales.find? i = some record) :
    (record.Unpaid ∨ record.Paid ∧ ∃ call ∈ calls, call.Pays i record.paymentId) ∧
    ∀ later, ∃ behind, (initial.afterCalls (calls ++ later)).store.sales.find? i = some behind ∧
      behind.terms = record.terms ∧
      (behind = record ∨ record.status = .pending ∧ behind.status = .complete) := by
  have vouched := vouched_after calls i record row
  refine ⟨vouched, fun later => ?_⟩
  rw [afterCalls_eq] at row
  rw [afterCalls_eq, List.flatMap_append, after_append]
  obtain ⟨behind, row, terms, completed⟩ := follows_after row (later.flatMap Call.visits)
  refine ⟨behind, row, terms, completed.imp_right fun ⟨incomplete, complete⟩ => ⟨?_, complete⟩⟩
  rcases vouched with unpaid | ⟨paid, _⟩
  · exact unpaid.status
  · exact absurd paid.status incomplete

/-- A customer is sent back to the site by the provider. -/
theorem sale_completed_by_request :
    let form : Site.MembershipForm :=
      { firstName := "Ada", lastName := "Lovelace", email := "ada@example.org" }
    let calls : List Call :=
      [⟨.sandbox {}, .sample, .ofSeconds 1757930400 0, .errand (.begins form.order)⟩,
        ⟨.sandbox { sessions := [⟨2000, "1", "", "", none, ""⟩] }, .sample, .ofSeconds 1757934000 0,
          .request { method := "GET", target := "/success?session_id=cs_test_1" }⟩]
    ∃ record, (initial.afterCalls calls).store.sales.find? 1 = some record ∧ record.Paid ∧
      ∃ call ∈ calls, call.Pays 1 record.paymentId := by
  intro form calls
  have completed : ((initial.afterCalls calls).store.sales.find? 1).any
      (fun record => record.status = .complete) = true := by decide +kernel
  obtain ⟨record, row, complete⟩ := (Option.any_eq_true _ _).mp completed
  rcases (sales_complete_on_payment calls row).1 with unpaid | paid
  · cases unpaid.status.symm.trans (of_decide_eq_true complete)
  · exact ⟨record, row, paid⟩

end Desk

end Dues
