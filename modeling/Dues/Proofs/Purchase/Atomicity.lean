import Dues.Proofs.Purchase.Progress

/-! # Completion is all or nothing

A sale that was entered at the start of a checkout is either completed or left alone, together with
everything else in the store. No state of the store is excluded: roles and profile fields may be
missing, and rows may be there that nobody expects. What can fail before the sale is complete fails
inside its transaction, and what comes behind it cannot fail, as the book gives back amounts that
have a sum.
-/

namespace Dues

open Dues.Payment
open Dues.Time (Date Instant)

namespace Checkout

variable {d : Desk} {settings : Settings} {now : Instant} {saleId : Int} {paymentId : String}
  {order : Order} {earlier : Settings} {started : Instant} {amount : Int} {sale : Sale}

/-- What is read from the book for an order that was charged is pending, and has a total, as its
amounts are small. -/
theorem entry_of_charged {entry : Sale}
    (row : d.store.sales.find? saleId = some (order.price earlier started).record)
    (charged : charge (order.price earlier started) = .ok amount)
    (entered : d.store.sale? saleId = .ok (some entry)) :
    entry.status = .pending ∧ entry.AmountsAtMost beyondReading ∧
      ∃ total, entry.total = .ok total := by
  obtain ⟨_, record, row', read⟩ := Store.sale?_ok.mp entered
  cases row.symm.trans row'
  obtain ⟨total, summed, positive, priced⟩ := charge_ok charged
  have small := Sale.amounts_atMost summed positive priced
  obtain ⟨entry', read', summable⟩ := Sale.sale?_succeeds saleId small Order.price_friendFee
  cases read.symm.trans read'
  exact ⟨(Sale.sale?_record read).1, summable⟩

/-- Where a sale that was charged has been fulfilled, the notes about it are kept at any desk, even
one that has lost its connection since. -/
theorem keep_of_fulfil {mid : Desk} {today : Date}
    (row : d.store.sales.find? saleId = some (order.price earlier started).record)
    (charged : charge (order.price earlier started) = .ok amount)
    (dated : Time.London.today now = .ok today)
    (fulfil : Fulfilment.fulfil saleId paymentId now settings.otherMemberTypes d =
      .ok (.fulfilled sale) mid) (later : Desk) :
    ∃ d', Household.keep settings sale now later = .ok () d' := by
  obtain ⟨entry, _, _, entered, _⟩ := Fulfilment.fulfil_ok fulfil
  obtain ⟨_, _, total, summed⟩ := entry_of_charged row charged entered
  have same := (Fulfilment.fulfil_entry fulfil entered).2
  exact Household.keep_succeeds settings dated (same.trans summed) later

/-- Settling a sale that was charged completes it, or fails and leaves the store as it was. -/
theorem settle_atomic {today : Date}
    (row : d.store.sales.find? saleId = some (order.price earlier started).record)
    (charged : charge (order.price earlier started) = .ok amount)
    (dated : Time.London.today now = .ok today) :
    (∃ sale mid d', Fulfilment.fulfil saleId paymentId now settings.otherMemberTypes d =
        .ok (.fulfilled sale) mid ∧
      settle settings now saleId paymentId d = .ok (.fulfilled sale) d' ∧
      d'.store.sales = mid.store.sales) ∨
    ∃ e d', settle settings now saleId paymentId d = .error (.failure e) d' ∧
      (∀ sale mid, Fulfilment.fulfil saleId paymentId now settings.otherMemberTypes d ≠
        .ok (.fulfilled sale) mid) ∧ d'.store = d.store := by
  have settled := settle_settled settings now saleId paymentId d
  generalize settle settings now saleId paymentId d = r at settled
  cases settled with
  | refused e d' frame unfulfilled =>
      apply Or.inr
      exact ⟨e, d', rfl, unfulfilled, frame.store.eq⟩
  | complete sale found status =>
      have entered := (SaleBook.find_ok.mp found).2.1
      have pending := (entry_of_charged row charged entered).1
      cases pending.symm.trans status
  | fulfilled sale mid d' fulfil frame =>
      apply Or.inl
      exact ⟨sale, mid, d', fulfil, rfl, frame.store.sales (by simp)⟩
  | interrupted sale mid d' fulfil frame fault faulted =>
      obtain ⟨_, kept⟩ := keep_of_fulfil row charged dated fulfil mid
      cases kept.symm.trans faulted

end Checkout

namespace Visit

variable {d : Desk} {σ : Type} {provider : PaymentProvider σ} {state : σ} {settings : Settings}
  {now : Instant} {order : Order}

theorem serve_recorded {record : SaleRecord}
    (recorded : ((starts provider state settings now order).serve d).2.store.sales.find?
      d.store.sales.nextId = some record) :
    record = (order.price settings now).record ∧
      ∃ amount, Checkout.charge (order.price settings now) = .ok amount := by
  have entered : ∀ d', d' = Checkout.entered d (order.price settings now) →
      d'.store.sales.find? d.store.sales.nextId = some record →
      record = (order.price settings now).record := by
    rintro _ rfl row
    rw [Checkout.entered, Store.Table.find?_insert, if_pos rfl] at row
    exact (Option.some.inj row).symm
  have start := Checkout.start_started settings provider now order d state
  dsimp only [serve] at recorded
  generalize Checkout.start settings provider now order ⟨d, state⟩ = r at start recorded
  cases start with
  | refused e c frame =>
      dsimp only at recorded
      rw [frame.store.eq, Store.Table.find?_nextId] at recorded
      cases recorded
  | unanswered amount charged e c desk => exact ⟨entered _ desk recorded, amount, charged⟩
  | opened amount charged session c desk => exact ⟨entered _ desk recorded, amount, charged⟩

theorem serve_unsettled {v : Visit} (completion : v.order? = none) (idle : v.saleId? = none) :
    ∃ e, (v.serve d).1.stop? = some (.failure e) ∧ (v.serve d).2.store = d.store := by
  cases v with
  | starts => cases completion
  | settles => cases idle
  | returns provider state settings now sessionId =>
      obtain ⟨e, unsettled⟩ := Checkout.finish_unsettled settings provider now sessionId d
        state fun details state' found => by
          dsimp only [saleId?] at idle
          rwa [found] at idle
      dsimp only [serve]
      rw [unsettled]
      exact ⟨e, rfl, rfl⟩

end Visit

/-- A sale that was recorded when a checkout was started is completed as a whole or not at all. The
visit that is to complete it may come to a desk in any state. It is told that the sale has been
fulfilled, and then the row is complete and carries the payment; or it is told what failed, and then
the store is what it was before. Once the sale is complete nothing fails any more: the visit is told
so, and the notes behind it come to their end wherever they are made. -/
theorem Desk.completion_is_atomic {σ : Type} (provider : PaymentProvider σ) (state : σ)
    (earlier : Settings) (started : Instant) (order : Order) (d₀ : Desk) {record : SaleRecord}
    (recorded : ((Visit.starts provider state earlier started order).serve d₀).2.store.sales.find?
      d₀.store.sales.nextId = some record)
    (d : Desk) (saleId : Int) (row : d.store.sales.find? saleId = some record)
    (v : Visit) (completion : v.order? = none)
    (own : ∀ other, v.saleId? = some other → other = saleId)
    {today : Date} (dated : Time.London.today v.now = .ok today) :
    ((∃ sale, v.completes d = some sale ∧ (v.serve d).1 = .settled (.fulfilled sale) ∧
        sale.status = .complete ∧ sale.paymentId = v.paymentId ∧
        (v.serve d).2.store.sales.find? saleId = some sale.record) ∨
      ∃ e, v.completes d = none ∧ (v.serve d).1.stop? = some (.failure e) ∧
        (v.serve d).2.store = d.store) ∧
    ∀ sale, v.completes d = some sale →
      ∀ later, ∃ d', Household.keep v.settings sale v.now later = .ok () d' := by
  obtain ⟨rfl, amount, charged⟩ := Visit.serve_recorded recorded
  cases settles : v.saleId? with
  | none =>
      have none : v.completes d = none := by rw [Visit.completes, settles]
      obtain ⟨e, stopped, same⟩ := Visit.serve_unsettled completion settles
      refine ⟨.inr ⟨e, none, stopped, same⟩, fun sale completes => ?_⟩
      cases none.symm.trans completes
  | some other =>
      obtain rfl := own other settles
      constructor
      · rcases Checkout.settle_atomic row charged dated with
          ⟨sale, mid, d', fulfil, settled, sales⟩ | ⟨e, d', failed, never, same⟩
        · apply Or.inl
          have served := v.serve_of_settle settles settled
          have complete := (Fulfilment.fulfil_sale fulfil).2
          refine ⟨sale, Visit.completes_eq_some.mpr ⟨other, mid, settles, fulfil⟩, ?_, complete,
            Fulfilment.fulfil_paymentId fulfil, ?_⟩
          · rw [served]
          · rw [served, sales]
            exact Fulfilment.fulfil_row fulfil
        · apply Or.inr
          have served := v.serve_settles d settles
          rw [failed] at served
          obtain ⟨answer, served, stopped⟩ := served
          refine ⟨e, Visit.completes_eq_none settles never, ?_, ?_⟩
          · rwa [served]
          · rw [served, same]
      · intro sale completes later
        obtain ⟨_, mid, settles', fulfil⟩ := Visit.completes_eq_some.mp completes
        cases settles.symm.trans settles'
        exact Checkout.keep_of_fulfil row charged dated fulfil later

/-- A customer comes back from the provider, to the desk as it is and to one that has lost the role
of the members. -/
theorem Desk.completion_with_and_without_role :
    let form : Site.MembershipForm :=
      { firstName := "Ada", lastName := "Lovelace", email := "ada@example.org" }
    let back := Visit.sampleReturn 1757934000 1
    let desk := initial.after [.sampleStart 1757930400 form]
    let robbed := { desk with store := { desk.store with
      roles := desk.store.roles.delete fun _ role => role.name == Register.memberRole } }
    (∃ sale, (back.serve desk).1 = .settled (.fulfilled sale) ∧ sale.status = .complete ∧
        (back.serve desk).2.store.sales.find? 1 = some sale.record) ∧
      ∃ e, (back.serve robbed).1.stop? = some (.failure e) ∧
        (back.serve robbed).2.store = robbed.store := by
  intro form back desk robbed
  have settles : back.saleId? = some 1 := by decide +kernel
  have own : ∀ other, back.saleId? = some other → other = 1 := by
    intro other same
    exact Option.some.inj (same.symm.trans settles)
  have clock : back.now.InYears 1 9998 := by decide +kernel
  obtain ⟨today, dated⟩ := Time.London.today_ok (by decide) clock.1 clock.2
  have recorded : ((Visit.sampleStart 1757930400 form).serve initial).2.store.sales.find?
      initial.store.sales.nextId =
        some (form.order.price .sample (.ofSeconds 1757930400 0)).record := by decide +kernel
  have atomic := completion_is_atomic Sandbox.provider {} .sample (.ofSeconds 1757930400 0)
    form.order initial recorded
  constructor
  · rcases (atomic desk 1 (by decide +kernel) back rfl own dated).1 with
      ⟨sale, _, told, complete, _, row⟩ | ⟨e, none, _⟩
    · exact ⟨sale, told, complete, row⟩
    · have completed : (back.completes desk).isSome = true := by decide +kernel
      rw [none] at completed
      cases completed
  · rcases (atomic robbed 1 (by decide +kernel) back rfl own dated).1 with
      ⟨sale, some, _⟩ | ⟨e, _, stopped, same⟩
    · have failed : (back.completes robbed).isSome = false := by decide +kernel
      rw [some] at failed
      cases failed
    · exact ⟨e, stopped, same⟩

end Dues
