import Dues.Proofs.Purchase.Atomicity
import Dues.Proofs.Purchase.Office
import Dues.Proofs.Purchase.Recorded

/-! # Interleaved settlements

Whatever transactions come between those of a settlement, everybody is provided for and answered as
if the settlements had been served one after the other. So a sale that is paid twice at the same
time is fulfilled once, and the other payment is told so.
-/

namespace Dues

open Dues.Time (Instant)

namespace Fulfilment

variable {d d' : Desk} {saleId : Int} {paymentId : String} {now : Instant} {withAssociate : Bool}
  {sale : Sale}

theorem fulfil_amounts {entry : Sale} {n : Nat}
    (ok : fulfil saleId paymentId now withAssociate d = .ok (.fulfilled sale) d')
    (entered : d.store.sale? saleId = .ok (some entry)) (small : entry.AmountsAtMost n) :
    sale.AmountsAtMost n := by
  obtain ⟨entry', result, mid, entered', _, all, rfl, _⟩ := fulfil_ok ok
  cases entered.symm.trans entered'
  obtain ⟨found, primaryId, associateId, rfl⟩ := provideAll_provided all
  exact ⟨small.fee, small.friendFee, small.associateFee, small.associateFriendFee, small.toSociety,
    small.toMuseum⟩

/-- The book gives back a sale that was charged once it has been fulfilled. -/
theorem fulfil_read_of_charged {order : Order} {earlier : Settings} {started : Instant}
    {amount : Int} (row : d.store.sales.find? saleId = some (order.price earlier started).record)
    (charged : Checkout.charge (order.price earlier started) = .ok amount)
    (ok : fulfil saleId paymentId now withAssociate d = .ok (.fulfilled sale) d') (id : Int) :
    ∃ stored, sale.record.sale? id = some stored := by
  obtain ⟨entry, _, _, entered, _⟩ := fulfil_ok ok
  have small := (Checkout.entry_of_charged row charged entered).2.1
  obtain ⟨stored, read, _⟩ := Sale.sale?_of_small id (fulfil_amounts ok entered small) (by decide)
  exact ⟨stored, read⟩

end Fulfilment

/-- A sale whose row is still that of an order that was charged, or is complete. -/
def Store.Charged (s : Store) (saleId : Int) : Prop :=
  (∃ (order : Order) (settings : Settings) (now : Instant) (amount : Int),
    Checkout.charge (order.price settings now) = .ok amount ∧
      s.sales.find? saleId = some (order.price settings now).record) ∨
  ∃ record, s.Completed saleId record

namespace Desk

variable {d : Desk} {visits : List Visit} {saleId : Int}

theorem charged_after (charged : d.store.Charged saleId) (visits : List Visit) :
    (d.after visits).store.Charged saleId := by
  rcases charged with ⟨order, settings, now, amount, charged, row⟩ | ⟨record, completed⟩
  · rcases row_or_completed row visits with row | completed
    · exact .inl ⟨order, settings, now, amount, charged, row⟩
    · exact .inr completed
  · exact .inr ⟨record, completed_after visits completed⟩

/-- One of the visits starts a purchase and enters its sale in the book. -/
def Enters (d : Desk) (visits : List Visit) (saleId : Int) : Prop :=
  ∃ before v later, visits = before ++ v :: later ∧ v.order?.isSome ∧
    saleId = (d.after before).store.sales.nextId ∧
    ((v.serve (d.after before)).2.store.sales.find? saleId).isSome

theorem Enters.charged (enters : d.Enters visits saleId) :
    (d.after visits).store.Charged saleId := by
  obtain ⟨before, v, later, rfl, starts, rfl, recorded⟩ := enters
  obtain ⟨record, row⟩ := Option.isSome_iff_exists.mp recorded
  rw [after_append, after_cons]
  refine charged_after ?_ later
  cases v with
  | returns => cases starts
  | settles => cases starts
  | starts provider state settings now order =>
      obtain ⟨rfl, amount, charged⟩ := Visit.serve_recorded row
      exact .inl ⟨order, settings, now, amount, charged, row⟩

end Desk

/-- Once a sale that was charged is completed by one visit, every other one is told so. -/
theorem Visit.serve_completed {d : Desk} {v w : Visit} {sale : Sale}
    (charged : d.store.Charged sale.id) (completes : v.completes d = some sale)
    (between : List Visit) (settles : w.saleId? = some sale.id) :
    ∃ stored, sale.record.sale? sale.id = some stored ∧
      (w.serve ((v.serve d).2.after between)).1 = .settled (.alreadyComplete stored) := by
  obtain ⟨mid, fulfil, frame⟩ := serve_completes completes
  rcases charged with ⟨order, settings, now, amount, charged, row⟩ | ⟨record, completed⟩
  · obtain ⟨_, _, _, entered, _⟩ := Fulfilment.fulfil_ok fulfil
    obtain ⟨stored, read⟩ := Fulfilment.fulfil_read_of_charged row charged fulfil sale.id
    have completed : (v.serve d).2.store.Completed sale.id sale.record := by
      refine ⟨?_, (Fulfilment.fulfil_sale fulfil).2⟩
      rw [frame.store.sales (by simp)]
      exact Fulfilment.fulfil_row fulfil
    obtain ⟨row', done⟩ := Desk.completed_after between completed
    have behind := (v.serve_frame d).trans (Desk.after_frame _ between)
    have connected := behind.connected.trans (Fulfilment.fulfil_connected fulfil)
    have has := (behind.store.has .sales).trans (Store.sale?_ok.mp entered).1
    have found := SaleBook.find_ok.mpr
      ⟨connected, Store.sale?_ok.mpr ⟨has, sale.record, row', read⟩, rfl⟩
    have complete := (SaleRecord.sale?_id read).2.trans done
    have served := w.serve_of_settle settles (Checkout.settle_complete found complete)
    exact ⟨stored, read, congrArg Prod.fst served⟩
  · exact absurd completed (Fulfilment.fulfil_pending fulfil)

theorem Office.InOrder.told_complete {d : Desk} {o : Office} (h : o.InOrder d)
    {before between behind : List Turn} {first later : Turn} {sale : Sale}
    (turns : o.turns = before ++ first :: (between ++ later :: behind))
    (fulfilled : first.fulfilled? = some sale) (again : later.call.saleId = first.call.saleId)
    (charged : d.store.Charged first.call.saleId) :
    ∃ stored, sale.record.sale? sale.id = some stored ∧
      later.answer? = some (.settled (.alreadyComplete stored)) := by
  have completes := (Prod.mk.inj (h.entry turns)).2.symm.trans fulfilled
  obtain ⟨_, mid, settles, fulfil⟩ := Visit.completes_eq_some.mp completes
  have same : sale.id = first.call.saleId :=
    (Fulfilment.fulfil_sale fulfil).1.trans (Option.some.inj settles).symm
  have settles' : later.visit.saleId? = some sale.id := congrArg some (again.trans same.symm)
  rw [← same] at charged
  obtain ⟨stored, read, told⟩ := Visit.serve_completed
    (Desk.charged_after charged (before.map Turn.visit)) completes (between.map Turn.visit) settles'
  have regrouped : o.turns = (before ++ first :: between) ++ later :: behind := by
    rw [turns, List.append_assoc, List.cons_append]
  have due := (Prod.mk.inj (h.entry regrouped)).1
  rw [List.map_append, Desk.after_append] at due
  exact ⟨stored, read, Turn.answer?_of_due (due.trans told)⟩

namespace Desk

/-- Sales can be settled at the same time. From any store, and behind any visits: however the
transactions of any number of settlements come one between the other, accounts, memberships and
sales are what they are where the settlements are served one after the other in the order of their
first transactions, and each of them is answered as it is then. No sale is told to be fulfilled
twice. Once a sale that was entered at the start of a purchase is fulfilled, every later settlement
is told that it is complete. -/
theorem settlements_interleave (store : Store) (visits : List Visit) (moves : List Move) :
    let d := after { store } visits
    let office := Office.after { desk := d } moves
    let turns := office.turns.map Turn.visit
    (office.desk.store.users = (d.after turns).store.users ∧
      office.desk.store.members = (d.after turns).store.members ∧
      office.desk.store.sales = (d.after turns).store.sales) ∧
    List.Forall₂ (fun turn answer => ∀ told, Turn.answer? turn = some told → told = answer)
      office.turns (d.answers turns) ∧
    (∀ saleId, (office.turns.filterMap Turn.answer?).countP (Answer.fulfils saleId) ≤ 1) ∧
    ∀ before first between later behind sale,
      office.turns = before ++ first :: (between ++ later :: behind) →
      first.fulfilled? = some sale → later.call.saleId = first.call.saleId →
      Enters { store } visits first.call.saleId →
      ∃ stored, sale.record.sale? sale.id = some stored ∧
        later.answer? = some (.settled (.alreadyComplete stored)) := by
  intro d office turns
  have coherent : d.Coherent := (coherent_of_store store).after visits
  have inOrder := (Office.InOrder.idle coherent).after moves
  refine ⟨?_, ?_, fun saleId => ?_, ?_⟩
  · obtain ⟨values, rest⟩ := inOrder.desk.store.rest
    change office.desk.store = _ at rest
    rw [rest]
    exact ⟨rfl, rfl, rfl⟩
  · exact inOrder.told
  · exact inOrder.countP_told_le_one saleId
  · intro before first between later behind sale split fulfilled again enters
    exact inOrder.told_complete split fulfilled again enters.charged

/-- A sale is settled twice while another one is, and the notes come in the wrong order. -/
theorem settled_once_between_others :
    let visits := [Visit.sampleStart 1757930400
        { firstName := "Ada", lastName := "Lovelace", email := "ada@example.org" },
      .sampleStart 1757930460
        { firstName := "Pierre", lastName := "Curie", email := "curie@example.org" }]
    let ada : Settlement := ⟨.sample, .ofSeconds 1757934000 0, 1, "first"⟩
    let curie : Settlement := ⟨.sample, .ofSeconds 1757934060 0, 2, "second"⟩
    let office := Office.after { desk := initial.after visits }
      [.provides ada, .provides curie, .provides { ada with paymentId := "third" }, .notes 1, .notes 0]
    let serial := (initial.after visits).after (office.turns.map Turn.visit)
    office.desk.store.members = serial.store.members ∧
      (office.turns.filterMap Turn.answer?).countP (Answer.fulfils 1) = 1 ∧
      ∃ turn ∈ office.turns, ∃ stored : Sale, stored.id = 1 ∧ stored.paymentId = "first" ∧
        turn.call.paymentId = "third" ∧
        turn.answer? = some (.settled (.alreadyComplete stored)) := by
  intro visits ada curie office serial
  obtain ⟨⟨_, members, _⟩, _, once, later⟩ := settlements_interleave Store.initial visits
    [.provides ada, .provides curie, .provides { ada with paymentId := "third" }, .notes 1, .notes 0]
  have told : 0 < (office.turns.filterMap Turn.answer?).countP (Answer.fulfils 1) := by
    decide +kernel
  have shown : office.turns.map (fun turn => (turn.call.saleId, turn.call.paymentId,
      turn.fulfilled?.map fun sale => (sale.id, sale.paymentId))) =
        [(1, "first", some (1, "first")), (2, "second", some (2, "second")), (1, "third", none)] := by
    decide +kernel
  have enters : Enters initial visits 1 :=
    ⟨[], _, _, rfl, rfl, by decide +kernel, by decide +kernel⟩
  have length := congrArg List.length shown
  rw [List.length_map] at length
  obtain ⟨first, between, third, split⟩ := List.length_eq_three.mp length
  rw [split] at shown
  simp only [List.map_cons, List.map_nil, List.cons.injEq, Prod.mk.injEq, and_true] at shown
  obtain ⟨⟨own, _, fulfilled⟩, _, again, third', _⟩ := shown
  obtain ⟨sale, completed, paid⟩ := Option.map_eq_some_iff.mp fulfilled
  obtain ⟨stored, read, answer⟩ := later [] first [between] third [] sale split completed
    (again.trans own.symm) (own ▸ enters)
  refine ⟨members, Nat.le_antisymm (once 1) told, third, by rw [split]; simp, stored, ?_, ?_,
    third', answer⟩
  · exact (SaleRecord.sale?_id read).1.trans (Prod.mk.inj paid).1
  · obtain ⟨_, _, _, _, _, _, _, _, rfl⟩ := SaleRecord.sale?_eq_some.mp read
    exact (Prod.mk.inj paid).2

end Desk

end Dues
