import Dues.Proofs.Purchase.Interleaving

/-! # Sales that can be read

Whatever has been done at a desk since the installation, its book has sales that are as they were
when they were charged, and sales that are complete. Both can be read, so whoever settles a sale a
second time finds it. The notes behind a completed sale need its total, which it has, and a date. So
nothing interrupts them but a clock for which the calendar in London has none.
-/

namespace Dues

open Dues.Time (Instant)

/-- A row that can be read: of an order as it was charged, or of a complete sale. -/
inductive SaleRecord.Legible (record : SaleRecord) : Prop
  | charged (order : Order) (settings : Settings) (now : Instant) (amount : Int)
      (charged : Checkout.charge (order.price settings now) = .ok amount)
      (same : record = (order.price settings now).record)
  | complete (status : record.status = .complete) (read : ∀ id, ∃ sale, record.sale? id = some sale)

/-- A store all of whose sales can be read. -/
def Store.Legible (s : Store) : Prop :=
  ∀ i record, s.sales.find? i = some record → record.Legible

namespace Fulfilment

variable {d d' : Desk} {saleId : Int} {paymentId : String} {now : Instant} {withAssociate : Bool}
  {sale : Sale}

theorem fulfil_charged (h : d.store.Legible)
    (ok : fulfil saleId paymentId now withAssociate d = .ok (.fulfilled sale) d') :
    ∃ (order : Order) (settings : Settings) (priced : Instant) (amount : Int),
      Checkout.charge (order.price settings priced) = .ok amount ∧
        d.store.sales.find? saleId = some (order.price settings priced).record := by
  obtain ⟨entry, _, _, entered, _⟩ := fulfil_ok ok
  obtain ⟨_, record, row, _⟩ := Store.sale?_ok.mp entered
  cases h saleId record row with
  | charged order settings priced amount charged same =>
      exact ⟨order, settings, priced, amount, charged, same ▸ row⟩
  | complete status => exact absurd ⟨row, status⟩ (fulfil_pending ok)

/-- A fulfilled sale can be read again. -/
theorem fulfil_read (h : d.store.Legible)
    (ok : fulfil saleId paymentId now withAssociate d = .ok (.fulfilled sale) d') (id : Int) :
    ∃ stored, sale.record.sale? id = some stored := by
  obtain ⟨_, _, _, _, charged, row⟩ := fulfil_charged h ok
  exact fulfil_read_of_charged row charged ok id

theorem find_of_fulfil (h : d.store.Legible)
    (ok : fulfil saleId paymentId now withAssociate d = .ok (.fulfilled sale) d') {later : Desk}
    (frame : d'.Frame [.values] later) :
    ∃ stored, SaleBook.find saleId later = .ok stored later ∧ stored.status = .complete := by
  obtain ⟨rfl, complete⟩ := fulfil_sale ok
  obtain ⟨_, _, _, entered, _⟩ := fulfil_ok ok
  obtain ⟨stored, read⟩ := fulfil_read h ok sale.id
  have behind := ((fulfil_touches _ _ _ _).of_ok ok).trans (frame.mono (by decide))
  have connected := behind.connected.trans (fulfil_connected ok)
  have has := (behind.store.has .sales).trans (Store.sale?_ok.mp entered).1
  have row : later.store.sales.find? sale.id = some sale.record := by
    rw [frame.store.sales (by decide)]
    exact fulfil_row ok
  have found := SaleBook.find_ok.mpr ⟨connected, Store.sale?_ok.mpr ⟨has, _, row, read⟩, rfl⟩
  exact ⟨stored, found, (SaleRecord.sale?_id read).2.trans complete⟩

end Fulfilment

namespace Household

variable {d d' : Desk} {settings : Settings} {sale : Sale} {now : Instant}

theorem keep_dated (connected : d.connected = true) (ok : keep settings sale now d = .ok () d') :
    ∃ today, Time.London.today now = .ok today := by
  obtain ⟨today, _, dated, _⟩ := Action.bind_ok.mp (keep_ok connected ok)
  exact ⟨today, (orFault_ok.mp dated).1⟩

end Household

namespace Visit

variable {d : Desk}

theorem serve_legible (h : d.store.Legible) (v : Visit) : (v.serve d).2.store.Legible := by
  intro i record row
  have effect := v.serve_effect d
  generalize v.serve d = r at effect row
  cases effect with
  | idle answer d' frame =>
      rw [frame.store.eq] at row
      exact h i record row
  | enters answer d' order desk _ _ charged =>
      obtain ⟨amount, charged⟩ := charged
      subst desk
      rw [Checkout.entered, Store.Table.find?_insert] at row
      split at row
      next =>
        cases row
        exact .charged order v.settings v.now amount charged rfl
      next => exact h i record row
  | fulfils sale completes mid d' fulfil frame =>
      rw [frame.store.sales (by decide), Fulfilment.fulfil_sales fulfil,
        SaleBook.find?_replaced] at row
      obtain ⟨old, found, rfl⟩ := Option.map_eq_some_iff.mp row
      split
      next => exact .complete (Fulfilment.fulfil_sale fulfil).2 (Fulfilment.fulfil_read h fulfil)
      next => exact h i old found

end Visit

namespace Desk

theorem legible_after (visits : List Visit) : (initial.after visits).store.Legible := by
  refine after_induction (P := fun d => d.store.Legible) visits ?_ fun d v _ h => v.serve_legible h
  intro i record row
  have empty := initial.store.sales.find?_of_empty (i := i) (by decide +kernel)
  cases row.symm.trans empty

end Desk

end Dues
