import Dues.Proofs.Register.Basic
import Dues.Sale.Book

/-! # The book of sales and its rows

What is found in the book is what the row of the sale says, and replacing or striking out an entry
changes that one row. A sale that has no row cannot be replaced or struck out.
-/

namespace Dues

/-- The book of sales can be reached. -/
structure Desk.HasBook (d : Desk) : Prop where
  connected : d.connected = true
  sales : d.store.has .sales = true

/-- The desk with other sales. -/
def Desk.withSales (d : Desk) (sales : Store.Table SaleRecord) : Desk :=
  { d with store := { d.store with sales } }

end Dues

namespace Dues.SaleBook

open Dues.Action (Touches)
open Store (Table)

variable {d d' : Desk} {sale : Sale} {saleId : Int}

theorem find_ok : find saleId d = .ok sale d' ↔
    d.connected = true ∧ d.store.sale? saleId = .ok (some sale) ∧ d' = d := by
  unfold find
  rw [Action.bind_ok]
  constructor
  · rintro ⟨o, mid, read, h⟩
    obtain ⟨connected, found, rfl⟩ := Action.read_ok.mp (Action.orFail_ok.mp read)
    cases o with
    | none => exact absurd h Action.throw_ok
    | some entry =>
        obtain ⟨rfl, rfl⟩ := Action.pure_ok.mp h
        exact ⟨connected, found, rfl⟩
  · rintro ⟨connected, found, rfl⟩
    exact ⟨some sale, d', Action.orFail_ok.mpr (Action.read_ok.mpr ⟨connected, found, rfl⟩),
      Action.pure_ok.mpr ⟨rfl, rfl⟩⟩

theorem find_touches (saleId : Int) : Touches [] (find saleId) := by
  refine ((Touches.read _).orFail _).bind fun o => ?_
  cases o with
  | none => exact .throw _
  | some sale => exact .pure sale

theorem add_cases (sale : Sale) (d : Desk) :
    (∃ e, add sale d = .error e d) ∨ add sale d = .ok { sale with id := d.store.sales.nextId }
      { d with store := { d.store with sales := d.store.sales.insert sale.record } } := by
  rcases Action.write_cases (fun s => s.insertSale sale.record) d with
    ⟨id, s', inserted, wrote⟩ | ⟨e, failed⟩
  · obtain ⟨_, rfl, rfl⟩ := Store.insertSale_ok.mp inserted
    exact .inr (Action.bind_of_ok (Action.orFail_ok.mpr wrote))
  · exact .inl ⟨_, Action.bind_of_error (Action.orFail_of_error failed)⟩

theorem add_eq (h : d.HasBook) (sale : Sale) :
    add sale d = .ok { sale with id := d.store.sales.nextId }
      (d.withSales (d.store.sales.insert sale.record)) := by
  have wrote : ((Action.write fun s => s.insertSale sale.record).orFail SaleError.store) d =
      .ok d.store.sales.nextId (d.withSales (d.store.sales.insert sale.record)) :=
    Action.orFail_ok.mpr (Action.write_ok.mpr ⟨h.connected, _, Store.insertSale_ok.mpr
      ⟨h.sales, rfl, rfl⟩, rfl⟩)
  exact Action.bind_of_ok wrote

theorem add_succeeds (h : d.Installed) (sale : Sale) :
    add sale d = .ok { sale with id := d.store.sales.nextId }
      { d with store := { d.store with sales := d.store.sales.insert sale.record } } :=
  add_eq ⟨h.connected, h.has .sales⟩ sale

/-- What comes of looking a sale up, given its row. -/
def found (saleId : Int) : Option (Option Sale) → Except SaleError Sale
  | some (some sale) => .ok sale
  | some none => .error (.store (.unreadable .sales))
  | none => .error (.notFound saleId)

theorem find_eq (h : d.HasBook) (saleId : Int) :
    find saleId d =
      match found saleId ((d.store.sales.find? saleId).map fun r => r.sale? saleId) with
      | .ok sale => .ok sale d
      | .error e => .error e d := by
  have required : d.store.require .sales = .ok () := by rw [Store.require, if_pos h.sales]
  cases row : d.store.sales.find? saleId with
  | none =>
      have absent : d.store.sale? saleId = .ok none := by
        rw [Store.sale?, required, row]
        rfl
      have looked : ((Action.read fun s => s.sale? saleId).orFail SaleError.store) d =
          .ok none d := Action.orFail_ok.mpr (Action.read_ok.mpr ⟨h.connected, absent, rfl⟩)
      exact Action.bind_of_ok looked
  | some record =>
      cases read : record.sale? saleId with
      | some sale =>
          simp only [Option.map_some, read, found]
          exact find_ok.mpr ⟨h.connected, Store.sale?_ok.mpr ⟨h.sales, record, row, read⟩, rfl⟩
      | none =>
          have unreadable : d.store.sale? saleId = .error (.unreadable .sales) := by
            rw [Store.sale?, required, row]
            simp only [bind, Except.bind, read]
            rfl
          have failed : (Action.read fun s => s.sale? saleId) d =
              .error (.unreadable .sales) d := by
            rw [Action.read, if_pos h.connected, unreadable]
          simp only [Option.map_some, read, found]
          exact Action.bind_of_error (Action.orFail_of_error failed)

theorem replace_touches (sale : Sale) : Touches [.sales] (replace sale) := by
  refine ((Touches.write fun _ _ _ => Store.updateSale_frame).orFail _).bind fun rows => ?_
  unfold expectOne
  split
  next => exact .pure _
  next => exact .throw _

/-- The book with the entry of a sale in the place of the one that it has. -/
def replaced (sales : Table SaleRecord) (sale : Sale) : Table SaleRecord :=
  sales.update (fun i _ => i == sale.id) fun _ => sale.record

theorem find?_replaced {sales : Table SaleRecord} {i : Int} :
    (replaced sales sale).find? i =
      (sales.find? i).map fun record => if i = sale.id then sale.record else record := by
  rw [replaced, Table.find?_update]
  simp only [beq_iff_eq]

theorem replace_ok (h : replace sale d = .ok () d') :
    d' = { d with store := { d.store with sales := replaced d.store.sales sale } } := by
  obtain ⟨rows, mid, wrote, h⟩ := Action.bind_ok.mp h
  obtain ⟨_, s', updated, rfl⟩ := Action.write_ok.mp (Action.orFail_ok.mp wrote)
  obtain ⟨_, rfl, rfl⟩ := Store.updateSale_ok.mp updated
  unfold expectOne at h
  split at h
  next =>
    obtain ⟨_, rfl⟩ := Action.pure_ok.mp h
    rfl
  next => exact absurd h Action.throw_ok

theorem replace_then (h : d.HasBook) (sale : Sale) :
    replace sale d =
      expectOne "update" sale.id (d.store.sales.count fun i _ => i == sale.id)
        (d.withSales (replaced d.store.sales sale)) := by
  have wrote : ((Action.write fun s => s.updateSale sale.id sale.record).orFail SaleError.store) d =
      .ok (d.store.sales.count fun i _ => i == sale.id)
        (d.withSales (replaced d.store.sales sale)) :=
    Action.orFail_ok.mpr (Action.write_ok.mpr ⟨h.connected, _, Store.updateSale_ok.mpr
      ⟨h.sales, rfl, rfl⟩, rfl⟩)
  exact Action.bind_of_ok wrote

theorem replace_entered (h : d.HasBook) {record : SaleRecord}
    (entered : d.store.sales.find? sale.id = some record) :
    replace sale d = .ok () (d.withSales (replaced d.store.sales sale)) := by
  rw [replace_then h, Table.count_id entered]
  rfl

theorem replace_absent (h : d.HasBook) (absent : d.store.sales.find? sale.id = none) :
    replace sale d = .error (.rowsAffected "update" sale.id 0) d := by
  rw [replace_then h, Table.count_of_absent absent, replaced, Table.update_of_absent absent]
  rfl

theorem replace_succeeds (h : d.Installed) {record : SaleRecord}
    (entered : d.store.sales.find? sale.id = some record) : ∃ d', replace sale d = .ok () d' :=
  ⟨_, replace_entered ⟨h.connected, h.has .sales⟩ entered⟩

/-- The book without the entry of a sale. -/
def struck (sales : Table SaleRecord) (saleId : Int) : Table SaleRecord :=
  sales.delete fun i _ => i == saleId

theorem find?_struck {sales : Table SaleRecord} {i : Int} :
    (struck sales saleId).find? i = if i = saleId then none else sales.find? i := by
  rw [struck, Table.find?_delete]
  split
  next same => simp [same]
  next apart => cases sales.find? i <;> simp [Option.filter, apart]

theorem remove_then (h : d.HasBook) (sale : Sale) :
    remove sale d =
      (do expectOne "delete" sale.id (d.store.sales.count fun i _ => i == sale.id)
          return { sale with id := 0 } : Action SaleError Sale)
        (d.withSales (struck d.store.sales sale.id)) := by
  have wrote : ((Action.write fun s => s.deleteSale sale.id).orFail SaleError.store) d =
      .ok (d.store.sales.count fun i _ => i == sale.id)
        (d.withSales (struck d.store.sales sale.id)) :=
    Action.orFail_ok.mpr (Action.write_ok.mpr ⟨h.connected, _, Store.deleteSale_ok.mpr
      ⟨h.sales, rfl, rfl⟩, rfl⟩)
  exact Action.bind_of_ok wrote

theorem remove_entered (h : d.HasBook) {record : SaleRecord}
    (entered : d.store.sales.find? sale.id = some record) :
    remove sale d = .ok { sale with id := 0 } (d.withSales (struck d.store.sales sale.id)) := by
  rw [remove_then h, Table.count_id entered]
  rfl

theorem remove_absent (h : d.HasBook) (absent : d.store.sales.find? sale.id = none) :
    remove sale d = .error (.rowsAffected "delete" sale.id 0) d := by
  rw [remove_then h, Table.count_of_absent absent, struck, Table.delete_of_absent absent]
  rfl

end Dues.SaleBook
