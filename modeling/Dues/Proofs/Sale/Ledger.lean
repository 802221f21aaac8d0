import Dues.Proofs.Register.Installed
import Dues.Proofs.Register.Session
import Dues.Proofs.Sale.Book
import Dues.Proofs.Sale.Record
import Mathlib.Data.Finmap

/-! # The book of sales as a map

Entering, finding, replacing and striking out sales, in transactions that are kept or undone, is
working on a finite map from numbers to sales. The map also knows the last number that was given
out, and an undone transaction gives back both. What is found under a number is the sale that was
written there last, as the store gives it back.
-/

namespace Dues

open Dues.Money (Decimal Binary64)
open Store (Table)

/-! ## Sales as the store gives them back -/

/-- An amount as the store gives it back, none if it cannot be read any more. -/
def Money.Decimal.stored? (d : Decimal) : Option Decimal := (Binary64.ofDecimal d).toDecimal?

def Participant.stored? (p : Participant) : Option Participant := do
  let fee ← p.fee.stored?
  let friendFee ← p.friendFee.stored?
  return { p with userId := max p.userId 0, fee, friendFee }

/-- A person without a first name has no account as an associate. -/
def Participant.asAssociate (p : Participant) : Participant :=
  if p.firstName = "" then { p with userId := 0 } else p

/-- The sale that comes back from the row with number `id`. -/
def Sale.stored? (sale : Sale) (id : Int) : Option Sale := do
  let primary ← sale.primary.stored?
  let associate ← sale.associate.asAssociate.stored?
  let donationToSociety ← sale.donationToSociety.stored?
  let donationToMuseum ← sale.donationToMuseum.stored?
  return { sale with id, primary, associate, donationToSociety, donationToMuseum }

theorem userRef_stored (id : Int) : (userRef id).getD 0 = max id 0 := by
  unfold userRef
  split
  next positive => simp [Int.max_eq_left (Int.le_of_lt positive)]
  next negative => simp [Int.max_eq_right (Int.not_lt.mp negative)]

theorem Participant.participant?_record (p : Participant) :
    (p.record (userRef p.userId)).participant? = p.stored? := by
  simp [ParticipantRecord.participant?, Participant.record, Participant.stored?,
    Money.Decimal.stored?, userRef_stored]

theorem Participant.participant?_associate (p : Participant) :
    (p.record (if p.isPresent then userRef p.userId else none)).participant? =
      p.asAssociate.stored? := by
  by_cases leftOut : p.firstName = ""
  · simp [ParticipantRecord.participant?, Participant.record, Participant.stored?,
      Money.Decimal.stored?, Participant.isPresent, Participant.asAssociate, leftOut]
  · have present : p.isPresent = true := by simp [Participant.isPresent, leftOut]
    rw [if_pos present, participant?_record, Participant.asAssociate, if_neg leftOut]

theorem Sale.sale?_record_eq (sale : Sale) (id : Int) :
    sale.record.sale? id = sale.stored? id := by
  simp only [SaleRecord.sale?, Sale.record, Participant.participant?_record,
    Participant.participant?_associate]
  rfl

/-! ## The map -/

/-- The sales by number, where a sale may have become unreadable, and the last number given out. -/
structure Ledger where
  entries : Finmap fun _ : Int => Option Sale
  last : Int

namespace Ledger

/-- The sale goes under the next number. -/
def add (l : Ledger) (sale : Sale) : Ledger :=
  ⟨l.entries.insert (l.last + 1) (sale.stored? (l.last + 1)), l.last + 1⟩

def replace (l : Ledger) (sale : Sale) : Ledger :=
  { l with entries := l.entries.insert sale.id (sale.stored? sale.id) }

def remove (l : Ledger) (saleId : Int) : Ledger :=
  { l with entries := l.entries.erase saleId }

end Ledger

/-- What the rows of a table of sales come to. -/
def Store.Table.ledger (sales : Table SaleRecord) : Ledger where
  entries := (sales.rows.map fun r => (⟨r.1, r.2.sale? r.1⟩ : Σ _ : Int, Option Sale)).toFinmap
  last := sales.lastId

namespace Store.Table

variable {sales : Table SaleRecord}

theorem lookup_ledger (i : Int) :
    sales.ledger.entries.lookup i = (sales.find? i).map fun r => r.sale? i := by
  unfold ledger find?
  rw [Finmap.dlookup_list_toFinmap]
  induction sales.rows with
  | nil => rfl
  | cons r rows ih =>
      by_cases same : r.1 = i
      · subst same
        simp
      · rw [List.map_cons, List.dlookup_cons_ne _ _ (Ne.symm same), ih,
          List.find?_cons_of_neg (by simpa using same)]

theorem mem_ledger {i : Int} : i ∈ sales.ledger.entries ↔ ∃ r, sales.find? i = some r := by
  rw [← Finmap.lookup_isSome, lookup_ledger, Option.isSome_map, Option.isSome_iff_exists]

theorem notMem_ledger {i : Int} : i ∉ sales.ledger.entries ↔ sales.find? i = none := by
  rw [mem_ledger, ← Option.isSome_iff_exists, Option.not_isSome_iff_eq_none]

theorem ledger_eq {l : Ledger}
    (entries : ∀ i, (sales.find? i).map (fun r => r.sale? i) = l.entries.lookup i)
    (last : sales.lastId = l.last) : sales.ledger = l := by
  obtain ⟨map, _⟩ := l
  subst last
  have same : sales.ledger.entries = map := by
    apply Finmap.ext_lookup
    intro i
    rw [lookup_ledger]
    exact entries i
  rw [← same]
  rfl

theorem ledger_insert (sale : Sale) :
    (sales.insert sale.record).ledger = sales.ledger.add sale := by
  refine ledger_eq (fun i => ?_) rfl
  rw [find?_insert]
  by_cases same : i = sales.nextId
  · subst same
    rw [if_pos rfl, Option.map_some, Sale.sale?_record_eq]
    exact (Finmap.lookup_insert sales.ledger.entries).symm
  · rw [if_neg same]
    exact ((Finmap.lookup_insert_of_ne sales.ledger.entries same).trans (lookup_ledger i)).symm

theorem ledger_replaced {sale : Sale} {r : SaleRecord} (row : sales.find? sale.id = some r) :
    (SaleBook.replaced sales sale).ledger = sales.ledger.replace sale := by
  refine ledger_eq (fun i => ?_) rfl
  rw [SaleBook.find?_replaced]
  by_cases same : i = sale.id
  · subst same
    simp [row, Sale.sale?_record_eq, Ledger.replace]
  · simp [same, Ledger.replace, Finmap.lookup_insert_of_ne, lookup_ledger]

theorem ledger_struck (saleId : Int) :
    (SaleBook.struck sales saleId).ledger = sales.ledger.remove saleId := by
  refine ledger_eq (fun i => ?_) rfl
  rw [SaleBook.find?_struck]
  by_cases same : i = saleId
  · subst same
    simp [Ledger.remove]
  · simp [same, Ledger.remove, Finmap.lookup_erase_ne, lookup_ledger]

end Store.Table

/-! ## Work at the book -/

/-- What may be asked of the book, and of the transaction around it. -/
inductive BookStep where
  | openTransaction
  | commit
  | rollback
  | add (sale : Sale)
  | find (saleId : Int)
  | replace (sale : Sale)
  | remove (sale : Sale)

/-- What comes of a step. Where a sale was handed over, this has the caller's sale behind the step. -/
inductive BookReply where
  | turned (result : Except SessionError Unit)
  | found (result : Except SaleError Sale)
  | wrote (result : Except SaleError Unit) (sale : Sale)

namespace Session

/-- A transaction is opened or ended, or that is refused. -/
def turn (s : Session) : Except SessionError Session → BookReply × Session
  | .ok s' => (.turned (.ok ()), s')
  | .error e => (.turned (.error e), s)

/-- Runs an action on the caller's sale, which stays as it is if the action fails. -/
def runOn (s : Session) (sale : Sale) (act : Action SaleError Sale) : BookReply × Session :=
  match s.run (.store .closed) act with
  | (.ok sale', s') => (.wrote (.ok ()) sale', s')
  | (.error e, s') => (.wrote (.error e) sale, s')

def book (s : Session) : BookStep → BookReply × Session
  | .openTransaction => s.turn s.openTransaction
  | .commit => s.turn s.commit
  | .rollback => s.turn s.rollback
  | .add sale => s.runOn sale (SaleBook.add sale)
  | .find saleId =>
      let (result, s') := s.run (.store .closed) (SaleBook.find saleId)
      (.found result, s')
  | .replace sale => s.runOn sale ((fun _ => sale) <$> SaleBook.replace sale)
  | .remove sale => s.runOn sale (SaleBook.remove sale)

theorem runOn_snd (s : Session) (sale : Sale) (act : Action SaleError Sale) :
    (s.runOn sale act).2 = (s.run (.store .closed) act).2 := by
  unfold runOn
  generalize s.run (.store .closed) act = r
  obtain ⟨result, s'⟩ := r
  cases result <;> rfl

theorem runOn_congr {s t : Session} {sale : Sale} {act : Action SaleError Sale}
    (same : (s.run (.store .closed) act).1 = (t.run (.store .closed) act).1) :
    (s.runOn sale act).1 = (t.runOn sale act).1 := by
  unfold runOn
  generalize s.run (.store .closed) act = r at same
  generalize t.run (.store .closed) act = r' at same
  obtain ⟨result, s'⟩ := r
  obtain ⟨_, t'⟩ := r'
  cases same
  cases result <;> rfl

/-- What others see of the store: what was done in the open transaction is not part of it. -/
def committed (s : Session) : Store := s.saved.getD s.desk.store

end Session

/-- A map in use, with the map at the start of the open transaction. -/
structure LedgerSession where
  now : Ledger
  saved : Option Ledger := none

namespace LedgerSession

def book (l : LedgerSession) : BookStep → BookReply × LedgerSession
  | .openTransaction =>
      match l.saved with
      | none => (.turned (.ok ()), { l with saved := some l.now })
      | some _ => (.turned (.error .transactionOpen), l)
  | .commit =>
      match l.saved with
      | none => (.turned (.error .noTransaction), l)
      | some _ => (.turned (.ok ()), { l with saved := none })
  | .rollback =>
      match l.saved with
      | none => (.turned (.error .noTransaction), l)
      | some old => (.turned (.ok ()), { now := old })
  | .add sale =>
      (.wrote (.ok ()) { sale with id := l.now.last + 1 }, { l with now := l.now.add sale })
  | .find saleId => (.found (SaleBook.found saleId (l.now.entries.lookup saleId)), l)
  | .replace sale =>
      if sale.id ∈ l.now.entries then (.wrote (.ok ()) sale, { l with now := l.now.replace sale })
      else (.wrote (.error (.rowsAffected "update" sale.id 0)) sale, l)
  | .remove sale =>
      if sale.id ∈ l.now.entries then
        (.wrote (.ok ()) { sale with id := 0 }, { l with now := l.now.remove sale.id })
      else (.wrote (.error (.rowsAffected "delete" sale.id 0)) sale, l)

def committed (l : LedgerSession) : Ledger := l.saved.getD l.now

/-- No transaction takes numbers back that were given out before it. -/
def Counting (l : LedgerSession) : Prop := l.committed.last ≤ l.now.last

variable {l : LedgerSession}

/-- Work on the map that gives out numbers in order is counted on, in a transaction or not. -/
theorem counting_of_work (h : l.Counting) {now : Ledger} (le : l.now.last ≤ now.last) :
    Counting { l with now } ∧ l.committed.last ≤ (committed { l with now }).last := by
  obtain ⟨before, saved⟩ := l
  cases saved with
  | none => exact ⟨le_refl now.last, le⟩
  | some old => exact ⟨le_trans h le, le_refl old.last⟩

theorem book_counting (step : BookStep) (h : l.Counting) :
    (l.book step).2.Counting ∧ l.committed.last ≤ (l.book step).2.committed.last := by
  have stays : l.Counting ∧ l.committed.last ≤ l.committed.last := ⟨h, le_refl _⟩
  cases step with
  | openTransaction =>
      obtain ⟨now, saved⟩ := l
      cases saved with
      | none => exact stays
      | some old => exact stays
  | commit =>
      obtain ⟨now, saved⟩ := l
      cases saved with
      | none => exact stays
      | some old => exact ⟨le_refl now.last, h⟩
  | rollback =>
      obtain ⟨now, saved⟩ := l
      cases saved with
      | none => exact stays
      | some old => exact ⟨le_refl old.last, le_refl old.last⟩
  | add sale => exact counting_of_work h (Int.le_of_lt (Int.lt_succ l.now.last))
  | find saleId => exact stays
  | replace sale =>
      rw [book]
      split
      next => exact counting_of_work h (le_refl l.now.last)
      next => exact stays
  | remove sale =>
      rw [book]
      split
      next => exact counting_of_work h (le_refl l.now.last)
      next => exact stays

end LedgerSession

/-- How a session at the book looks from outside. -/
def Session.ledger (s : Session) : LedgerSession :=
  ⟨s.desk.store.sales.ledger, s.saved.map fun old => old.sales.ledger⟩

/-- Nothing but the sales differs from the desk that work began at. -/
structure Session.AtBook (d : Desk) (s : Session) : Prop where
  desk : ∃ sales, s.desk = d.withSales sales
  saved : ∀ old ∈ s.saved, ∃ sales, old = { d.store with sales }

namespace Session

variable {d : Desk} {s : Session} {sales : Table SaleRecord} {sale : Sale}

theorem AtBook.hasBook (h : s.AtBook d) (start : d.HasBook) : s.desk.HasBook := by
  obtain ⟨sales, desk⟩ := h.desk
  rw [desk]
  exact ⟨start.connected, start.sales⟩

theorem AtBook.withSales (h : s.AtBook d) (sales : Table SaleRecord) :
    AtBook d { s with desk := s.desk.withSales sales } := by
  obtain ⟨before, desk⟩ := h.desk
  exact ⟨⟨sales, by rw [desk]; rfl⟩, h.saved⟩

theorem ledger_withSales {l : Ledger} (same : sales.ledger = l) :
    Session.ledger { s with desk := s.desk.withSales sales } = { s.ledger with now := l } := by
  subst same
  rfl

theorem runOn_of_ok (h : s.desk.HasBook) {act : Action SaleError Sale} {sale' : Sale}
    (ok : act s.desk = .ok sale' (s.desk.withSales sales)) :
    s.runOn sale act = (.wrote (.ok ()) sale', { s with desk := s.desk.withSales sales }) := by
  rw [runOn, run_of_ok h.connected ok]

theorem runOn_of_refusal (h : s.desk.HasBook) {act : Action SaleError Sale} {e : SaleError}
    (refused : act s.desk = .error e s.desk) : s.runOn sale act = (.wrote (.error e) sale, s) := by
  rw [runOn, run_of_refusal h.connected refused]

/-- A step at the book comes to what a step on the map comes to. -/
structure Shows (d : Desk) (atBook : BookReply × Session) (onMap : BookReply × LedgerSession) :
    Prop where
  reply : atBook.1 = onMap.1
  ledger : atBook.2.ledger = onMap.2
  kept : atBook.2.AtBook d

theorem AtBook.shows_openTransaction (h : s.AtBook d) (start : d.HasBook) :
    Shows d (s.book .openTransaction) (s.ledger.book .openTransaction) := by
  have connected := (h.hasBook start).connected
  obtain ⟨desk, saved⟩ := s
  cases saved with
  | some old => exact ⟨rfl, rfl, h⟩
  | none =>
      have opened : (Session.mk desk none).openTransaction = .ok ⟨desk, some desk.store⟩ := by
        rw [openTransaction, if_neg (by simp [isOpen]), if_pos connected]
      rw [book, opened]
      obtain ⟨sales, atDesk⟩ := h.desk
      refine ⟨rfl, rfl, ⟨sales, atDesk⟩, ?_⟩
      rintro old ⟨⟩
      exact ⟨sales, congrArg Desk.store atDesk⟩

theorem AtBook.shows_commit (h : s.AtBook d) :
    Shows d (s.book .commit) (s.ledger.book .commit) := by
  obtain ⟨desk, saved⟩ := s
  cases saved with
  | none => exact ⟨rfl, rfl, h⟩
  | some old => exact ⟨rfl, rfl, h.desk, by simp [turn, commit, isOpen, book]⟩

theorem AtBook.shows_rollback (h : s.AtBook d) :
    Shows d (s.book .rollback) (s.ledger.book .rollback) := by
  obtain ⟨desk, saved⟩ := s
  cases saved with
  | none => exact ⟨rfl, rfl, h⟩
  | some old =>
      obtain ⟨sales, same⟩ := h.saved old rfl
      obtain ⟨now, atDesk⟩ := h.desk
      have desk' : { desk with store := old } = d.withSales sales := by
        rw [same, show desk = d.withSales now from atDesk]
        rfl
      exact ⟨rfl, rfl, ⟨sales, desk'⟩, by simp [turn, rollback, book]⟩

theorem AtBook.shows_add (h : s.AtBook d) (start : d.HasBook) (sale : Sale) :
    Shows d (s.book (.add sale)) (s.ledger.book (.add sale)) := by
  have there := h.hasBook start
  rw [book, runOn_of_ok there (SaleBook.add_eq there sale)]
  exact ⟨rfl, ledger_withSales (Table.ledger_insert sale), h.withSales _⟩

theorem AtBook.shows_find (h : s.AtBook d) (start : d.HasBook) (saleId : Int) :
    Shows d (s.book (.find saleId)) (s.ledger.book (.find saleId)) := by
  have there := h.hasBook start
  have looked := SaleBook.find_eq there saleId
  rw [← Table.lookup_ledger] at looked
  have ran : s.run (.store .closed) (SaleBook.find saleId) =
      (SaleBook.found saleId (s.ledger.now.entries.lookup saleId), s) := by
    change s.run _ _ = (SaleBook.found saleId (s.desk.store.sales.ledger.entries.lookup saleId), s)
    cases found : SaleBook.found saleId (s.desk.store.sales.ledger.entries.lookup saleId) with
    | ok sale =>
        rw [found] at looked
        exact run_of_ok there.connected looked
    | error e =>
        rw [found] at looked
        exact run_of_refusal there.connected looked
  rw [book, ran]
  exact ⟨rfl, rfl, h⟩

theorem AtBook.shows_replace (h : s.AtBook d) (start : d.HasBook) (sale : Sale) :
    Shows d (s.book (.replace sale)) (s.ledger.book (.replace sale)) := by
  have there := h.hasBook start
  rw [book, LedgerSession.book]
  split
  next mem =>
    obtain ⟨r, row⟩ := Table.mem_ledger.mp mem
    have ok : ((fun _ => sale) <$> SaleBook.replace sale) s.desk =
        .ok sale (s.desk.withSales (SaleBook.replaced s.desk.store.sales sale)) :=
      Action.bind_of_ok (SaleBook.replace_entered there row)
    rw [runOn_of_ok there ok]
    exact ⟨rfl, ledger_withSales (Table.ledger_replaced row), h.withSales _⟩
  next absent =>
    have refused : ((fun _ => sale) <$> SaleBook.replace sale) s.desk =
        .error (.rowsAffected "update" sale.id 0) s.desk :=
      Action.bind_of_error (SaleBook.replace_absent there (Table.notMem_ledger.mp absent))
    rw [runOn_of_refusal there refused]
    exact ⟨rfl, rfl, h⟩

theorem AtBook.shows_remove (h : s.AtBook d) (start : d.HasBook) (sale : Sale) :
    Shows d (s.book (.remove sale)) (s.ledger.book (.remove sale)) := by
  have there := h.hasBook start
  rw [book, LedgerSession.book]
  split
  next mem =>
    obtain ⟨r, row⟩ := Table.mem_ledger.mp mem
    rw [runOn_of_ok there (SaleBook.remove_entered there row)]
    exact ⟨rfl, ledger_withSales (Table.ledger_struck sale.id), h.withSales _⟩
  next absent =>
    rw [runOn_of_refusal there (SaleBook.remove_absent there (Table.notMem_ledger.mp absent))]
    exact ⟨rfl, rfl, h⟩

theorem AtBook.shows (h : s.AtBook d) (start : d.HasBook) (step : BookStep) :
    Shows d (s.book step) (s.ledger.book step) := by
  cases step with
  | openTransaction => exact h.shows_openTransaction start
  | commit => exact h.shows_commit
  | rollback => exact h.shows_rollback
  | add sale => exact h.shows_add start sale
  | find saleId => exact h.shows_find start saleId
  | replace sale => exact h.shows_replace start sale
  | remove sale => exact h.shows_remove start sale

end Session

/-- The session that begins at a desk. -/
def Desk.session (d : Desk) : Session := ⟨d, none⟩

namespace SaleBook

variable {d : Desk}

theorem atBook_session : d.session.AtBook d := ⟨⟨d.store.sales, rfl⟩, nofun⟩

theorem atBook_runs (start : d.HasBook) (steps : List BookStep) :
    (runs Session.book d.session steps).2.AtBook d :=
  runs_preserve (fun _ step h => (h.shows start step).kept) atBook_session steps

theorem runs_book (start : d.HasBook) {s : Session} (h : s.AtBook d) (steps : List BookStep) :
    (runs Session.book s steps).1 = (runs LedgerSession.book s.ledger steps).1 ∧
      (runs Session.book s steps).2.ledger = (runs LedgerSession.book s.ledger steps).2 :=
  runs_refine (fun _ step h => (h.shows start step).kept)
    (fun _ step h => ⟨(h.shows start step).reply, (h.shows start step).ledger⟩) h steps

/-- A run never lowers the last number that is committed, nor leaves the count behind it. -/
theorem runs_counting {l : LedgerSession} (h : l.Counting) (steps : List BookStep) :
    (runs LedgerSession.book l steps).2.Counting ∧
      l.committed.last ≤ (runs LedgerSession.book l steps).2.committed.last := by
  induction steps generalizing l with
  | nil => exact ⟨h, le_refl _⟩
  | cons step rest ih =>
      obtain ⟨counting, le⟩ := LedgerSession.book_counting step h
      obtain ⟨last, rising⟩ := ih counting
      exact ⟨last, le_trans le rising⟩

theorem committed_ledger (s : Session) : s.ledger.committed = s.committed.sales.ledger := by
  obtain ⟨desk, saved⟩ := s
  cases saved with
  | none => rfl
  | some old => rfl

/-- The next number is above all that were given out in what was committed before. -/
theorem add_above_committed (start : d.HasBook) (before after : List BookStep) (sale : Sale) :
    ∃ id, ((runs Session.book d.session (before ++ after)).2.book (.add sale)).1 =
        .wrote (.ok ()) { sale with id } ∧
      (runs Session.book d.session before).2.committed.sales.lastId < id := by
  have there := atBook_runs start (before ++ after)
  have earlier := atBook_runs start before
  refine ⟨_, (there.shows start (.add sale)).reply, ?_⟩
  have begun : (runs Session.book d.session before).2.ledger.Counting := by
    rw [(runs_book start atBook_session before).2]
    exact (runs_counting (le_refl _) before).1
  have counted := runs_counting begun after
  rw [← (runs_book start earlier after).2, ← runs_append] at counted
  have committed := committed_ledger (runs Session.book d.session before).2
  calc ((runs Session.book d.session before).2.committed.sales.lastId : Int)
      = (runs Session.book d.session before).2.ledger.committed.last := by rw [committed]; rfl
    _ ≤ (runs Session.book d.session (before ++ after)).2.ledger.committed.last := counted.2
    _ ≤ (runs Session.book d.session (before ++ after)).2.ledger.now.last := counted.1
    _ < (runs Session.book d.session (before ++ after)).2.ledger.now.last + 1 := Int.lt_succ _

/-- Work at the book, in transactions that are kept or undone, comes to the same replies as work on
a map, and leaves the sales that the map has and everything else as it was. A sale that is entered
gets a number above every number that was in use, or only given out, in anything that was committed
before, so a number that was once committed is never another sale's. -/
theorem book_is_a_map (start : d.HasBook) (steps : List BookStep) :
    ((runs Session.book d.session steps).1 = (runs LedgerSession.book d.session.ledger steps).1 ∧
        (runs Session.book d.session steps).2.ledger =
          (runs LedgerSession.book d.session.ledger steps).2) ∧
      (runs Session.book d.session steps).2.AtBook d ∧
      ∀ before, before <+: steps → ∀ sale, ∃ id,
        ((runs Session.book d.session steps).2.book (.add sale)).1 =
            .wrote (.ok ()) { sale with id } ∧
          (runs Session.book d.session before).2.committed.sales.lastId < id ∧
          ∀ i r, (runs Session.book d.session before).2.committed.sales.find? i = some r →
            i < id := by
  refine ⟨runs_book start atBook_session steps, atBook_runs start steps, ?_⟩
  rintro before ⟨after, rfl⟩ sale
  obtain ⟨id, reply, above⟩ := add_above_committed start before after sale
  refine ⟨id, reply, above, fun i r row => ?_⟩
  have given := (Table.numbered _ _ (Table.find?_eq_some.mp row)).2
  exact Int.lt_of_le_of_lt given above

/-- The number of a sale that was struck out is not given to the next one. -/
theorem struck_number_is_not_reused :
    let sale : Sale := { paymentService := "sandbox", year := 2026 }
    let steps := [BookStep.add sale, .openTransaction, .remove { sale with id := 1 }, .commit]
    Desk.initial.HasBook ∧
      ∃ id, ((runs Session.book Desk.initial.session steps).2.book (.add sale)).1 =
          .wrote (.ok ()) { sale with id } ∧ 1 < id := by
  intro sale steps
  have start : Desk.initial.HasBook := ⟨rfl, Store.initial_has .sales⟩
  obtain ⟨id, reply, _, above⟩ :=
    (book_is_a_map start steps).2.2 [.add sale] ⟨steps.tail, rfl⟩ sale
  have first : (runs Session.book Desk.initial.session [.add sale]).2.committed.sales.find? 1 =
      some sale.record := by decide +kernel
  exact ⟨start, id, reply, above 1 _ first⟩

end SaleBook

end Dues
