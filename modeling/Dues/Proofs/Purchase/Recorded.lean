import Dues.Proofs.Purchase.Extension
import Dues.Proofs.Purchase.Finality
import Dues.Proofs.Purchase.WellFormed

/-! # What is recorded of a payment

Behind a fulfilled sale the register has the total of the sale as the last payment of its first
person. No later note is about that field.
-/

namespace Dues

open Dues.Action (Keeps)
open Dues.Register
open Dues.Time (Instant)

variable {ε : Type} {d d' : Desk} {settings : Settings} {sale : Sale} {now : Instant}

namespace Household

theorem notes_keep_held {notes : List Note} {userId : Int} {name text : String}
    (apart : ∀ n ∈ notes, n.field.name ≠ name) :
    Keeps (fun d => d.Installed ∧ d.store.Holds userId name text)
      (notes.forM note : Action ε Unit) :=
  notes_keep fun n mem => note_keeps (setValue_keeps_held n.field n.userId n.value (apart n mem))

theorem note_holds (h : d.Installed) (n : Note) (defined : n.field.Defined)
    (user : d.store.users.contains n.userId = true) (ok : (note n : Action ε Unit) d = .ok () d') :
    d'.store.Holds n.userId n.field.name (n.type.encode n.value) := by
  obtain ⟨after, set⟩ := setValue_succeeds h defined user n.value
  rw [note, set] at ok
  cases ok
  exact setValue_holds h set

/-- The last payment is noted before all else that is noted about the payment. -/
theorem paymentNotes_cons (settings : Settings) (sale : Sale) (total : Money.Decimal) :
    ∃ others, paymentNotes settings sale total =
        ⟨.decimal, .lastPayment, sale.primary.userId, total⟩ :: others ∧
      ∀ n ∈ others, n.field.name ≠ ProfileField.lastPayment.name := by
  refine ⟨_, rfl, fun n mem => ?_⟩
  simp only [List.append_eq, List.mem_append, List.mem_cons, List.not_mem_nil, or_false,
    List.mem_ite_nil_right] at mem
  rcases mem with (rfl | ⟨_, rfl⟩) | rfl | rfl | rfl <;>
    simp [ProfileField.lastPayment, ProfileField.friendOfTheMuseum, ProfileField.giftAid,
      ProfileField.donationToSociety, ProfileField.donationToMuseum]

theorem orFault_ok {α : Type} {r : Except ε α} {a : α} :
    orFault r d = .ok a d' ↔ r = .ok a ∧ d = d' := by
  cases r with
  | ok b => simp [orFault, Action.pure_ok]
  | error e => exact ⟨fun h => absurd h Action.throw_ok, fun h => nomatch h.1⟩

theorem record_holds (h : d.Installed) (user : d.store.users.contains sale.primary.userId = true)
    (ok : record settings sale now d = .ok () d') : ∃ total, sale.total = .ok total ∧
      d'.store.Holds sale.primary.userId ProfileField.lastPayment.name total.pence := by
  obtain ⟨today, d₁, dated, ok⟩ := Action.bind_ok.mp ok
  obtain ⟨_, rfl⟩ := orFault_ok.mp dated
  obtain ⟨_, d₂, addressed, ok⟩ := Action.bind_ok.mp ok
  obtain ⟨total, d₃, added, ok⟩ := Action.bind_ok.mp ok
  obtain ⟨summed, rfl⟩ := orFault_ok.mp added
  have frame := (notes_touches _).of_ok addressed
  have h := h.of_frame frame
  rw [← frame.store.users (by simp)] at user
  obtain ⟨others, notes, apart⟩ := paymentNotes_cons settings sale total
  rw [notes] at ok
  obtain ⟨_, d₄, first, rest⟩ := Action.bind_ok.mp ok
  have noted := note_holds h _ ProfileField.lastPayment_defined user first
  have keeps : Keeps (fun d => d.Installed ∧ d.store.Holds sale.primary.userId
      ProfileField.lastPayment.name total.pence) (others.forM note : Action Fault Unit) :=
    notes_keep_held apart
  exact ⟨total, summed, (keeps.of_ok rest ⟨h.of_frame ((note_touches _).of_ok first), noted⟩).2⟩

theorem keep_ok (connected : d.connected = true) (ok : keep settings sale now d = .ok () d') :
    record settings sale now d = .ok () d' := by
  unfold keep Action.transaction at ok
  rw [connected, if_pos rfl] at ok
  cases ran : record settings sale now d with
  | ok _ after =>
      rw [Action.orFail_ok.mpr ran] at ok
      cases ok
      rfl
  | error fault after =>
      rw [Action.orFail_of_error ran] at ok
      cases ok

end Household

namespace Visit

variable {v : Visit} {i : Int} {row : SaleRecord}

theorem serve_told (told : (v.serve d).1 = .settled (.fulfilled sale)) :
    ∃ mid, Fulfilment.fulfil sale.id v.paymentId v.now v.settings.otherMemberTypes d =
        .ok (.fulfilled sale) mid ∧ mid.Frame [.values] (v.serve d).2 ∧
      Household.keep v.settings sale v.now mid = .ok () (v.serve d).2 := by
  have effect := v.serve_effect d
  generalize v.serve d = r at effect told
  cases effect with
  | idle _ _ _ _ untold => exact absurd told (untold sale)
  | enters _ _ _ _ _ untold => exact absurd told (untold sale)
  | fulfils other _ mid d' fulfil frame _ only =>
      obtain ⟨rfl, kept⟩ := only sale told
      exact ⟨mid, fulfil, frame, kept⟩

/-- The first person of a fulfilled sale has its total as last payment. -/
theorem serve_holds (h : d.WellKept) (told : (v.serve d).1 = .settled (.fulfilled sale)) :
    ∃ total, sale.total = .ok total ∧ (v.serve d).2.store.Holds sale.primary.userId
      ProfileField.lastPayment.name total.pence := by
  have completes := completes_of_told told
  obtain ⟨mid, fulfil, frame, kept⟩ := serve_told told
  have installed := h.installed.of_frame ((Fulfilment.fulfil_touches _ _ _ _).of_ok fulfil)
  have user : mid.store.users.contains sale.primary.userId = true := by
    obtain ⟨i, m, row, own⟩ := (serve_paidFor h.installed completes).members sale.primary.userId
      List.mem_cons_self
    have account := (serve_wellKept h v).store.memberOwners i m row
    rw [(Store.isMembership_eq_true.mp own).1, frame.store.users (by simp)] at account
    exact Store.Table.contains_eq_true.mpr account
  exact Household.record_holds installed user (Household.keep_ok installed.connected kept)

/-- A sale stays as it was entered until it is completed. -/
theorem serve_row_or_completed (v : Visit) (entered : d.store.sales.find? i = some row) :
    (v.serve d).2.store.sales.find? i = some row ∨
      ∃ done, (v.serve d).2.store.Completed i done := by
  cases completes : v.completes d with
  | none =>
      exact .inl (v.serve_row entered fun sale some => nomatch completes.symm.trans some)
  | some sale =>
      by_cases same : sale.id = i
      · obtain ⟨mid, fulfil, frame⟩ := serve_completes completes
        refine .inr ⟨sale.record, ?_, (Fulfilment.fulfil_sale fulfil).2⟩
        rw [frame.store.sales (by simp), ← same]
        exact Fulfilment.fulfil_row fulfil
      · refine .inl (v.serve_row entered fun other some => ?_)
        cases completes.symm.trans some
        exact same

end Visit

namespace Desk

variable {i : Int} {row : SaleRecord}

theorem row_or_completed (entered : d.store.sales.find? i = some row) (visits : List Visit) :
    (d.after visits).store.sales.find? i = some row ∨
      ∃ done, (d.after visits).store.Completed i done := by
  refine after_induction (P := fun d => d.store.sales.find? i = some row ∨
    ∃ done, d.store.Completed i done) visits (.inl entered) fun d v _ before => ?_
  rcases before with entered | ⟨done, completed⟩
  · exact v.serve_row_or_completed entered
  · exact .inr ⟨done, v.serve_keeps completed⟩

/-- A sale that is told to be fulfilled comes to what is read from the row that it was entered
in. -/
theorem told_total (entered : d.store.sales.find? sale.id = some row) (visits : List Visit)
    {v : Visit} (told : (v.serve (d.after visits)).1 = .settled (.fulfilled sale)) :
    ∃ entry, row.sale? sale.id = some entry ∧ sale.total = entry.total := by
  obtain ⟨mid, fulfil, _⟩ := Visit.serve_told told
  obtain ⟨entry, _, _, looked, _⟩ := Fulfilment.fulfil_ok fulfil
  obtain ⟨_, found, stored, read⟩ := Store.sale?_ok.mp looked
  rcases row_or_completed entered visits with same | ⟨done, completed⟩
  · cases same.symm.trans stored
    exact ⟨entry, read, (Fulfilment.fulfil_entry fulfil looked).2⟩
  · exact absurd completed (Fulfilment.fulfil_pending fulfil)

end Desk

end Dues
