import Dues.Proofs.Purchase.Visit

/-! # Completed sales are final

The row of a completed sale never changes again, at whatever desk: a sale is replaced only while its
own entry is pending. So a sale is fulfilled once at most, and whoever asks for it again is told so.
-/

namespace Dues

open Dues.Time (Instant)

/-- Whether an answer tells that a sale has just been fulfilled. -/
def Answer.fulfils (saleId : Int) (answer : Answer) : Bool :=
  answer.fulfilled?.any fun sale => sale.id == saleId

theorem Answer.eq_of_fulfils {answer : Answer} {saleId : Int}
    (h : answer.fulfils saleId = true) :
    ∃ sale, answer = .settled (.fulfilled sale) ∧ sale.id = saleId := by
  obtain ⟨sale, told, same⟩ := (Option.any_eq_true _ _).mp h
  exact ⟨sale, Answer.fulfilled?_eq_some.mp told, beq_iff_eq.mp same⟩

/-- A sale whose row is complete. -/
def Store.Completed (s : Store) (saleId : Int) (record : SaleRecord) : Prop :=
  s.sales.find? saleId = some record ∧ record.status = .complete

namespace Fulfilment

variable {d d' : Desk} {saleId i : Int} {paymentId : String} {now : Instant}
  {withAssociate : Bool} {sale : Sale} {record : SaleRecord}

theorem fulfil_pending (ok : fulfil saleId paymentId now withAssociate d = .ok (.fulfilled sale) d') :
    ¬ d.store.Completed saleId record := by
  rintro ⟨row, complete⟩
  obtain ⟨entry, _, _, entered, pending, _⟩ := fulfil_ok ok
  obtain ⟨_, record', row', read⟩ := Store.sale?_ok.mp entered
  cases row.symm.trans row'
  exact pending ((SaleRecord.sale?_id read).2.trans complete)

end Fulfilment

theorem Checkout.settle_complete {settings : Settings} {now : Instant} {saleId : Int}
    {paymentId : String} {d : Desk} {sale : Sale} (found : SaleBook.find saleId d = .ok sale d)
    (complete : sale.status = .complete) :
    settle settings now saleId paymentId d = .ok (.alreadyComplete sale) d := by
  have connected := (SaleBook.find_ok.mp found).1
  have fulfil : Fulfilment.fulfil saleId paymentId now settings.otherMemberTypes d =
      .ok (.alreadyComplete sale) d :=
    Fulfilment.fulfil_alreadyComplete.mpr ⟨found, complete, rfl⟩
  exact (Action.bind_of_ok (Action.orFail_ok.mpr (Action.transaction_ok.mpr
    ⟨connected, fulfil⟩))).trans (Action.bind_of_ok rfl)

namespace Visit

variable {d : Desk} {saleId : Int} {record : SaleRecord}

theorem serve_keeps (v : Visit) (completed : d.store.Completed saleId record) :
    (v.serve d).2.store.Completed saleId record := by
  refine ⟨v.serve_row completed.1 fun sale completes same => ?_, completed.2⟩
  obtain ⟨_, mid, _, fulfil⟩ := completes_eq_some.mp completes
  rw [← (Fulfilment.fulfil_sale fulfil).1, same] at fulfil
  exact Fulfilment.fulfil_pending fulfil completed

/-- A sale is complete from the moment on that a visitor is told of its fulfilment. -/
theorem completed_of_fulfils (v : Visit) (told : (v.serve d).1.fulfils saleId = true) :
    (∀ record, ¬ d.store.Completed saleId record) ∧
      ∃ record, (v.serve d).2.store.Completed saleId record := by
  obtain ⟨sale, answer, rfl⟩ := Answer.eq_of_fulfils told
  obtain ⟨mid, fulfil, frame⟩ := serve_completes (completes_of_told answer)
  refine ⟨fun record => Fulfilment.fulfil_pending fulfil, sale.record, ?_,
    (Fulfilment.fulfil_sale fulfil).2⟩
  rw [frame.store.sales (by simp)]
  exact Fulfilment.fulfil_row fulfil

end Visit

namespace Desk

variable {saleId : Int} {record : SaleRecord}

theorem completed_after {d : Desk} (visits : List Visit)
    (completed : d.store.Completed saleId record) :
    (d.after visits).store.Completed saleId record :=
  after_induction (P := fun d => d.store.Completed saleId record) visits completed
    fun _ v _ => v.serve_keeps

theorem countP_answers_of_completed (d : Desk) (visits : List Visit)
    (completed : d.store.Completed saleId record) :
    (d.answers visits).countP (Answer.fulfils saleId) = 0 := by
  induction visits generalizing d with
  | nil => rfl
  | cons v visits ih =>
      have untold : ¬ (v.serve d).1.fulfils saleId = true := fun told =>
        (v.completed_of_fulfils told).1 record completed
      rw [answers, List.countP_cons_of_neg untold]
      exact ih _ (v.serve_keeps completed)

/-- No sale is fulfilled twice in a run. -/
theorem countP_answers_le_one (d : Desk) (visits : List Visit) :
    (d.answers visits).countP (Answer.fulfils saleId) ≤ 1 := by
  induction visits generalizing d with
  | nil => exact Nat.zero_le 1
  | cons v visits ih =>
      rw [answers]
      by_cases told : (v.serve d).1.fulfils saleId = true
      · obtain ⟨record, completed⟩ := (v.completed_of_fulfils told).2
        have others := countP_answers_of_completed _ visits completed
        exact Nat.le_of_eq (by rw [List.countP_cons_of_pos told, others])
      · rw [List.countP_cons_of_neg told]
        exact ih _

theorem answers_alreadyComplete {d : Desk} {sale : Sale} (found : SaleBook.find saleId d = .ok sale d)
    (complete : sale.status = .complete) (visits : List Visit)
    (asked : ∀ v ∈ visits, v.saleId? = some saleId) :
    d.answers visits = visits.map (fun _ => .settled (.alreadyComplete sale)) ∧
      d.after visits = d := by
  induction visits with
  | nil => exact ⟨rfl, rfl⟩
  | cons v visits ih =>
      have served := v.serve_of_settle (asked v List.mem_cons_self)
        (Checkout.settle_complete found complete)
      obtain ⟨answers, rest⟩ := ih fun w mem => asked w (List.mem_cons_of_mem v mem)
      rw [Desk.answers, after_cons, served]
      exact ⟨congrArg _ answers, rest⟩

/-- A completed sale is final. Asking for it again changes nothing and tells what is stored; in a
run at most one visit is told that it has fulfilled the sale; and its row stays as it is for good. -/
theorem completed_sale_is_final (d : Desk) (saleId : Int) :
    (∀ sale, SaleBook.find saleId d = .ok sale d → sale.status = .complete →
      ∀ visits : List Visit, (∀ v ∈ visits, v.saleId? = some saleId) →
        d.answers visits = visits.map (fun _ => .settled (.alreadyComplete sale)) ∧
          d.after visits = d) ∧
    (∀ visits, (d.answers visits).countP (Answer.fulfils saleId) ≤ 1) ∧
    ∀ before later record, (d.after before).store.sales.find? saleId = some record →
      record.status = .complete →
        (d.after (before ++ later)).store.sales.find? saleId = some record := by
  refine ⟨fun sale found complete visits asked => ?_, fun visits => ?_, ?_⟩
  · exact answers_alreadyComplete found complete visits asked
  · exact countP_answers_le_one d visits
  · intro before later record row complete
    rw [after_append]
    exact (completed_after later ⟨row, complete⟩).1

/-- A payment is reported a second time, and the sale is then settled with another session. -/
theorem paid_twice_is_fulfilled_once :
    let desk := initial.after [.sampleStart 1757930400
        { firstName := "Ada", lastName := "Lovelace", email := "ada@example.org" },
      .sampleReturn 1757934000 1]
    let again := [.sampleReturn 1757937600 1,
      .settles { Settings.sample with otherMemberTypes := false } (.ofSeconds 1760522400 0) 1 "other"]
    ∃ sale, sale.status = .complete ∧
      desk.answers again = again.map (fun _ => .settled (.alreadyComplete sale)) ∧
      desk.after again = desk := by
  intro desk again
  have completed : ((desk.store.sales.find? 1).any fun record =>
      record.status = .complete && (record.sale? 1).isSome) = true := by decide +kernel
  obtain ⟨record, row, completed⟩ := (Option.any_eq_true _ _).mp completed
  obtain ⟨complete, readable⟩ := Bool.and_eq_true_iff.mp completed
  obtain ⟨sale, read⟩ := Option.isSome_iff_exists.mp readable
  have found : SaleBook.find 1 desk = .ok sale desk :=
    SaleBook.find_ok.mpr ⟨by decide +kernel, Store.sale?_ok.mpr ⟨by decide +kernel, record, row, read⟩,
      rfl⟩
  have status := (SaleRecord.sale?_id read).2.trans (of_decide_eq_true complete)
  exact ⟨sale, status, (completed_sale_is_final desk 1).1 sale found status again (by decide +kernel)⟩

end Desk

end Dues
