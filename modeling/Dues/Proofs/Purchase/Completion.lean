import Dues.Proofs.Purchase.Entitlement
import Dues.Proofs.Purchase.Evidence

/-! # Who a completed sale provides for

A sale in a run is completed by one of its visits, and it is the settings of that visit which decide
whether the associate counts. Those of the visit that priced the sale may have been others, and so
may those of whoever asks for the sale later.
-/

namespace Dues

open Dues.Time (Instant)
open Dues.Time.MembershipYear (ends)

/-- A sale whose first person has an account, and whose associate has one just where there is an
associate and they count. Whoever has an account is paid up for the year of the sale. -/
structure Sale.Provisioned (sale : Sale) (withAssociate : Bool) (s : Store) : Prop where
  primary : 0 < sale.primary.userId
  counted : (withAssociate && sale.associate.isPresent) = true → 0 < sale.associate.userId
  uncounted : (withAssociate && sale.associate.isPresent) = false → sale.associate.userId = 0
  entitled : s.Entitled sale.primary.userId sale.year
  associate : sale.associate.userId ≠ 0 → s.Entitled sale.associate.userId sale.year

/-- Two versions of a sale that name the same persons, for the same year. -/
structure Sale.SameHousehold (sale other : Sale) : Prop where
  id : sale.id = other.id
  year : sale.year = other.year
  primary : sale.primary.userId = other.primary.userId
  associate : sale.associate.userId = other.associate.userId
  firstName : sale.associate.firstName = other.associate.firstName

namespace Sale

variable {sale other : Sale} {withAssociate : Bool} {s s' : Store}

theorem Provisioned.associate_nonneg (h : sale.Provisioned withAssociate s) :
    0 ≤ sale.associate.userId := by
  cases counts : withAssociate && sale.associate.isPresent with
  | true => exact Int.le_of_lt (h.counted counts)
  | false => exact Int.le_of_eq (h.uncounted counts).symm

theorem Provisioned.of_paysUntil (h : sale.Provisioned withAssociate s)
    (pays : s.PaysUntil (ends sale.year) s') : sale.Provisioned withAssociate s' :=
  ⟨h.primary, h.counted, h.uncounted, pays.entitled h.entitled,
    fun known => pays.entitled (h.associate known)⟩

theorem SameHousehold.provisioned (h : sale.SameHousehold other)
    (provisioned : other.Provisioned withAssociate s) : sale.Provisioned withAssociate s := by
  obtain ⟨primary, counted, uncounted, entitled, associate⟩ := provisioned
  have present : sale.associate.isPresent = other.associate.isPresent := by
    rw [Participant.isPresent, h.firstName, Participant.isPresent]
  rw [← h.associate] at counted uncounted associate
  rw [← h.primary] at primary entitled
  rw [← h.year] at entitled associate
  rw [← present] at counted uncounted
  exact ⟨primary, counted, uncounted, entitled, associate⟩

theorem userRef_getD {userId : Int} (h : 0 ≤ userId) : (userRef userId).getD 0 = userId := by
  unfold userRef
  split
  next => rfl
  next unknown => exact Int.le_antisymm h (Int.not_lt.mp unknown)

theorem Provisioned.sameHousehold (h : other.Provisioned withAssociate s)
    (read : other.record.sale? other.id = some sale) : sale.SameHousehold other := by
  obtain ⟨_, _, _, _, first, second, _, _, rfl⟩ := SaleRecord.sale?_eq_some.mp read
  obtain ⟨_, _, _, _, rfl⟩ := ParticipantRecord.participant?_eq_some.mp first
  obtain ⟨_, _, _, _, rfl⟩ := ParticipantRecord.participant?_eq_some.mp second
  refine ⟨rfl, rfl, userRef_getD (Int.le_of_lt h.primary), ?_, rfl⟩
  dsimp only [record, Participant.record]
  split
  next => exact userRef_getD h.associate_nonneg
  next absent =>
    rw [Bool.not_eq_true] at absent
    exact (h.uncounted (by rw [absent, Bool.and_false])).symm

end Sale

namespace Fulfilment

variable {d d' : Desk} {saleId : Int} {paymentId : String} {now : Instant} {withAssociate : Bool}
  {sale : Sale}

/-- Fulfilment provides for everyone who counts then, and for nobody else. -/
theorem fulfil_provisioned (h : d.Installed)
    (ok : fulfil saleId paymentId now withAssociate d = .ok (.fulfilled sale) d') :
    sale.Provisioned withAssociate d'.store := by
  obtain ⟨primary, associate, _⟩ := fulfil_entitles h.roleNamesDiffer ok
  obtain ⟨entry, found, between, primaryId, associateId, _, rfl, provides⟩ := fulfil_provides h ok
  exact ⟨userId_pos provides.primary, fun counts => userId_pos (provides.associate counts),
    fun alone => (provides.alone alone).1, primary, associate⟩

end Fulfilment

namespace Visit

variable {d : Desk} {v : Visit}

theorem serve_provisioned (h : d.Installed) {sale : Sale} (completes : v.completes d = some sale) :
    sale.Provisioned v.settings.otherMemberTypes (v.serve d).2.store := by
  obtain ⟨mid, fulfil, frame⟩ := serve_completes completes
  exact (Fulfilment.fulfil_provisioned h fulfil).of_paysUntil
    (.of_frame frame.store (by simp) (by simp))

theorem settle_of_told {outcome : Outcome} (told : (v.serve d).1 = .settled outcome) :
    ∃ saleId, v.saleId? = some saleId ∧
      Checkout.settle v.settings v.now saleId v.paymentId d = .ok outcome (v.serve d).2 := by
  cases settles : v.saleId? with
  | some saleId =>
      have served := v.serve_settles d settles
      cases ran : Checkout.settle v.settings v.now saleId v.paymentId d with
      | ok outcome' d' =>
          rw [ran] at served
          rw [served] at told ⊢
          cases told
          exact ⟨saleId, rfl, ran⟩
      | error stop d' =>
          rw [ran] at served
          obtain ⟨answer, served, stopped⟩ := served
          rw [served] at told
          exact absurd told (Answer.ne_settled stopped outcome)
  | none =>
      cases v with
      | settles => cases settles
      | starts provider state settings now order =>
          dsimp only [serve] at told
          cases ran : Checkout.start settings provider now order ⟨d, state⟩ <;>
            · rw [ran] at told
              cases told
      | returns provider state settings now sessionId =>
          obtain ⟨e, unsettled⟩ := Checkout.finish_unsettled settings provider now sessionId
            d state fun details state' found => by
              dsimp only [saleId?] at settles
              rwa [found] at settles
          dsimp only [serve] at told
          rw [unsettled] at told
          cases told

/-- What a visitor is told of a settled sale: it has been completed on this visit, or its row was
complete before. -/
theorem told_cases {outcome : Outcome} (told : (v.serve d).1 = .settled outcome) :
    v.completes d = some outcome.sale ∨
      ∃ record, d.store.sales.find? outcome.sale.id = some record ∧ record.status = .complete ∧
        record.sale? outcome.sale.id = some outcome.sale := by
  cases outcome with
  | fulfilled sale => exact .inl (completes_of_told told)
  | alreadyComplete sale =>
      obtain ⟨saleId, _, settled⟩ := settle_of_told told
      have become := Checkout.settle_settled v.settings v.now saleId v.paymentId d
      rw [settled] at become
      generalize (v.serve d).2 = d' at become
      cases become with
      | complete _ found status =>
          obtain ⟨_, entered, _⟩ := SaleBook.find_ok.mp found
          obtain ⟨_, record, row, read⟩ := Store.sale?_ok.mp entered
          obtain ⟨id, same⟩ := SaleRecord.sale?_id read
          rw [← id] at row read
          exact .inr ⟨record, row, same.symm.trans status, read⟩

end Visit

namespace Desk

/-- In a run, the visit `w` has completed the sale `done`, with the visits `before` behind it. -/
structure CompletedIn (visits before : List Visit) (w : Visit) (done : Sale) : Prop where
  place : ∃ later, visits = before ++ w :: later
  completes : w.completes (initial.after before) = some done

variable {visits before : List Visit} {v w : Visit} {done : Sale}

theorem CompletedIn.append (h : CompletedIn visits before w done) (later : List Visit) :
    CompletedIn (visits ++ later) before w done := by
  obtain ⟨⟨rest, rfl⟩, completes⟩ := h
  exact ⟨⟨rest ++ later, by rw [List.append_assoc, List.cons_append]⟩, completes⟩

theorem CompletedIn.provisioned (h : CompletedIn visits before w done) :
    done.Provisioned w.settings.otherMemberTypes (initial.after (before ++ [w])).store := by
  have provisioned := Visit.serve_provisioned (initial_installed.after before) h.completes
  rw [after_append]
  exact provisioned

/-- Every complete row has been written by the visit that completed the sale. -/
theorem completed_in (visits : List Visit) {i : Int} {record : SaleRecord}
    (row : (initial.after visits).store.sales.find? i = some record)
    (complete : record.status = .complete) :
    ∃ before w done, CompletedIn visits before w done ∧ done.id = i ∧ record = done.record := by
  induction visits using List.reverseRecOn with
  | nil =>
      have empty := initial.store.sales.find?_of_empty (i := i) (by decide +kernel)
      cases row.symm.trans empty
  | append_singleton visits v ih =>
      rw [after_append] at row
      rcases v.serve_row_cases row with old | unpaid | ⟨sale, completes, same, rfl⟩
      · obtain ⟨before, w, done, completed, number, same⟩ := ih old
        exact ⟨before, w, done, completed.append [v], number, same⟩
      · cases unpaid.status.symm.trans complete
      · exact ⟨visits, v, sale, ⟨⟨[], rfl⟩, completes⟩, same, rfl⟩

/-- Whoever is told that a sale is settled, just now or before, is told of the persons that it was
completed for. -/
theorem told_completedIn {outcome : Outcome}
    (told : (v.serve (initial.after visits)).1 = .settled outcome) :
    ∃ before w done, CompletedIn (visits ++ [v]) before w done ∧
      outcome.sale.SameHousehold done := by
  rcases Visit.told_cases told with completes | ⟨record, row, complete, read⟩
  · exact ⟨visits, v, outcome.sale, ⟨⟨[], rfl⟩, completes⟩, rfl, rfl, rfl, rfl, rfl⟩
  · obtain ⟨before, w, done, completed, number, rfl⟩ := completed_in visits row complete
    rw [← number] at read
    exact ⟨before, w, done, completed.append [v], completed.provisioned.sameHousehold read⟩

end Desk

end Dues
