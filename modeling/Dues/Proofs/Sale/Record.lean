import Dues.Sale.Record

/-! # Reading a stored sale

A sale that is read from its row differs from the one that was stored in its amounts at most.
-/

namespace Dues

theorem ParticipantRecord.participant?_eq_some {r : ParticipantRecord} {p : Participant} :
    r.participant? = some p ↔ ∃ fee friendFee, r.fee.toDecimal? = some fee ∧
      r.friendFee.toDecimal? = some friendFee ∧
        p = ⟨r.userRef.getD 0, r.firstName, r.lastName, r.email, fee, r.friend, friendFee⟩ := by
  unfold participant?
  simp only [bind, Option.bind_eq_some_iff, pure, Option.some.injEq]
  constructor
  · rintro ⟨fee, hf, friendFee, hff, rfl⟩
    exact ⟨fee, friendFee, hf, hff, rfl⟩
  · rintro ⟨fee, friendFee, hf, hff, rfl⟩
    exact ⟨fee, hf, friendFee, hff, rfl⟩

theorem SaleRecord.sale?_eq_some {r : SaleRecord} {id : Int} {sale : Sale} :
    r.sale? id = some sale ↔ ∃ primary associate toSociety toMuseum,
      r.primary.participant? = some primary ∧ r.associate.participant? = some associate ∧
        r.donationToSociety.toDecimal? = some toSociety ∧
        r.donationToMuseum.toDecimal? = some toMuseum ∧
        sale = ⟨id, r.paymentService, r.status, r.paymentId, r.kind, r.year, primary, associate,
          toSociety, toMuseum, r.giftAid⟩ := by
  unfold sale?
  simp only [bind, Option.bind_eq_some_iff, pure, Option.some.injEq]
  constructor
  · rintro ⟨primary, hp, associate, ha, toSociety, hs, toMuseum, hm, rfl⟩
    exact ⟨primary, associate, toSociety, toMuseum, hp, ha, hs, hm, rfl⟩
  · rintro ⟨primary, associate, toSociety, toMuseum, hp, ha, hs, hm, rfl⟩
    exact ⟨primary, hp, associate, ha, toSociety, hs, toMuseum, hm, rfl⟩

theorem SaleRecord.sale?_id {r : SaleRecord} {id : Int} {sale : Sale} (h : r.sale? id = some sale) :
    sale.id = id ∧ sale.status = r.status := by
  obtain ⟨_, _, _, _, _, _, _, _, rfl⟩ := SaleRecord.sale?_eq_some.mp h
  exact ⟨rfl, rfl⟩

/-- Nothing else about a sale is changed by writing it to the book and reading it. -/
theorem Sale.sale?_record {sale entry : Sale} {id : Int} (h : sale.record.sale? id = some entry) :
    entry.status = sale.status ∧ entry.year = sale.year ∧
      entry.primary.email = sale.primary.email ∧
      entry.associate.firstName = sale.associate.firstName := by
  obtain ⟨_, _, _, _, primary, associate, _, _, rfl⟩ := SaleRecord.sale?_eq_some.mp h
  obtain ⟨_, _, _, _, rfl⟩ := ParticipantRecord.participant?_eq_some.mp primary
  obtain ⟨_, _, _, _, rfl⟩ := ParticipantRecord.participant?_eq_some.mp associate
  exact ⟨rfl, rfl, rfl, rfl⟩

end Dues
