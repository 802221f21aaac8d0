import Dues.Proofs.Money.Binary64
import Dues.Proofs.Sale.Record

/-! # Amounts in the book

Whoever is charged for a sale is charged for each of its amounts. So none of them is beyond what a
charge can come to, and the book gives back amounts that can be added up again.
-/

namespace Dues

open Dues.Money

/-- In pounds, more than any charge comes to. -/
def beyondCharge : Nat := Nat.pow 2 57

/-- In pounds, more than any amount that is read for one that was charged. -/
def beyondReading : Nat := 2 * (32 * beyondCharge + 136)

/-- The amounts of a sale that is charged are within what can be charged. -/
theorem Sale.amounts_atMost {sale : Sale} {total : Decimal} {pennies : Int}
    (summed : sale.total = .ok total) (positive : total.isPositive = true)
    (priced : total.pennies = .ok (some pennies)) : ∀ a ∈ sale.amounts, a.AtMost beyondCharge := by
  unfold Sale.total at summed
  split at summed
  next =>
    cases summed
    cases positive
  next nonnegative =>
    have natural : ∀ a ∈ sale.amounts, ∃ c : Nat, a.coefficient = c := by
      intro a mem
      have notNegative : ¬ a.coefficient < 0 := fun negative =>
        nonnegative (List.any_eq_true.mpr ⟨a, mem, decide_eq_true negative⟩)
      exact Int.eq_ofNat_of_zero_le (Int.not_lt.mp notNegative)
    have atLeast : ∀ a ∈ sale.amounts, a.AtLeast 0 := by
      intro a mem
      obtain ⟨c, same⟩ := natural a mem
      exact ⟨c, same, (Nat.zero_mul _).trans_le (Nat.zero_le c)⟩
    intro a mem
    obtain ⟨c, same⟩ := natural a mem
    have ten := ten_pow_pos a.scale
    have charged := (Decimal.foldlM_atLeast Decimal.zero_atLeast atLeast summed).2 a mem
      (c / Nat.pow 10 a.scale) ⟨c, same, Nat.div_mul_le_self _ _⟩
    obtain ⟨large, fits⟩ := Decimal.pennies_ge charged priced
    have small : c / Nat.pow 10 a.scale < beyondCharge := by
      have bounds := of_decide_eq_true fits
      have power : (Nat.pow 2 (64 - 1) : Int) = 9223372036854775808 := by decide
      have beyond : beyondCharge = 144115188075855872 := by decide
      omega
    refine ⟨c, same, ?_⟩
    exact Nat.le_of_lt ((Nat.div_lt_iff_lt_mul ten).mp small)

theorem Participant.participant?_succeeds {p : Participant} {n : Nat} (ref : Option Int)
    (fee : p.fee.AtMost n) (friendFee : p.friendFee.AtMost n)
    (limit : 2 * (32 * n + 136) < coefficientLimit) :
    ∃ read, (p.record ref).participant? = some read ∧ read.fee.AtMost (2 * (32 * n + 136)) ∧
      read.friendFee.AtMost (2 * (32 * n + 136)) := by
  obtain ⟨fee', readFee, feeSmall⟩ := Binary64.toDecimal?_ofDecimal fee limit
  obtain ⟨friendFee', readFriendFee, friendFeeSmall⟩ :=
    Binary64.toDecimal?_ofDecimal friendFee limit
  exact ⟨_, ParticipantRecord.participant?_eq_some.mpr ⟨fee', friendFee', readFee, readFriendFee, rfl⟩,
    feeSmall, friendFeeSmall⟩

namespace Sale

variable {sale : Sale} {n : Nat}

/-- No amount on a sale is more than `n` pounds, be it charged or not. -/
structure AmountsAtMost (sale : Sale) (n : Nat) : Prop where
  fee : sale.primary.fee.AtMost n
  friendFee : sale.primary.friendFee.AtMost n
  associateFee : sale.associate.fee.AtMost n
  associateFriendFee : sale.associate.friendFee.AtMost n
  toSociety : sale.donationToSociety.AtMost n
  toMuseum : sale.donationToMuseum.AtMost n

theorem amountsAtMost_of_charged (small : ∀ a ∈ sale.amounts, a.AtMost n)
    (noFriend : sale.primary.friend = false → sale.primary.friendFee = Decimal.zero) :
    sale.AmountsAtMost n := by
  unfold amounts at small
  refine ⟨small _ (by simp), ?_, small _ (by simp), small _ (by simp), small _ (by simp),
    small _ (by simp)⟩
  have listed := small (if sale.primary.friend then sale.primary.friendFee else Decimal.zero)
    (by simp)
  cases friend : sale.primary.friend with
  | true => rwa [friend, if_pos rfl] at listed
  | false =>
      rw [noFriend friend]
      exact Decimal.zero_atMost

theorem total_succeeds (small : sale.AmountsAtMost n) (limit : 6 * n < coefficientLimit) :
    ∃ total, sale.total = .ok total := by
  unfold total
  split
  next => exact ⟨_, rfl⟩
  next =>
    refine Decimal.sum_succeeds (m := n) (fun a mem => ?_) limit
    simp only [amounts, List.mem_cons, List.not_mem_nil, or_false] at mem
    rcases mem with rfl | rfl | rfl | rfl | rfl | rfl
    · exact small.fee
    · split
      next => exact small.friendFee
      next => exact Decimal.zero_atMost
    · exact small.associateFee
    · exact small.associateFriendFee
    · exact small.toSociety
    · exact small.toMuseum

theorem sale?_of_small (id : Int) (small : sale.AmountsAtMost n)
    (limit : 2 * (32 * n + 136) < coefficientLimit) :
    ∃ entry, sale.record.sale? id = some entry ∧ entry.AmountsAtMost (2 * (32 * n + 136)) := by
  obtain ⟨primary, readPrimary, fee, friendFee⟩ :=
    Participant.participant?_succeeds (userRef sale.primary.userId) small.fee small.friendFee limit
  obtain ⟨associate, readAssociate, associateFee, associateFriendFee⟩ :=
    Participant.participant?_succeeds
      (if sale.associate.isPresent then userRef sale.associate.userId else none)
      small.associateFee small.associateFriendFee limit
  obtain ⟨toSociety, readSociety, societySmall⟩ :=
    Binary64.toDecimal?_ofDecimal small.toSociety limit
  obtain ⟨toMuseum, readMuseum, museumSmall⟩ := Binary64.toDecimal?_ofDecimal small.toMuseum limit
  exact ⟨_, SaleRecord.sale?_eq_some.mpr ⟨primary, associate, toSociety, toMuseum, readPrimary,
    readAssociate, readSociety, readMuseum, rfl⟩, fee, friendFee, associateFee, associateFriendFee,
    societySmall, museumSmall⟩

/-- The book gives back a sale that can be charged, with amounts that have a sum. -/
theorem sale?_succeeds (id : Int) (small : ∀ a ∈ sale.amounts, a.AtMost beyondCharge)
    (noFriend : sale.primary.friend = false → sale.primary.friendFee = Decimal.zero) :
    ∃ entry, sale.record.sale? id = some entry ∧ entry.AmountsAtMost beyondReading ∧
      ∃ total, entry.total = .ok total := by
  obtain ⟨entry, read, within⟩ :=
    sale?_of_small id (amountsAtMost_of_charged small noFriend) (by decide)
  exact ⟨entry, read, within, total_succeeds within (by decide)⟩

end Sale

end Dues
