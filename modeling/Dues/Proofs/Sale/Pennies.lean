import Dues.Proofs.Money.Charge
import Dues.Proofs.Money.ReadBack
import Dues.Proofs.Sale.Amounts

/-! # Sales in whole pennies

Where no amount of a sale has more than two places, the sale comes to the same pennies before and
after it has been in the book. The book adds less than a tenth of a penny to each amount, and a sale
has six of them.
-/

namespace Dues

open Dues.Money

namespace Money

variable {d r : Decimal} {n c : Nat}

/-- Whole pennies are read from the book, give or take less than they count. -/
theorem Binary64.readBack_within (natural : d.coefficient = c) (places : d.scale ≤ 2)
    (small : d.cutOff < preciseLimit) (read : (Binary64.ofDecimal d).toDecimal? = some r) :
    r.Within (10 * d.cutOff) (10 * d.cutOff + 1) := by
  have value := ofDecimal_pennies places natural (Decimal.cutOff_eq natural places).symm small
  exact toDecimal?_within value small read

theorem Decimal.AtMost.cutOff_le (h : d.AtMost n) : d.cutOff ≤ 100 * n := by
  obtain ⟨c, natural, le⟩ := h
  have parts := cutOff_add_tail natural
  refine Nat.le_of_mul_le_mul_right ?_ (ten_pow_pos d.scale)
  rw [Nat.mul_assoc]
  omega

end Money

namespace Sale

variable {sale entry : Sale} {total total' : Decimal} {amount : Int} {p : Nat} {id : Int}

/-- The pennies that the amounts of a sale have together. -/
def pennies (sale : Sale) : Nat := (sale.amounts.map Decimal.cutOff).sum

/-- A sale with amounts near those of another one comes to a total near that of the other one. -/
theorem total_within (slack : Nat) (small : 10 * sale.pennies + 6 * slack < coefficientLimit)
    (near : List.Forall₂ (fun a b : Decimal => b.Within (10 * a.cutOff) (10 * a.cutOff + slack))
      sale.amounts entry.amounts) (summed : entry.total = .ok total) :
    total.Within (10 * sale.pennies) (10 * sale.pennies + 6 * slack) := by
  have each : List.Forall₂ (fun b a : Decimal => b.isNegative = false ∧
      b.Within (10 * a.cutOff) (10 * a.cutOff + slack)) entry.amounts sale.amounts :=
    near.flip.imp fun b a close => ⟨Decimal.Within.not_negative close, close⟩
  have natural := ((List.forall₂_and_left _ _).mp each).1
  have none : entry.amounts.any Decimal.isNegative = false := by
    rw [List.any_eq_false]
    exact fun b mem => Bool.eq_false_iff.mp (natural b mem)
  have length : sale.amounts.length = 6 := rfl
  rw [Sale.total, none, if_neg Bool.false_ne_true] at summed
  have within := Decimal.foldlM_within (n := 0) (k := 0) near Decimal.zero_within
    (by rwa [length, Nat.zero_add, Nat.zero_add]) summed
  rwa [length, Nat.zero_add, Nat.zero_add] at within

/-- Where no amount has more than two places, the sale is charged in the pennies of its amounts. -/
theorem charged_pennies (summed : sale.total = .ok total) (positive : total.isPositive = true)
    (priced : total.pennies = .ok (some amount)) (places : ∀ a ∈ sale.amounts, a.scale ≤ 2) :
    amount = sale.pennies ∧ total.Within (10 * sale.pennies) (10 * sale.pennies) := by
  have charged := amounts_atMost summed positive priced
  have near : List.Forall₂ (fun a b : Decimal => b.Within (10 * a.cutOff) (10 * a.cutOff + 0))
      sale.amounts sale.amounts := by
    refine List.forall₂_same.mpr fun a mem => ?_
    obtain ⟨c, natural, _⟩ := charged a mem
    exact Decimal.within_cutOff natural (places a mem)
  have few : sale.pennies ≤ 6 * (100 * beyondCharge) := by
    refine List.sum_le_card_nsmul _ _ fun n mem => ?_
    obtain ⟨a, listed, rfl⟩ := List.mem_map.mp mem
    exact (charged a listed).cutOff_le
  have beyond : 6 * (1000 * beyondCharge) < coefficientLimit := by decide
  have whole := total_within 0 (by omega) near summed
  exact ⟨Decimal.pennies_of_within whole priced, whole⟩

theorem read_pennies (summed : sale.total = .ok total) (positive : total.isPositive = true)
    (priced : total.pennies = .ok (some amount)) (places : ∀ a ∈ sale.amounts, a.scale ≤ 2)
    (small : sale.pennies < preciseLimit)
    (read : sale.record.sale? id = some entry) (summed' : entry.total = .ok total') :
    total'.Within (10 * sale.pennies) (10 * sale.pennies + 6) := by
  have charged := amounts_atMost summed positive priced
  have near : ∀ a ∈ sale.amounts, ∀ b, (Binary64.ofDecimal a).toDecimal? = some b →
      b.Within (10 * a.cutOff) (10 * a.cutOff + 1) := by
    intro a mem b read
    obtain ⟨c, natural, _⟩ := charged a mem
    have le : a.cutOff ≤ sale.pennies := List.le_sum_of_mem (List.mem_map_of_mem mem)
    exact Binary64.readBack_within natural (places a mem) (Nat.lt_of_le_of_lt le small) read
  have precise : 10 * preciseLimit + 6 < coefficientLimit := by decide
  refine total_within 1 (by omega) ?_ summed'
  obtain ⟨primary, associate, toSociety, toMuseum, readPrimary, readAssociate, readSociety,
    readMuseum, rfl⟩ := SaleRecord.sale?_eq_some.mp read
  obtain ⟨fee, friendFee, readFee, readFriendFee, rfl⟩ :=
    ParticipantRecord.participant?_eq_some.mp readPrimary
  obtain ⟨associateFee, associateFriendFee, readAssociateFee, readAssociateFriendFee, rfl⟩ :=
    ParticipantRecord.participant?_eq_some.mp readAssociate
  refine .cons (near _ (by simp [amounts]) _ readFee) (.cons ?_
    (.cons (near _ (by simp [amounts]) _ readAssociateFee)
      (.cons (near _ (by simp [amounts]) _ readAssociateFriendFee)
        (.cons (near _ (by simp [amounts]) _ readSociety)
          (.cons (near _ (by simp [amounts]) _ readMuseum) .nil)))))
  change Decimal.Within _ _ (if sale.primary.friend then friendFee else Decimal.zero)
  by_cases friend : sale.primary.friend = true
  · rw [if_pos friend, if_pos friend]
    exact near _ (by simp [amounts, friend]) _ readFriendFee
  · rw [if_neg friend, if_neg friend]
    exact Decimal.zero_within

end Sale

end Dues
