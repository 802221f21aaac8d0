import Dues.Proofs.Purchase.Visit

/-! # What every visit keeps

Apart from sales, a visit writes only where it provides for a person and where it makes a note. So
whatever these two keep, and sales do not matter for, holds after every visit if it held before.
-/

namespace Dues

open Dues.Action (Keeps Touches)
open Dues.Time (Instant)

/-- A property of desks that holds or not whatever sales have been entered. -/
def Desk.ApartFromSales (P : Desk → Prop) : Prop := ∀ d d' : Desk, d.Frame [.sales] d' → P d → P d'

variable {P : Desk → Prop}

theorem Action.Touches.keeps {ε α : Type} {act : Action ε α} (h : Touches [.sales] act)
    (apart : Desk.ApartFromSales P) : Keeps P act := fun d before => apart _ _ (h d) before

theorem Action.Keeps.transaction {ε α : Type} {act : Action ε α} {ts : List Store.TableName}
    (keeps : Keeps P act) (touches : Touches ts act) (apart : Desk.ApartFromSales P)
    (onClosed : ε) : Keeps P (act.transaction onClosed) := by
  intro d before
  cases ran : act.transaction onClosed d with
  | ok a d' => exact keeps.of_ok (transaction_ok.mp ran).2 before
  | error e d' => exact apart _ _ ((transaction_error touches ran).mono (List.nil_subset _)) before

section

variable (apart : Desk.ApartFromSales P)

namespace Fulfilment

variable (provides : ∀ person known loginName now year,
  Keeps P (provide person known loginName now year))

include apart provides

theorem provideAll_preserves (sale : Sale) (now : Instant) (withAssociate : Bool) :
    Keeps P (provideAll sale now withAssociate) := by
  have found := ((findMatches_touches sale).mono (List.nil_subset _)).keeps apart
  refine (found.orFail _).bind fun found => ?_
  refine Keeps.bind ?_ fun primaryId => Keeps.bind ?_ fun associateId => .pure _
  · unfold providePrimary
    split
    next => exact .throw _
    next => exact (provides _ _ _ _ _).orFail _
  · unfold provideAssociate
    split
    next => exact (provides _ _ _ _ _).orFail _
    next => exact .pure _

theorem fulfil_preserves (saleId : Int) (paymentId : String) (now : Instant)
    (withAssociate : Bool) : Keeps P (fulfil saleId paymentId now withAssociate) := by
  have found := ((SaleBook.find_touches saleId).mono (List.nil_subset _)).keeps apart
  refine (found.orFail _).bind fun entry => ?_
  split
  next => exact .pure _
  next =>
    refine (provideAll_preserves apart provides _ _ _).bind fun provided => ?_
    exact (((SaleBook.replace_touches _).keeps apart).orFail _).bind fun _ => .pure _

end Fulfilment

namespace Household

include apart

theorem record_preserves (settings : Settings) (sale : Sale) (now : Instant)
    (address : ∀ today, ∀ n ∈ addressNotes sale today,
      Keeps P (Register.setValue n.field n.userId n.value))
    (payment : ∀ total, ∀ n ∈ paymentNotes settings sale total,
      Keeps P (Register.setValue n.field n.userId n.value)) :
    Keeps P (record settings sale now) := by
  have pure : ∀ {α : Type} (r : Except Fault α), Keeps P (orFault r) := fun r =>
    ((orFault_touches r).mono (List.nil_subset _)).keeps apart
  refine (pure _).bind fun today => ?_
  refine (notes_keep fun n mem => note_keeps (address today n mem)).bind fun _ => ?_
  refine (pure _).bind fun total => ?_
  exact notes_keep fun n mem => note_keeps (payment total n mem)

theorem keep_preserves {settings : Settings} {sale : Sale} {now : Instant}
    (records : Keeps P (record settings sale now)) : Keeps P (keep settings sale now) := by
  intro d before
  have keeps := (records.orFail some).transaction ((record_touches settings sale now).orFail some)
    apart none
  unfold keep
  cases ran : ((record settings sale now).orFail some).transaction none d with
  | ok _ d' => exact keeps.of_ok ran before
  | error stop d' =>
      have behind := keeps.of_error ran before
      cases stop with
      | none => exact behind
      | some fault => exact behind

end Household

variable (provides : ∀ person known loginName now year,
    Keeps P (Fulfilment.provide person known loginName now year))
  (records : ∀ settings sale now, Keeps P (Household.record settings sale now))

include apart provides records

theorem Checkout.settle_preserves (settings : Settings) (now : Instant) (saleId : Int)
    (paymentId : String) : Keeps P (Checkout.settle settings now saleId paymentId) := by
  have touches := Fulfilment.fulfil_touches saleId paymentId now settings.otherMemberTypes
  have fulfil := (Fulfilment.fulfil_preserves apart provides saleId paymentId now
    settings.otherMemberTypes).transaction touches apart ⟨"transaction", saleId, .store .closed⟩
  refine (fulfil.orFail _).bind fun outcome => ?_
  cases outcome with
  | fulfilled sale =>
      exact ((Household.keep_preserves apart (records _ _ _)).orFail _).bind fun _ => .pure _
  | alreadyComplete sale => exact (Keeps.pure ()).bind fun _ => .pure _

theorem Visit.serve_preserves (v : Visit) {d : Desk} (h : P d) : P (v.serve d).2 := by
  cases settles : v.saleId? with
  | some saleId =>
      have keeps := Checkout.settle_preserves apart provides records v.settings v.now saleId
        v.paymentId
      have served := v.serve_settles d settles
      cases ran : Checkout.settle v.settings v.now saleId v.paymentId d with
      | ok outcome d' =>
          rw [ran] at served
          rw [served]
          exact keeps.of_ok ran h
      | error stop d' =>
          rw [ran] at served
          obtain ⟨answer, served, _⟩ := served
          rw [served]
          exact keeps.of_error ran h
  | none =>
      have effect := v.serve_effect d
      generalize v.serve d = r at effect
      cases effect with
      | idle answer d' frame => exact apart _ _ (frame.mono (List.nil_subset _)) h
      | enters answer d' order desk =>
          subst desk
          exact apart _ _ (Checkout.entered_frame d _) h
      | fulfils sale completes =>
          rw [Visit.completes, settles] at completes
          cases completes

end

end Dues
