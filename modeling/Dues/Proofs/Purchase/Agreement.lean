import Dues.Proofs.Purchase.Progress
import Dues.Proofs.Purchase.Recorded
import Dues.Proofs.Sale.Pennies
import Dues.Proofs.Site.Confirmation

/-! # What is shown, charged and recorded

The total of a sale is cut off after its pence where a customer confirms it and where it is noted as
last payment, and rounded to the nearest penny where it is charged. So a donation with more places
may be charged with a penny more than anyone is shown. In whole pennies all three agree: the book,
which keeps amounts as binary fractions, gives back what was entered.
-/

namespace Dues

open Dues.Money (Decimal coefficientLimit pounds preciseLimit)
open Dues.Payment
open Dues.Register (ProfileField)
open Dues.Time (Instant)

variable {d : Desk} {settings : Settings} {now : Instant} {σ : Type}

/-- A user has this many pennies as last payment. -/
def Store.HoldsPayment (s : Store) (userId : Int) (pennies : Nat) : Prop :=
  s.Holds userId ProfileField.lastPayment.name (String.ofList (pounds pennies))

theorem Visit.charge_of_opened {provider : PaymentProvider σ} {state : σ} {order : Order}
    {session : CheckoutSession}
    (opened : ((starts provider state settings now order).serve d).1 = .opened session) :
    ∃ amount state', Checkout.charge (order.price settings now) = .ok amount ∧
      provider.openSession (Checkout.sessionRequest settings
        (Checkout.entry d settings now order) amount) state = .ok session state' := by
  dsimp only [serve] at opened
  cases started : Checkout.start settings provider now order ⟨d, state⟩ with
  | error stop c =>
      rw [started] at opened
      cases opened
  | ok session' c =>
      rw [started] at opened
      cases opened
      obtain ⟨amount, charge, _, sent⟩ := Checkout.start_ok started
      exact ⟨amount, c.provider, charge, sent⟩

namespace Desk

/-- A sale of whole pennies is recorded with as many of them as it was entered with. -/
theorem told_holdsPayment (kept : d.WellKept) {priced : Sale} {total : Decimal} {amount : Int}
    (summed : priced.total = .ok total) (positive : total.isPositive = true)
    (charged : total.pennies = .ok (some amount)) (places : ∀ a ∈ priced.amounts, a.scale ≤ 2)
    (small : priced.pennies < preciseLimit) {sale : Sale}
    (entered : d.store.sales.find? sale.id = some priced.record) (later : List Visit) {v : Visit}
    (told : (v.serve (d.after later)).1 = .settled (.fulfilled sale)) :
    (v.serve (d.after later)).2.store.HoldsPayment sale.primary.userId priced.pennies := by
  obtain ⟨total', summed', holds⟩ := Visit.serve_holds (kept.after later) told
  obtain ⟨entry, read, same⟩ := told_total entered later told
  have within := Sale.read_pennies summed positive charged places small read
    (same.symm.trans summed')
  rw [Decimal.pence_eq within.not_negative,
    Decimal.cutOff_of_within (within.mono (Nat.le_refl _) (by omega))] at holds
  exact holds

/-- The total that a customer is shown is what is charged, or a penny less than that; with room for
all places of the pennies, it is a penny less from half a penny on. Where no amount has more than
two places, it is what is charged, and what is recorded as last payment of the first person once the
sale is fulfilled. -/
theorem shown_charged_and_recorded (before : List Visit) {form : Site.MembershipForm}
    (accepted : form.complaints = []) (provider : PaymentProvider σ) (state : σ)
    (settings : Settings) (now : Instant) (session : CheckoutSession)
    (opened : ((Visit.starts provider state settings now form.order).serve (initial.after before)).1 =
      .opened session) :
    ∃ total amount, (form.order.price settings now).total = .ok total ∧
      Checkout.charge (form.order.price settings now) = .ok amount ∧
      form.ShowsTotal settings now total.cutOff ∧
      (∃ state', provider.openSession (Checkout.sessionRequest settings
        (Checkout.entry (initial.after before) settings now form.order) amount) state =
          .ok session state') ∧
      (amount = total.cutOff ∨ amount = total.cutOff + 1) ∧
      (total.coefficient * 100 < coefficientLimit →
        (amount = total.cutOff ↔ 2 * total.tail < Nat.pow 10 total.scale)) ∧
      ((∀ a ∈ (form.order.price settings now).amounts, a.scale ≤ 2) → amount = total.cutOff ∧
        (amount < preciseLimit → ∀ later v sale,
          sale.id = (Checkout.entry (initial.after before) settings now form.order).id →
          let visits := before ++ .starts provider state settings now form.order :: later
          (Visit.serve (initial.after visits) v).1 = .settled (.fulfilled sale) →
          (initial.after (visits ++ [v])).store.HoldsPayment sale.primary.userId total.cutOff)) := by
  have kept := initial_wellKept.after before
  simp only [after_append, after_cons]
  generalize initial.after before = d at opened kept ⊢
  have kept := Visit.serve_wellKept kept (.starts provider state settings now form.order)
  have row := (Visit.serve_opened opened).2
  obtain ⟨amount, state', charge, sent⟩ := Visit.charge_of_opened opened
  obtain ⟨total, summed, positive, charged⟩ := Checkout.charge_ok charge
  have above : 0 < total.coefficient := of_decide_eq_true positive
  obtain ⟨c, natural⟩ := Int.eq_ofNat_of_zero_le above.le
  refine ⟨total, amount, summed, charge, form.showsTotal accepted summed positive, ⟨state', sent⟩,
    Decimal.pennies_cutOff natural charged, fun room => ?_, fun places => ?_⟩
  · exact Decimal.pennies_eq_cutOff_iff natural (by omega) charged
  · obtain ⟨same, whole⟩ := Sale.charged_pennies summed positive charged places
    have shown : total.cutOff = (form.order.price settings now).pennies :=
      Decimal.cutOff_of_within (whole.mono (Nat.le_refl _) (by omega))
    rw [shown]
    refine ⟨same, fun small later v sale numbered told => ?_⟩
    rw [← numbered] at row
    exact told_holdsPayment kept summed positive charged places (by omega) row later told

/-- A member gives some pounds and pence to the society. -/
theorem donation_is_shown_charged_and_recorded :
    let form : Site.MembershipForm :=
      { firstName := "Ada", lastName := "Lovelace", email := "ada@example.org"
        donationToSociety := "2.50" }
    let now := Instant.ofSeconds 1757930400 0
    form.ShowsTotal .sample now 2250 ∧
      (∃ session sandbox, Sandbox.openSession (Checkout.sessionRequest .sample
        (Checkout.entry initial .sample now form.order) 2250) {} = .ok session sandbox) ∧
      (initial.after [.sampleStart 1757930400 form, .sampleReturn 1757934000 1]).store.HoldsPayment
        1 2250 := by
  intro form now
  have accepted : form.complaints = [] := by decide +kernel
  have told : ((Visit.sampleReturn 1757934000 1).serve
      (initial.after [.sampleStart 1757930400 form])).1.fulfilled?.any
        (fun sale => sale.id = 1 && sale.primary.userId = 1) = true := by decide +kernel
  obtain ⟨sale, told, own⟩ := (Option.any_eq_true _ _).mp told
  rw [Bool.and_eq_true, decide_eq_true_eq, decide_eq_true_eq] at own
  obtain ⟨total, amount, summed, _, shown, sent, _, _, whole⟩ :=
    shown_charged_and_recorded [] accepted Sandbox.provider {} .sample now
      ⟨Sandbox.sessionId 1, "https://checkout.example.org/pay/" ++ Sandbox.sessionId 1⟩
      (by decide +kernel)
  have pennies : (form.order.price .sample now).total.toOption.map Decimal.cutOff = some 2250 := by
    decide +kernel
  rw [summed] at pennies
  have pennies : total.cutOff = 2250 := Option.some.inj pennies
  obtain ⟨same, recorded⟩ := whole (by decide +kernel)
  rw [pennies] at shown same recorded
  subst same
  have holds := recorded (by decide) [] (.sampleReturn 1757934000 1) sale own.1
    (Answer.fulfilled?_eq_some.mp told)
  rw [own.2] at holds
  exact ⟨shown, ⟨_, sent⟩, holds⟩

/-- Half a penny is charged as a whole one, which nobody is shown. -/
theorem half_penny_is_charged_unseen :
    let form : Site.MembershipForm :=
      { firstName := "Ada", lastName := "Lovelace", email := "ada@example.org"
        donationToSociety := "0.005" }
    let now := Instant.ofSeconds 1757930400 0
    let back := Visit.sampleReturn 1757934000 1
    form.complaints = [] ∧
      form.ShowsTotal .sample now 2000 ∧ ¬ form.ShowsTotal .sample now 2001 ∧
      (∃ session counter, Checkout.start .sample Sandbox.provider now form.order ⟨initial, {}⟩ =
          .ok session counter ∧ counter.provider.sessions.map (·.amount) = [2001]) ∧
      (∃ sale, (back.serve (initial.after [.sampleStart 1757930400 form])).1 =
        .settled (.fulfilled sale) ∧ sale.primary.userId = 1) ∧
      (initial.after [.sampleStart 1757930400 form, back]).store.HoldsPayment 1 2000 := by
  intro form now back
  have accepted : form.complaints = [] := by decide +kernel
  obtain ⟨total, summed, positive, pennies, unseen⟩ : ∃ total : Decimal,
      (form.order.price .sample now).total = .ok total ∧ total.isPositive = true ∧
        total.cutOff = 2000 ∧ ¬ Site.Page.totalLine 2001 <:+:
          (Site.Page.confirmationPage .sample form (form.order.price .sample now) total).chars :=
    ⟨⟨20005, 3, by decide, by decide⟩, by decide +kernel, by decide, by decide +kernel,
      by decide +kernel⟩
  refine ⟨accepted, ?_, ?_, ?_, ?_, ?_⟩
  · rw [← pennies]
    exact form.showsTotal accepted summed positive
  · rwa [form.showsTotal_iff accepted summed]
  · have charged : (match Checkout.start .sample Sandbox.provider now form.order ⟨initial, {}⟩ with
        | .ok _ counter => decide (counter.provider.sessions.map (·.amount) = [2001])
        | .error _ _ => false) = true := by decide +kernel
    generalize Checkout.start .sample Sandbox.provider now form.order ⟨initial, {}⟩ = r at charged ⊢
    cases r with
    | error stop counter => cases charged
    | ok session counter => exact ⟨session, counter, rfl, of_decide_eq_true charged⟩
  · have told : (back.serve (initial.after [.sampleStart 1757930400 form])).1.fulfilled?.any
        (·.primary.userId = 1) = true := by decide +kernel
    obtain ⟨sale, told, own⟩ := (Option.any_eq_true _ _).mp told
    exact ⟨sale, Answer.fulfilled?_eq_some.mp told, of_decide_eq_true own⟩
  · exact ⟨9, 7, by decide +kernel, by decide +kernel⟩

end Desk

end Dues
