import Dues.Payment.Sandbox
import Dues.Proofs.Purchase.Checkout
import Dues.Site.Form

/-! # Visits

A desk serves one visit after the other: customers start a purchase or come back from the payment
provider, and sales can be settled without their customers. Settings, clock and provider may be
others at each visit. What a visit does at the desk is one of three things, and everything about
runs follows from that.
-/

namespace Dues

open Dues.Payment
open Dues.Time (Instant)

inductive Visit : Type 1 where
  /-- A customer sends in an order. -/
  | starts {σ : Type} (provider : PaymentProvider σ) (state : σ) (settings : Settings)
      (now : Instant) (order : Order)
  /-- The provider sends a customer back. -/
  | returns {σ : Type} (provider : PaymentProvider σ) (state : σ) (settings : Settings)
      (now : Instant) (sessionId : String)
  /-- A sale is settled apart from its customer. -/
  | settles (settings : Settings) (now : Instant) (saleId : Int) (paymentId : String)

deriving instance DecidableEq for Stop

inductive Answer where
  | opened (session : CheckoutSession)
  | settled (outcome : Outcome)
  | refused (stop : Stop CheckoutError)
  | unsettled (stop : Stop StepError)
  deriving DecidableEq

/-- The sale that an answer tells the fulfilment of. -/
def Answer.fulfilled? : Answer → Option Sale
  | .settled (.fulfilled sale) => some sale
  | _ => none

theorem Answer.fulfilled?_eq_some {answer : Answer} {sale : Sale} :
    answer.fulfilled? = some sale ↔ answer = .settled (.fulfilled sale) := by
  unfold fulfilled?
  split
  next => simp
  next other => exact ⟨fun h => (nomatch h), fun h => absurd h (other sale)⟩

/-- What kept a visit from its end. Of a checkout that failed, this is the step that did. -/
def Answer.stop? : Answer → Option (Stop StepError)
  | .refused (.failure e) => some (.failure e.step)
  | .refused (.fault fault) => some (.fault fault)
  | .unsettled stop => some stop
  | .opened _ => none
  | .settled _ => none

theorem Answer.ne_settled {answer : Answer} {stop : Stop StepError}
    (stopped : answer.stop? = some stop) (outcome : Outcome) : answer ≠ .settled outcome := by
  rintro rfl
  cases stopped

namespace Visit

def settings : Visit → Settings
  | .starts _ _ settings _ _ => settings
  | .returns _ _ settings _ _ => settings
  | .settles settings _ _ _ => settings

def now : Visit → Instant
  | .starts _ _ _ now _ => now
  | .returns _ _ _ now _ => now
  | .settles _ now _ _ => now

/-- The session in which the sale of a visit has been paid. -/
def paymentId : Visit → String
  | .starts .. => ""
  | .returns _ _ _ _ sessionId => sessionId
  | .settles _ _ _ paymentId => paymentId

/-- The answer to a visit, and the desk behind it. -/
def serve (d : Desk) : Visit → Answer × Desk
  | .starts provider state settings now order =>
      match Checkout.start settings provider now order ⟨d, state⟩ with
      | .ok session c => (.opened session, c.desk)
      | .error stop c => (.refused stop, c.desk)
  | .returns provider state settings now sessionId =>
      match Checkout.finish settings provider now sessionId ⟨d, state⟩ with
      | .ok outcome c => (.settled outcome, c.desk)
      | .error stop c => (.refused stop, c.desk)
  | .settles settings now saleId paymentId =>
      match Checkout.settle settings now saleId paymentId d with
      | .ok outcome d' => (.settled outcome, d')
      | .error stop d' => (.unsettled stop, d')

/-- The sale that a visit settles, none where nothing has been paid. -/
def saleId? : Visit → Option Int
  | .starts .. => none
  | .returns provider state _ _ sessionId =>
      match provider.findSession sessionId state with
      | .ok details _ => Checkout.settledBy details
      | .error _ _ => none
  | .settles _ _ saleId _ => some saleId

/-- The sale that a visit completes, none if it completes none. A visit may complete a sale and
still end with a fault, in the notes about the household. -/
def completes (d : Desk) (v : Visit) : Option Sale :=
  match v.saleId? with
  | none => none
  | some saleId =>
      match Fulfilment.fulfil saleId v.paymentId v.now v.settings.otherMemberTypes d with
      | .ok (.fulfilled sale) _ => some sale
      | _ => none

end Visit

namespace Desk

/-- The desk once it has served all visits. -/
def after (d : Desk) (visits : List Visit) : Desk := visits.foldl (fun d v => (v.serve d).2) d

/-- What the visitors were told, in order. -/
def answers (d : Desk) : List Visit → List Answer
  | [] => []
  | v :: visits => (v.serve d).1 :: answers (v.serve d).2 visits

theorem after_cons (d : Desk) (v : Visit) (visits : List Visit) :
    d.after (v :: visits) = (v.serve d).2.after visits := rfl

theorem after_append (d : Desk) (visits later : List Visit) :
    d.after (visits ++ later) = (d.after visits).after later := List.foldl_append

/-- What every visit keeps holds at the end of a run. -/
theorem after_induction {P : Desk → Prop} {d : Desk} (visits : List Visit) (start : P d)
    (step : ∀ (d : Desk), ∀ v ∈ visits, P d → P (v.serve d).2) : P (d.after visits) := by
  induction visits generalizing d with
  | nil => exact start
  | cons v visits ih =>
      exact ih (step d v List.mem_cons_self start)
        fun d w mem => step d w (List.mem_cons_of_mem v mem)

end Desk

namespace Visit

variable {d : Desk}

/-- A visit that settles a sale comes to the same at the desk, whichever way it came about. -/
theorem serve_settles (v : Visit) (d : Desk) {saleId : Int} (settles : v.saleId? = some saleId) :
    match Checkout.settle v.settings v.now saleId v.paymentId d with
    | .ok outcome d' => v.serve d = (.settled outcome, d')
    | .error stop d' => ∃ answer, v.serve d = (answer, d') ∧ answer.stop? = some stop := by
  cases v with
  | starts => cases settles
  | settles settings now _ paymentId =>
      cases settles
      dsimp only [Visit.settings, Visit.now, Visit.paymentId, serve]
      cases Checkout.settle settings now saleId paymentId d with
      | ok outcome d' => rfl
      | error stop d' => exact ⟨_, rfl, rfl⟩
  | returns provider state settings now sessionId =>
      dsimp only [saleId?] at settles
      cases found : provider.findSession sessionId state with
      | error e state' =>
          rw [found] at settles
          cases settles
      | ok details state' =>
          rw [found] at settles
          dsimp only [Visit.settings, Visit.now, Visit.paymentId, serve]
          rw [Checkout.finish_eq settings provider now sessionId d state state' details found settles,
            Counter.atDesk]
          cases Checkout.settle settings now saleId sessionId d with
          | ok outcome d' => rfl
          | error stop d' =>
              refine ⟨_, rfl, ?_⟩
              cases stop with
              | failure e => rfl
              | fault fault => rfl

theorem completes_eq_some {v : Visit} {sale : Sale} :
    v.completes d = some sale ↔ ∃ saleId mid, v.saleId? = some saleId ∧
      Fulfilment.fulfil saleId v.paymentId v.now v.settings.otherMemberTypes d =
        .ok (.fulfilled sale) mid := by
  unfold completes
  cases v.saleId? with
  | none => simp
  | some saleId =>
      dsimp only
      split
      next sale' mid fulfil => simp [fulfil]
      next other =>
        constructor
        · exact fun h => (nomatch h)
        · rintro ⟨_, mid, ⟨⟩, fulfil⟩
          exact absurd fulfil (other sale mid)

theorem serve_of_settle (v : Visit) {d' : Desk} {saleId : Int} {outcome : Outcome}
    (settles : v.saleId? = some saleId)
    (settled : Checkout.settle v.settings v.now saleId v.paymentId d = .ok outcome d') :
    v.serve d = (.settled outcome, d') := by
  have served := v.serve_settles d settles
  rwa [settled] at served

/-- What a visit can do at the desk: nothing, enter a sale, or fulfil one and then make notes. -/
inductive Effect (v : Visit) (d : Desk) : Answer × Desk → Prop
  | idle (answer : Answer) (d' : Desk) (frame : d.Frame [] d') (completes : v.completes d = none)
      (untold : ∀ sale, answer ≠ .settled (.fulfilled sale)) : Effect v d (answer, d')
  | enters (answer : Answer) (d' : Desk) (order : Order)
      (desk : d' = Checkout.entered d (order.price v.settings v.now))
      (completes : v.completes d = none)
      (untold : ∀ sale, answer ≠ .settled (.fulfilled sale))
      (charged : ∃ amount, Checkout.charge (order.price v.settings v.now) = .ok amount) :
      Effect v d (answer, d')
  | fulfils (sale : Sale) (completes : v.completes d = some sale) (mid d' : Desk)
      (fulfil : Fulfilment.fulfil sale.id v.paymentId v.now v.settings.otherMemberTypes d =
        .ok (.fulfilled sale) mid)
      (frame : mid.Frame [.values] d') (answer : Answer)
      (told : ∀ other, answer = .settled (.fulfilled other) →
        other = sale ∧ Household.keep v.settings sale v.now mid = .ok () d') :
      Effect v d (answer, d')

theorem completes_eq_none {v : Visit} {saleId : Int} (settles : v.saleId? = some saleId)
    (never : ∀ sale mid, Fulfilment.fulfil saleId v.paymentId v.now v.settings.otherMemberTypes d ≠
      .ok (.fulfilled sale) mid) : v.completes d = none := by
  refine Option.eq_none_iff_forall_ne_some.mpr fun sale completes => ?_
  obtain ⟨_, mid, same, fulfil⟩ := completes_eq_some.mp completes
  cases settles.symm.trans same
  exact never sale mid fulfil

theorem serve_effect_of_settles (v : Visit) (d : Desk) {saleId : Int}
    (settles : v.saleId? = some saleId) : v.Effect d (v.serve d) := by
  have served := v.serve_settles d settles
  have settled := Checkout.settle_settled v.settings v.now saleId v.paymentId d
  generalize Checkout.settle v.settings v.now saleId v.paymentId d = r at served settled
  cases settled with
  | refused e d' frame unfulfilled =>
      obtain ⟨answer, served, stopped⟩ := served
      rw [served]
      exact .idle answer d' frame (completes_eq_none settles unfulfilled) fun sale =>
        Answer.ne_settled stopped _
  | complete sale found status =>
      rw [served]
      refine .idle _ d (.refl d) (completes_eq_none settles fun other mid fulfil => ?_)
        fun sale h => nomatch h
      cases fulfil.symm.trans (Fulfilment.fulfil_alreadyComplete.mpr ⟨found, status, rfl⟩)
  | fulfilled sale mid d' fulfil frame kept =>
      obtain rfl := (Fulfilment.fulfil_sale fulfil).1
      have completes := completes_eq_some.mpr ⟨_, mid, settles, fulfil⟩
      rw [served]
      refine .fulfils sale completes mid d' fulfil frame _ fun other h => ?_
      cases h
      exact ⟨rfl, kept⟩
  | interrupted sale mid d' fulfil frame fault faulted =>
      obtain rfl := (Fulfilment.fulfil_sale fulfil).1
      have completes := completes_eq_some.mpr ⟨_, mid, settles, fulfil⟩
      obtain ⟨answer, served, stopped⟩ := served
      rw [served]
      exact .fulfils sale completes mid d' fulfil (frame.mono (List.nil_subset _)) answer
        fun other h => absurd h (Answer.ne_settled stopped _)

theorem serve_effect (v : Visit) (d : Desk) : v.Effect d (v.serve d) := by
  cases settles : v.saleId? with
  | some saleId => exact v.serve_effect_of_settles d settles
  | none =>
      have completes : v.completes d = none := by rw [Visit.completes, settles]
      cases v with
      | settles => cases settles
      | starts provider state settings now order =>
          have started := Checkout.start_started settings provider now order d state
          dsimp only [serve]
          generalize Checkout.start settings provider now order ⟨d, state⟩ = r at started
          cases started with
          | refused e c frame => exact .idle _ _ frame completes fun sale h => nomatch h
          | unanswered amount charged e c desk =>
              exact .enters _ _ order desk completes (fun sale h => nomatch h) ⟨amount, charged⟩
          | opened amount charged session c desk =>
              exact .enters _ _ order desk completes (fun sale h => nomatch h) ⟨amount, charged⟩
      | returns provider state settings now sessionId =>
          obtain ⟨e, unsettled⟩ := Checkout.finish_unsettled settings provider now sessionId
            d state fun details state' found => by
              dsimp only [saleId?] at settles
              rwa [found] at settles
          dsimp only [serve]
          rw [unsettled]
          exact .idle _ _ (.refl d) completes fun sale h => nomatch h

theorem completes_of_told {v : Visit} {sale : Sale}
    (told : (v.serve d).1 = .settled (.fulfilled sale)) : v.completes d = some sale := by
  have effect := v.serve_effect d
  generalize v.serve d = r at effect told
  cases effect with
  | idle _ _ _ _ untold => exact absurd told (untold sale)
  | enters _ _ _ _ _ untold => exact absurd told (untold sale)
  | fulfils other completes _ _ _ _ _ only =>
      obtain ⟨rfl, _⟩ := only sale told
      exact completes

/-- What a visit that completes a sale does at the desk. -/
theorem serve_completes {v : Visit} {sale : Sale} (completes : v.completes d = some sale) :
    ∃ mid, Fulfilment.fulfil sale.id v.paymentId v.now v.settings.otherMemberTypes d =
      .ok (.fulfilled sale) mid ∧ mid.Frame [.values] (v.serve d).2 := by
  have effect := v.serve_effect d
  generalize v.serve d = r at effect
  cases effect with
  | idle _ _ _ none => cases none.symm.trans completes
  | enters _ _ _ _ none => cases none.symm.trans completes
  | fulfils other some mid d' fulfil frame =>
      cases some.symm.trans completes
      exact ⟨mid, fulfil, frame⟩

theorem serve_frame (v : Visit) (d : Desk) :
    d.Frame [.users, .members, .values, .sales] (v.serve d).2 := by
  have effect := v.serve_effect d
  generalize v.serve d = r at effect
  cases effect with
  | idle answer d' frame => exact frame.mono (List.nil_subset _)
  | enters answer d' order desk =>
      subst desk
      exact (Checkout.entered_frame d _).mono (by decide)
  | fulfils sale completes mid d' fulfil frame =>
      exact ((Fulfilment.fulfil_touches _ _ _ _).of_ok fulfil).trans (frame.mono (by decide))

/-- The rows of sales stay as they are, but for that of the sale which a visit completes. -/
theorem serve_row (v : Visit) {i : Int} {record : SaleRecord}
    (row : d.store.sales.find? i = some record)
    (other : ∀ sale, v.completes d = some sale → sale.id ≠ i) :
    (v.serve d).2.store.sales.find? i = some record := by
  have effect := v.serve_effect d
  generalize v.serve d = r at effect
  cases effect with
  | idle answer d' frame => rwa [frame.store.eq]
  | enters answer d' order desk =>
      subst desk
      exact Store.Table.find?_insert_of_some _ row
  | fulfils sale completes mid d' fulfil frame =>
      rw [frame.store.sales (by simp), Fulfilment.fulfil_sales fulfil, SaleBook.find?_replaced, row,
        Option.map_some, if_neg (other sale completes).symm]

end Visit

namespace Desk

theorem after_frame (d : Desk) (visits : List Visit) :
    d.Frame [.users, .members, .values, .sales] (d.after visits) :=
  after_induction (P := d.Frame _) visits (.refl d) fun _ v _ frame =>
    frame.trans (v.serve_frame _)

theorem Installed.after {d : Desk} (h : d.Installed) (visits : List Visit) :
    (d.after visits).Installed := h.of_frame (d.after_frame visits)

end Desk

/-- Whether the clock shows one of the years from `first` to `last` in universal time. -/
def Time.Instant.InYears (first last : Int) (t : Instant) : Prop :=
  .ofSeconds (secondsPerDay * yearStart first) 0 ≤ t ∧
    t < .ofSeconds (secondsPerDay * yearStart (last + 1)) 0

instance (first last : Int) (t : Instant) : Decidable (t.InYears first last) :=
  inferInstanceAs (Decidable (_ ∧ _))

def Visit.order? : Visit → Option Order
  | .starts _ _ _ _ order => some order
  | _ => none

/-- A visit as it can happen: orders come from forms without complaints, and the clock shows a year
that can be written with four digits, as well as the year after it. -/
structure Visit.Admissible (v : Visit) : Prop where
  form : ∀ order, v.order? = some order →
    ∃ form : Site.MembershipForm, form.complaints = [] ∧ order = form.order
  clock : v.now.InYears 1 9998

/-- A society with all sections on its form, to try runs out with. -/
def Settings.sample : Settings where
  organisationName := "Local History Society"
  otherMemberTypes := true
  giftAid := true
  emailForQuestions := "office@example.org"
  emailForFailures := "office@example.org"
  ordinaryFee := ⟨20, 0, by decide, Nat.zero_le _⟩
  associateFee := ⟨10, 0, by decide, Nat.zero_le _⟩
  friendFee := ⟨5, 0, by decide, Nat.zero_le _⟩

namespace Visit

/-- A customer sends in a form at a second of universal time. -/
def sampleStart (seconds : Int) (form : Site.MembershipForm) : Visit :=
  .starts Sandbox.provider {} .sample (.ofSeconds seconds 0) form.order

/-- The customer of a sale has paid and comes back. -/
def sampleReturn (seconds saleId : Int) : Visit :=
  .returns Sandbox.provider
    { sessions := [⟨2000, String.ofList (Text.digitsOfInt saleId), "", "", none, ""⟩] }
    .sample (.ofSeconds seconds 0) (Sandbox.sessionId 1)

theorem admissible_sampleStart {seconds : Int} {form : Site.MembershipForm}
    (accepted : form.complaints = []) (clock : (Instant.ofSeconds seconds 0).InYears 1 9998) :
    (sampleStart seconds form).Admissible where
  form := by
    rintro _ ⟨⟩
    exact ⟨form, accepted, rfl⟩
  clock := clock

theorem admissible_sampleReturn {seconds saleId : Int}
    (clock : (Instant.ofSeconds seconds 0).InYears 1 9998) :
    (sampleReturn seconds saleId).Admissible where
  form := by
    rintro _ ⟨⟩
  clock := clock

end Visit

end Dues
