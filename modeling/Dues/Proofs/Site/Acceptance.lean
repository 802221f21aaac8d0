import Dues.Proofs.Money.Overflow
import Dues.Proofs.Purchase.Opening
import Dues.Proofs.Site.Confirmation
import Dues.Proofs.Site.Requests

/-! # What becomes of accepted forms

A form that is accepted can name any amount that there is, so that what it comes to can be too large
to be added up, or to be counted in pennies; and it can name one that is less than half a penny. It
is said exactly which forms the site can deal with: those that come to nothing, or to half a penny
at least and to less than a hundredth of the largest amount. Whoever pays for one of these is
answered, unless the provider hands out an address that nobody can be sent to.
-/

namespace Dues

open Dues.Money (Decimal coefficientLimit)
open Dues.Payment
open Dues.Time (Instant)

/-- All fees that a society may ask for. -/
def Settings.fees (s : Settings) : List Decimal := [s.ordinaryFee, s.associateFee, s.friendFee]

theorem Money.Decimal.atLeast_zero {d : Decimal} (h : d.isNegative = false) : d.AtLeast 0 := by
  obtain ⟨c, natural⟩ := Int.eq_ofNat_of_zero_le (Int.not_lt.mp (of_decide_eq_false h))
  exact ⟨c, natural, by rw [Nat.zero_mul]; exact c.zero_le⟩

theorem Site.MembershipForm.amountOrZero_natural (s : String) : (amountOrZero s).AtLeast 0 := by
  unfold amountOrZero
  split
  next amount read =>
    unfold readAmount at read
    split at read
    next =>
      cases read
      exact Decimal.zero_atLeast
    next =>
      split at read
      next => cases read
      next =>
        split at read
        next => cases read
        next natural =>
          cases read
          exact Decimal.atLeast_zero (Bool.not_eq_true _ |>.mp natural)
  next => exact Decimal.zero_atLeast

/-- No amount of an order that comes from a form is negative, unless a fee is. -/
theorem Site.MembershipForm.price_natural (form : MembershipForm) {settings : Settings}
    (now : Instant) (fees : ∀ fee ∈ settings.fees, fee.isNegative = false) :
    ∀ a ∈ (form.order.price settings now).amounts, a.AtLeast 0 := by
  obtain ⟨ordinary, associate, friend⟩ : settings.ordinaryFee.AtLeast 0 ∧
      settings.associateFee.AtLeast 0 ∧ settings.friendFee.AtLeast 0 := by
    refine ⟨?_, ?_, ?_⟩ <;> exact Decimal.atLeast_zero (fees _ (by simp [Settings.fees]))
  have friendFee : ∀ (applicant : Applicant) (fee : Decimal),
      (applicant.participant settings fee).friendFee.AtLeast 0 := by
    intro applicant fee
    unfold Applicant.participant
    dsimp only
    split
    next => exact friend
    next => exact Decimal.zero_atLeast
  intro a mem
  simp only [Sale.amounts, List.mem_cons, List.not_mem_nil, or_false] at mem
  rcases mem with rfl | rfl | rfl | rfl | rfl | rfl
  · exact ordinary
  · split
    next => exact friendFee _ _
    next => exact Decimal.zero_atLeast
  · change (form.order.associateParticipant settings).fee.AtLeast 0
    unfold Order.associateParticipant
    split
    next => exact Decimal.zero_atLeast
    next =>
      split
      next => exact associate
      next => exact Decimal.zero_atLeast
  · change (form.order.associateParticipant settings).friendFee.AtLeast 0
    unfold Order.associateParticipant
    split
    next => exact Decimal.zero_atLeast
    next =>
      split
      next => exact friendFee _ _
      next => exact Decimal.zero_atLeast
  · exact amountOrZero_natural _
  · exact amountOrZero_natural _

namespace Sale

variable {sale : Sale} {total : Decimal}

/-- What the amounts of a sale come to as numbers. -/
def exactTotal (sale : Sale) : Rat := Decimal.exactSum sale.amounts

theorem total_eq_sum (natural : ∀ a ∈ sale.amounts, a.AtLeast 0) :
    sale.total = Decimal.sum sale.amounts := by
  refine if_neg fun negative => ?_
  obtain ⟨a, mem, below⟩ := List.any_eq_true.mp negative
  obtain ⟨c, same, _⟩ := natural a mem
  have below : a.coefficient < 0 := of_decide_eq_true below
  omega

theorem total_natural (natural : ∀ a ∈ sale.amounts, a.AtLeast 0)
    (summed : sale.total = .ok total) : total.AtLeast 0 := by
  rw [total_eq_sum natural] at summed
  exact (Decimal.foldlM_atLeast Decimal.zero_atLeast natural summed).1

/-- The total is the sum of the numbers, give or take what is lost where there is no room left. -/
theorem total_near (natural : ∀ a ∈ sale.amounts, a.AtLeast 0) (summed : sale.total = .ok total) :
    |total.value - sale.exactTotal| ≤ 3 := by
  rw [total_eq_sum natural] at summed
  have near := Decimal.foldlM_value Decimal.zero_atLeast natural summed
  have length : sale.amounts.length = 6 := rfl
  rw [Decimal.zero_value, zero_add, length] at near
  exact near.trans (by norm_num)

theorem total_succeeds_of_exactTotal (natural : ∀ a ∈ sale.amounts, a.AtLeast 0)
    (small : sale.exactTotal + 4 ≤ coefficientLimit) : ∃ total, sale.total = .ok total := by
  rw [total_eq_sum natural]
  refine Decimal.foldlM_succeeds Decimal.zero_atLeast natural ?_
  have length : sale.amounts.length = 6 := rfl
  rw [Decimal.zero_value, zero_add, length]
  unfold exactTotal at small
  push_cast
  linarith

/-- Nothing but too large a sum keeps a sale from having a total. -/
theorem total_overflows (natural : ∀ a ∈ sale.amounts, a.AtLeast 0)
    (large : coefficientLimit + 3 ≤ sale.exactTotal) :
    sale.total = .error .additionOverflowed := by
  cases summed : sale.total with
  | ok total =>
      have near := abs_le.mp (total_near natural summed)
      have below := total.value_lt_limit
      linarith [near.1]
  | error fault =>
      rw [total_eq_sum natural] at summed
      rw [Decimal.foldlM_error summed]

end Sale

namespace Checkout

variable {σ : Type} {settings : Settings} {provider : PaymentProvider σ} {now : Instant}
  {order : Order} {sale : Sale}

/-- What becomes of the charge for a sale, according to the number that it comes to. -/
inductive Charging (sale : Sale) : Except (Stop CheckoutError) Int → Prop
  | unsummed (fault : Fault) (summed : sale.total = .error fault) :
      Charging sale (.error (.fault fault))
  | nothing (total : Decimal) (summed : sale.total = .ok total) (value : total.value = 0) :
      Charging sale (.error (before "price sale" 0 .zeroTotal))
  | overflowed (total : Decimal) (summed : sale.total = .ok total)
      (large : coefficientLimit ≤ 100 * total.value) :
      Charging sale (.error (.fault .multiplicationOverflowed))
  | invalid (total : Decimal) (summed : sale.total = .ok total)
      (small : 100 * total.value < coefficientLimit) (large : 2 ^ 64 ≤ 200 * total.value + 1) :
      Charging sale (.error (before "price sale" 0 (.invalidAmount total)))
  | charged (total : Decimal) (summed : sale.total = .ok total) (positive : 0 < total.value)
      (small : 200 * total.value + 1 < 2 ^ 64) : Charging sale (.ok total.nearestPennies)

theorem charge_charging (natural : ∀ a ∈ sale.amounts, a.AtLeast 0) :
    Charging sale (charge sale) := by
  unfold charge
  cases summed : sale.total with
  | error fault => exact .unsummed fault summed
  | ok total =>
      obtain ⟨c, coefficient, _⟩ := Sale.total_natural natural summed
      dsimp only
      split
      next positive =>
        rcases Decimal.pennies_cases coefficient with ⟨small, priced⟩ | ⟨large, priced⟩
        · rw [priced]
          have small := not_le.mp
            (mt (Decimal.limit_le_hundredfold_iff coefficient).mpr (Nat.not_le.mpr small))
          have fit := Decimal.nearestPennies_fits_iff coefficient
          cases fits : Text.fitsSigned 64 total.nearestPennies with
          | true => exact .charged total summed (Decimal.value_pos_iff.mpr positive) (fit.mp fits)
          | false =>
              rw [fits] at fit
              exact .invalid total summed small (not_lt.mp fun few => nomatch fit.mpr few)
        · rw [priced]
          exact .overflowed total summed ((Decimal.limit_le_hundredfold_iff coefficient).mp large)
      next zero =>
        have nonnegative := (Sale.total_natural natural summed).value_nonneg
        exact .nothing total summed
          (le_antisymm (not_lt.mp (mt Decimal.value_pos_iff.mp zero)) nonnegative)

theorem start_uncharged {stop : Stop CheckoutError}
    (uncharged : charge (order.price settings now) = .error stop) (c : Counter σ) :
    start settings provider now order c = .error stop c := by
  unfold start
  dsimp only
  rw [uncharged]
  rfl

/-- The answer of the provider, once the sale has been entered and a session for this amount has
been asked for. -/
def answered (settings : Settings) (provider : PaymentProvider σ) (now : Instant) (order : Order)
    (amount : Int) (d : Desk) (state : σ) :
    EStateM.Result (Stop CheckoutError) (Counter σ) CheckoutSession :=
  Counter.atProvider
    (provider.openSession (sessionRequest settings (entry d settings now order) amount))
    (fun e => before "create payment session" d.store.sales.nextId (.payment e))
    ⟨entered d (order.price settings now), state⟩

theorem start_answered {amount : Int} {d : Desk} (h : d.Installed)
    (charged : charge (order.price settings now) = .ok amount) (state : σ) :
    start settings provider now order ⟨d, state⟩ =
      answered settings provider now order amount d state := by
  have added := SaleBook.add_succeeds h (order.price settings now)
  unfold start
  dsimp only
  rw [charged]
  dsimp only [bind, EStateM.bind, Counter.atDesk]
  rw [Action.transaction_ok.mpr ⟨h.connected, Action.orFail_ok.mpr added⟩]
  rfl

theorem start_charged {amount : Int} {d : Desk} (h : d.Installed)
    (charged : charge (order.price settings now) = .ok amount) {state state' : σ}
    {session : CheckoutSession}
    (granted : provider.openSession (sessionRequest settings (entry d settings now order) amount)
      state = .ok session state') :
    start settings provider now order ⟨d, state⟩ =
      .ok session ⟨entered d (order.price settings now), state'⟩ := by
  rw [start_answered h charged, answered, Counter.atProvider, granted]

/-- Nothing but a desk that is not installed keeps the provider from being asked. -/
theorem start_answered_or_unasked {amount : Int}
    (charged : charge (order.price settings now) = .ok amount) (d : Desk) (state : σ) :
    start settings provider now order ⟨d, state⟩ =
        answered settings provider now order amount d state ∨
      ¬ d.Installed ∧ ∃ e, start settings provider now order ⟨d, state⟩ =
        .error (.failure (.prePayment e)) ⟨d, state⟩ := by
  by_cases h : d.Installed
  · exact .inl (start_answered h charged state)
  have opening := start_opening settings provider now order d state
  generalize start settings provider now order ⟨d, state⟩ = r at opening
  cases opening with
  | unpriced stop uncharged => cases uncharged.symm.trans charged
  | unstored e => exact .inr ⟨h, e, rfl⟩
  | unopened amount' charged' e state' sent =>
      cases charged'.symm.trans charged
      exact .inl (by rw [answered, Counter.atProvider, sent]; rfl)
  | opened amount' charged' session state' sent =>
      cases charged'.symm.trans charged
      exact .inl (by rw [answered, Counter.atProvider, sent])

/-- A sale that a penny at least is charged for, or that is refused. -/
def Chargeable (sale : Sale) : Prop :=
  (∃ amount, 1 ≤ amount ∧ charge sale = .ok amount) ∨
    ∃ step, charge sale = .error (.failure (.prePayment step))

theorem Chargeable.ne_fault (h : Chargeable sale) (fault : Fault) :
    charge sale ≠ .error (.fault fault) := by
  rintro faulty
  rcases h with ⟨_, _, charged⟩ | ⟨_, refused⟩
  · cases faulty.symm.trans charged
  · cases faulty.symm.trans refused

theorem Chargeable.ne_nothing (h : Chargeable sale) : charge sale ≠ .ok 0 := by
  rintro nothing
  rcases h with ⟨amount, least, charged⟩ | ⟨_, refused⟩
  · cases nothing.symm.trans charged
    cases least
  · cases nothing.symm.trans refused

/-- A purchase that begins with a session for a penny at least, or fails before the payment. -/
def BeginsWell (settings : Settings) (provider : PaymentProvider σ) (now : Instant) (order : Order)
    (d : Desk) (state : σ) : Prop :=
  (∃ (amount : Int) (session : CheckoutSession) (after : Counter σ), 1 ≤ amount ∧
    provider.openSession (sessionRequest settings (entry d settings now order) amount) state =
      .ok session after.provider ∧
    start settings provider now order ⟨d, state⟩ = .ok session after) ∨
  ∃ step after, start settings provider now order ⟨d, state⟩ =
    .error (.failure (.prePayment step)) after

theorem Chargeable.beginsWell (h : Chargeable (order.price settings now)) (d : Desk) (state : σ) :
    BeginsWell settings provider now order d state := by
  have opening := start_opening settings provider now order d state
  unfold BeginsWell
  generalize start settings provider now order ⟨d, state⟩ = r at opening
  cases opening with
  | unpriced stop uncharged =>
      rcases h with ⟨_, _, charged⟩ | ⟨step, refused⟩
      · cases charged.symm.trans uncharged
      · cases refused.symm.trans uncharged
        exact .inr ⟨step, _, rfl⟩
  | unstored e => exact .inr ⟨e, _, rfl⟩
  | unopened => exact .inr ⟨_, _, rfl⟩
  | opened amount charged session state' sent =>
      rcases h with ⟨_, least, charged'⟩ | ⟨step, refused⟩
      · cases charged'.symm.trans charged
        exact .inl ⟨amount, session, _, least, sent, rfl⟩
      · cases refused.symm.trans charged

/-- Whatever the provider does, only what can be charged begins well. -/
theorem chargeable_of_beginsWell
    (h : ∀ (σ : Type) (provider : PaymentProvider σ) (d : Desk) (state : σ),
      BeginsWell settings provider now order d state) : Chargeable (order.price settings now) := by
  have begun := h Sandbox Sandbox.provider .initial {}
  unfold BeginsWell at begun
  cases charged : charge (order.price settings now) with
  | error stop =>
      rw [start_uncharged charged] at begun
      rcases begun with ⟨_, _, _, _, _, opened⟩ | ⟨step, after, refused⟩
      · cases opened
      · cases refused
        exact .inr ⟨step, charged⟩
  | ok amount =>
      have granted : Sandbox.provider.openSession
          (sessionRequest settings (entry .initial settings now order) amount) {} =
            .ok _ { sessions := [_] } := rfl
      rw [start_charged Desk.initial_installed charged granted] at begun
      rcases begun with ⟨amount', session, after, least, granted', opened⟩ | ⟨_, _, refused⟩
      · cases opened
        have same := (Sandbox.accounts.granted _ _ _ _ granted').symm
        injection List.singleton_inj.mp same with same
        exact .inl ⟨amount, same ▸ least, charged⟩
      · cases refused

end Checkout

namespace Site

variable {σ : Type} {settings : Settings} {provider : PaymentProvider σ} {now : Instant}
  {form : MembershipForm} {request : Request} {target : String}

/-- Whether a request sends in a form at an address of the site. -/
structure Request.Sends (request : Request) (form : MembershipForm) (target : String) : Prop where
  method : request.method = "POST"
  path : request.path = target
  read : request.readForm = .ok form

theorem answer_sends {route : Route} (sends : request.Sends form target)
    (found : Route.ofPath? target = some route) (takesPost : route.takesPost = true) :
    answer settings provider now request =
      if route = .checkout then pay settings provider now form else confirm settings now form := by
  rw [← sends.path] at found
  rw [answer_posted sends.method found takesPost, answerPost, sends.read]
  rfl

theorem answer_form (sends : request.Sends form "/displayPaymentForm") :
    answer settings provider now request = confirm settings now form :=
  (answer_sends sends (by decide : _ = some Route.form) rfl).trans (if_neg (by decide))

theorem answer_checkout (sends : request.Sends form "/checkout") :
    answer settings provider now request = pay settings provider now form :=
  (answer_sends sends (by decide : _ = some Route.checkout) rfl).trans (if_pos rfl)

/-- A form that the site deals with as it should, whoever sends it in and whatever the provider
does. It is answered with a page to confirm it, and then with a redirect or the page for failures
before the payment, unless the provider hands out an address that nobody can be sent to. Either a
session is opened for a penny at least, or nothing is to be paid yet; what is too large for pennies,
or not worth one, is refused as such. -/
structure MembershipForm.Safe (form : MembershipForm) (settings : Settings) (now : Instant) :
    Prop where
  confirmed : ∀ request : Request, request.Sends form "/displayPaymentForm" →
    ∀ (σ : Type) (provider : PaymentProvider σ) (counter : Counter σ), ∃ content,
      answer settings provider now request counter = .ok (.page 200 content) counter
  paid : ∀ request : Request, request.Sends form "/checkout" →
    ∀ (σ : Type) (provider : PaymentProvider σ) (counter : Counter σ),
      (∃ response after, answer settings provider now request counter = .ok response after ∧
        ((∃ url, response = .redirect url) ∨
          response = .page 500 (Page.prePaymentPage settings))) ↔
      ∀ session after, Checkout.start settings provider now form.order counter =
        .ok session after → Response.fitsHeader session.url = true
  started : ∀ (σ : Type) (provider : PaymentProvider σ) (d : Desk) (state : σ),
    Checkout.BeginsWell settings provider now form.order d state
  invalid : ∀ total, (form.order.price settings now).total = .ok total →
    2 ^ 64 ≤ 200 * total.value + 1 →
      ∀ (σ : Type) (provider : PaymentProvider σ) (counter : Counter σ),
        Checkout.start settings provider now form.order counter =
          .error (Checkout.before "price sale" 0 (.invalidAmount total)) counter
  nothing : ∀ total, (form.order.price settings now).total = .ok total →
    200 * total.value < 1 →
      ∀ (σ : Type) (provider : PaymentProvider σ) (counter : Counter σ),
        Checkout.start settings provider now form.order counter =
          .error (Checkout.before "price sale" 0 .zeroTotal) counter

/-- Whoever sends in an accepted form that can be charged is sent on, or told of a failure. Only the
address of a session can keep the customer from being sent there. -/
theorem pay_chargeable (accepted : form.complaints = [])
    (h : Checkout.Chargeable (form.order.price settings now)) (counter : Counter σ) :
    (∃ response after, pay settings provider now form counter = .ok response after ∧
      ((∃ url, response = .redirect url) ∨
        response = .page 500 (Page.prePaymentPage settings))) ↔
    ∀ session after, Checkout.start settings provider now form.order counter =
      .ok session after → Response.fitsHeader session.url = true := by
  have began : Checkout.BeginsWell settings provider now form.order counter.desk counter.provider :=
    h.beginsWell _ _
  unfold pay
  rw [accepted, List.isEmpty_nil, if_pos rfl, orFailurePage]
  rcases began with ⟨_, session, after, _, _, started⟩ | ⟨step, after, failed⟩
  · rw [started]
    cases fits : Response.fitsHeader session.url with
    | true =>
        refine iff_of_true ⟨_, after, give_redirect fits after, .inl ⟨_, rfl⟩⟩ ?_
        rintro _ _ ⟨⟩
        exact fits
    | false =>
        refine iff_of_false ?_ fun all => Bool.false_ne_true (fits.symm.trans (all _ _ rfl))
        rintro ⟨_, _, sent, _⟩
        cases (give_nowhere fits after).symm.trans sent
  · rw [failed]
    refine iff_of_true ⟨_, after, rfl, .inr rfl⟩ ?_
    rintro _ _ ⟨⟩

namespace MembershipForm

variable {total : Decimal}

/-- An order is charged for or refused where there is room for the hundredfold of its total. -/
theorem charge_of_total (natural : ∀ a ∈ (form.order.price settings now).amounts, a.AtLeast 0)
    (summed : (form.order.price settings now).total = .ok total)
    (small : 100 * total.value < coefficientLimit) :
    (total.value = 0 ∧ Checkout.charge (form.order.price settings now) =
        .error (Checkout.before "price sale" 0 .zeroTotal)) ∨
      (2 ^ 64 ≤ 200 * total.value + 1 ∧ Checkout.charge (form.order.price settings now) =
        .error (Checkout.before "price sale" 0 (.invalidAmount total))) ∨
      0 < total.value ∧ 200 * total.value + 1 < 2 ^ 64 ∧
        Checkout.charge (form.order.price settings now) = .ok total.nearestPennies := by
  have charging := Checkout.charge_charging natural
  generalize Checkout.charge (form.order.price settings now) = r at charging
  cases charging with
  | unsummed fault unsummed => cases unsummed.symm.trans summed
  | nothing _ same value =>
      cases same.symm.trans summed
      exact .inl ⟨value, rfl⟩
  | overflowed _ same large =>
      cases same.symm.trans summed
      exact absurd small (not_lt.mpr large)
  | invalid _ same _ large =>
      cases same.symm.trans summed
      exact .inr (.inl ⟨large, rfl⟩)
  | charged _ same positive few =>
      cases same.symm.trans summed
      exact .inr (.inr ⟨positive, few, rfl⟩)

theorem one_le_nearestPennies (natural : total.AtLeast 0) (worth : 1 / 200 ≤ total.value) :
    1 ≤ total.nearestPennies := by
  obtain ⟨c, coefficient, _⟩ := natural
  have few := Decimal.nearestPennies_lt_iff coefficient 1
  by_contra none
  have below := few.mp (by omega)
  push_cast at below
  linarith

theorem safe_of_total (accepted : form.complaints = [])
    (natural : ∀ a ∈ (form.order.price settings now).amounts, a.AtLeast 0)
    (summed : (form.order.price settings now).total = .ok total)
    (small : 100 * total.value < coefficientLimit)
    (worth : total.value = 0 ∨ 1 / 200 ≤ total.value) : form.Safe settings now := by
  have nonnegative := Sale.total_natural natural summed
  have charges := charge_of_total natural summed small
  have chargeable : Checkout.Chargeable (form.order.price settings now) := by
    rcases charges with ⟨_, refused⟩ | ⟨_, refused⟩ | ⟨positive, _, charged⟩
    · exact .inr ⟨_, refused⟩
    · exact .inr ⟨_, refused⟩
    · have least := one_le_nearestPennies nonnegative (worth.resolve_left positive.ne')
      exact .inl ⟨_, by exact_mod_cast least, charged⟩
  refine ⟨fun request sends σ provider counter => ?_, fun request sends σ provider counter => ?_,
    fun σ provider d state => chargeable.beginsWell d state,
    fun total' same large σ provider counter => ?_, fun total' same few σ provider counter => ?_⟩
  · exact ⟨_, by rw [answer_form sends]; exact confirm_accepted accepted summed counter⟩
  · rw [answer_checkout sends]
    exact pay_chargeable accepted chargeable counter
  · cases same.symm.trans summed
    rcases charges with ⟨nothing, _⟩ | ⟨_, refused⟩ | ⟨_, few, _⟩
    · norm_num [nothing] at large
    · exact Checkout.start_uncharged refused counter
    · linarith
  · cases same.symm.trans summed
    rcases charges with ⟨_, refused⟩ | ⟨large, _⟩ | ⟨positive, _, _⟩
    · exact Checkout.start_uncharged refused counter
    · linarith
    · have worth := worth.resolve_left positive.ne'
      linarith

/-- What the site deals with as it should has a total with room for its hundredfold, and of half a
penny at least unless it is nothing. -/
theorem Safe.total_of_natural (safe : form.Safe settings now)
    (natural : ∀ a ∈ (form.order.price settings now).amounts, a.AtLeast 0) :
    ∃ total, (form.order.price settings now).total = .ok total ∧
      100 * total.value < coefficientLimit ∧ (total.value = 0 ∨ 1 / 200 ≤ total.value) := by
  have chargeable := Checkout.chargeable_of_beginsWell safe.started
  have charging := Checkout.charge_charging natural
  generalize charge : Checkout.charge (form.order.price settings now) = r at charging
  cases charging with
  | unsummed fault summed => exact absurd charge (chargeable.ne_fault fault)
  | overflowed total summed large => exact absurd charge (chargeable.ne_fault _)
  | nothing total summed value =>
      exact ⟨total, summed, by norm_num [value, coefficientLimit], .inl value⟩
  | invalid total summed small large => exact ⟨total, summed, small, .inr (by linarith)⟩
  | charged total summed positive few =>
      refine ⟨total, summed, ?_, .inr ?_⟩
      · have limit : (2 : Rat) ^ 64 ≤ coefficientLimit := by norm_num [coefficientLimit]
        linarith
      · obtain ⟨c, coefficient, _⟩ := Sale.total_natural natural summed
        by_contra below
        have none : total.nearestPennies = 0 := Nat.lt_one_iff.mp <|
          (Decimal.nearestPennies_lt_iff coefficient 1).mpr (by push_cast; linarith)
        rw [none] at charge
        exact chargeable.ne_nothing charge

end MembershipForm

/-- Where no fee is negative, the site deals with an accepted form as it should just where there is
a total, with room for its hundredfold, which is nothing or half a penny at least. There is a total
where the amounts come to a few pounds less than the largest amount, and then it is what they come
to, give or take three pounds; there is none where they come to a few pounds more. -/
theorem accepted_form_is_safe_iff (form : MembershipForm) (settings : Settings) (now : Instant)
    (accepted : form.complaints = []) (fees : ∀ fee ∈ settings.fees, fee.isNegative = false) :
    (form.Safe settings now ↔ ∃ total, (form.order.price settings now).total = .ok total ∧
      100 * total.value < coefficientLimit ∧ (total.value = 0 ∨ 1 / 200 ≤ total.value)) ∧
    ((form.order.price settings now).exactTotal + 4 ≤ coefficientLimit →
      ∃ total, (form.order.price settings now).total = .ok total ∧
        |total.value - (form.order.price settings now).exactTotal| ≤ 3) ∧
    (coefficientLimit + 3 ≤ (form.order.price settings now).exactTotal →
      (form.order.price settings now).total = .error .additionOverflowed) := by
  have natural := form.price_natural now fees
  refine ⟨⟨fun safe => safe.total_of_natural natural, ?_⟩, fun small => ?_,
    Sale.total_overflows natural⟩
  · rintro ⟨total, summed, small, worth⟩
    exact MembershipForm.safe_of_total accepted natural summed small worth
  · obtain ⟨total, summed⟩ := Sale.total_succeeds_of_exactTotal natural small
    exact ⟨total, summed, Sale.total_near natural summed⟩

/-- A form with a donation in whole pounds, and a provider whose addresses fit into a header. -/
theorem donation_is_safe :
    let form : MembershipForm :=
      { firstName := "Ada", lastName := "Lovelace", email := "ada@example.org",
        donationToSociety := "5" }
    let now := Instant.ofSeconds 1757930400 0
    form.complaints = [] ∧ (∀ fee ∈ Settings.sample.fees, fee.isNegative = false) ∧
      form.Safe .sample now ∧
      ∀ request : Request, request.Sends form "/checkout" → ∃ response after,
        answer .sample Sandbox.provider now request ⟨.initial, {}⟩ = .ok response after := by
  intro form now
  have accepted : form.complaints = [] := by decide +kernel
  have fees : ∀ fee ∈ Settings.sample.fees, fee.isNegative = false := by decide
  have summed : (form.order.price .sample now).total = .ok ⟨25, 0, by decide, by decide⟩ := by
    decide +kernel
  have safe : form.Safe .sample now :=
    (accepted_form_is_safe_iff form .sample now accepted fees).1.mpr
      ⟨_, summed, by norm_num [Decimal.value, coefficientLimit],
        .inr (by norm_num [Decimal.value])⟩
  refine ⟨accepted, fees, safe, fun request sends => ?_⟩
  have charged : Checkout.charge (form.order.price .sample now) = .ok 2500 := by decide +kernel
  obtain ⟨response, after, answered, _⟩ := (safe.paid request sends _ Sandbox.provider
    ⟨.initial, {}⟩).mpr fun session after started => by
      cases (Checkout.start_charged Desk.initial_installed charged rfl).symm.trans started
      decide +kernel
  exact ⟨response, after, answered⟩

/-- Accepted forms that the site cannot deal with: a donation that has no hundredfold, two that have
no sum, and one that is worth less than half a penny where nothing else is to be paid. -/
theorem accepted_forms_are_not_all_safe :
    let form := fun toSociety toMuseum : String =>
      ({ firstName := "Ada", lastName := "Lovelace", email := "ada@example.org",
         donationToSociety := toSociety, donationToMuseum := toMuseum } : MembershipForm)
    let now := Instant.ofSeconds 1757930400 0
    let free := { Settings.sample with ordinaryFee := Decimal.zero }
    let large := form "10000000000000000000000000000" ""
    let larger := form "79228162514264337593543950335" "79228162514264337593543950335"
    let tiny := form "0.001" ""
    (large.complaints = [] ∧ Checkout.charge (large.order.price .sample now) =
        .error (.fault .multiplicationOverflowed) ∧ ¬ large.Safe .sample now) ∧
    (larger.complaints = [] ∧ (larger.order.price .sample now).total = .error .additionOverflowed ∧
      ¬ larger.Safe .sample now) ∧
    ((∀ fee ∈ free.fees, fee.isNegative = false) ∧ tiny.complaints = [] ∧
      Checkout.charge (tiny.order.price free now) = .ok 0 ∧ ¬ tiny.Safe free now) := by
  intro form now free large larger tiny
  have overflowed : Checkout.charge (large.order.price .sample now) =
      .error (.fault .multiplicationOverflowed) := by decide +kernel
  have unsummed : Checkout.charge (larger.order.price .sample now) =
      .error (.fault .additionOverflowed) := by decide +kernel
  have nothing : Checkout.charge (tiny.order.price free now) = .ok 0 := by decide +kernel
  refine ⟨⟨by decide +kernel, overflowed, fun safe => ?_⟩,
    ⟨by decide +kernel, by decide +kernel, fun safe => ?_⟩,
    by decide, by decide +kernel, nothing, fun safe => ?_⟩
  · exact (Checkout.chargeable_of_beginsWell safe.started).ne_fault _ overflowed
  · exact (Checkout.chargeable_of_beginsWell safe.started).ne_fault _ unsummed
  · exact (Checkout.chargeable_of_beginsWell safe.started).ne_nothing nothing

end Site

end Dues
