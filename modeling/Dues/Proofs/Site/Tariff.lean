import Dues.Proofs.Site.Acceptance
import Dues.Proofs.Site.Itemised

/-! # What a form costs

Which fees an order comes to is decided when it is priced, again when its amounts are added up, and
once more when they are listed on a page. All of them follow the one tariff of the society, and where
no fee and no donation has fractions of a penny, nothing is rounded on the way.
-/

namespace Dues

open Dues.Money (Decimal coefficientLimit pounds)
open Dues.Payment
open Dues.Time (Instant)

namespace Money.Decimal

variable {d : Decimal} {amounts : List Decimal} {p : Nat}

/-- An amount that is not negative and has no fractions of a penny, in however many places it is
written. -/
def WholePennies (d : Decimal) : Prop := ∃ n : Nat, 100 * d.value = n

theorem WholePennies.atLeast (whole : d.WholePennies) : d.AtLeast 0 := by
  obtain ⟨n, same⟩ := whole
  have nonnegative : 0 ≤ d.value := by
    have : (0 : Rat) ≤ n := n.cast_nonneg
    linarith
  have natural : 0 ≤ d.coefficient := by
    have product := mul_nonneg nonnegative (ten_pow_pos' d.scale).le
    rw [value_mul_pow] at product
    exact_mod_cast product
  exact atLeast_zero (decide_eq_false (Int.not_lt.mpr natural))

theorem Within.value_eq (h : d.Within (10 * p) (10 * p)) : 100 * d.value = p := by
  obtain ⟨c, natural, lower, upper⟩ := h
  have same : 10 * p * Nat.pow 10 d.scale = 1000 * c := Nat.le_antisymm lower upper
  have same : ((10 * p * Nat.pow 10 d.scale : Nat) : Rat) = (1000 * c : Nat) := by rw [same]
  have written := d.value_mul_pow
  rw [natural, Int.cast_natCast] at written
  refine mul_right_cancel₀ (ten_pow_pos' d.scale).ne' ?_
  push_cast at same written ⊢
  linarith

theorem WholePennies.within (whole : d.WholePennies) :
    d.Within (10 * d.cutOff) (10 * d.cutOff) := by
  obtain ⟨c, natural, _⟩ := whole.atLeast
  obtain ⟨n, same⟩ := whole
  have written := d.value_mul_pow
  rw [natural, Int.cast_natCast] at written
  have pennies : n * Nat.pow 10 d.scale = c * 100 := by
    have product : (n : Rat) * (Nat.pow 10 d.scale : Nat) = c * 100 := by
      rw [← same, ← written]
      ring
    exact_mod_cast product
  have abs : d.coefficient.natAbs = c := by omega
  have cut : d.cutOff = n := by
    rw [cutOff, wholePennies, abs, ← pennies, Nat.mul_div_cancel _ (ten_pow_pos _)]
  rw [cut]
  refine ⟨c, natural, ?_, ?_⟩ <;> rw [Nat.mul_assoc, pennies] <;> omega

theorem wholePennies_zero : zero.WholePennies := ⟨0, by rw [zero_value]; norm_num⟩

theorem wholePennies_of_places (nonnegative : d.isNegative = false) (places : d.scale ≤ 2) :
    d.WholePennies := by
  obtain ⟨c, natural, _⟩ := atLeast_zero nonnegative
  exact ⟨d.cutOff, (within_cutOff natural places).value_eq⟩

theorem exactSum_eq (whole : ∀ a ∈ amounts, a.WholePennies) :
    100 * exactSum amounts = ((amounts.map cutOff).sum : Nat) := by
  induction amounts with
  | nil => simp [exactSum]
  | cons a amounts ih =>
      have first := (whole a List.mem_cons_self).within.value_eq
      have rest := ih fun b mem => whole b (List.mem_cons_of_mem a mem)
      rw [exactSum] at rest
      rw [exactSum, List.map_cons, List.map_cons, List.sum_cons, List.sum_cons, Nat.cast_add,
        mul_add, first, rest]

end Money.Decimal

namespace Sale

variable {sale : Sale}

/-- A sale of whole pennies is charged in just these. -/
theorem charge_eq_pennies (whole : ∀ a ∈ sale.amounts, a.WholePennies)
    (positive : 0 < sale.exactTotal) (small : 100 * sale.exactTotal < 2 ^ 63) :
    (∃ total, sale.total = .ok total) ∧ Checkout.charge sale = .ok sale.pennies := by
  have natural : ∀ a ∈ sale.amounts, a.AtLeast 0 := fun a mem => (whole a mem).atLeast
  have exact : (sale.pennies : Rat) = 100 * sale.exactTotal := (Decimal.exactSum_eq whole).symm
  have few : sale.pennies < 2 ^ 63 := by
    rw [← exact] at small
    exact_mod_cast small
  have few' : (sale.pennies : Rat) + 1 ≤ 2 ^ 63 := by exact_mod_cast few
  have limit : (2 : Rat) ^ 63 + 400 ≤ coefficientLimit := by norm_num [coefficientLimit]
  obtain ⟨total, summed⟩ := total_succeeds_of_exactTotal natural (by linarith)
  have room : 10 * sale.pennies + 6 * 0 < coefficientLimit := by
    have wide : 10 * 2 ^ 63 < coefficientLimit := by decide
    omega
  have near : List.Forall₂ (fun a b : Decimal => b.Within (10 * a.cutOff) (10 * a.cutOff + 0))
      sale.amounts sale.amounts := List.forall₂_same.mpr fun a mem => (whole a mem).within
  have within := total_within 0 room near summed
  have value := within.value_eq
  refine ⟨⟨total, summed⟩, ?_⟩
  have charging := Checkout.charge_charging natural
  generalize charge : Checkout.charge sale = r at charging ⊢
  cases charging with
  | unsummed _ unsummed => cases unsummed.symm.trans summed
  | nothing _ same none =>
      cases same.symm.trans summed
      linarith
  | overflowed _ same large =>
      cases same.symm.trans summed
      linarith
  | invalid _ same _ large =>
      cases same.symm.trans summed
      linarith
  | charged _ same =>
      obtain ⟨_, again, _, priced⟩ := Checkout.charge_ok charge
      cases again.symm.trans summed
      rw [Decimal.pennies_of_within within priced]

end Sale

namespace Site

variable {settings : Settings} {now : Instant} {form : MembershipForm}
  {toSociety toMuseum : Decimal}

open Text (isBlankText)

/-- What a form costs: the fee of a member and, where there are other kinds of members, those of a
friend and of an associate who has a first name; and the donations on top. -/
def MembershipForm.tariff (form : MembershipForm) (settings : Settings)
    (toSociety toMuseum : Decimal) : Rat :=
  settings.ordinaryFee.value +
  (if settings.otherMemberTypes && form.friend.isSome then settings.friendFee.value else 0) +
  (if settings.otherMemberTypes && !isBlankText form.associateFirstName then
    settings.associateFee.value +
      (if form.associateFriend.isSome then settings.friendFee.value else 0)
  else 0) +
  (toSociety.value + toMuseum.value)

namespace MembershipForm

/-- The associate of a form, as they are priced. -/
def pricedAssociate (form : MembershipForm) (settings : Settings) : Participant :=
  Applicant.participant settings settings.associateFee {
    firstName := form.associateFirstName
    lastName := form.associateLastName
    email := form.associateEmail
    friend := form.associateFriend.isSome }

theorem associate_price : (form.order.price settings now).associate =
    if settings.otherMemberTypes && !isBlankText form.associateFirstName then
      form.pricedAssociate settings
    else {} := by
  change form.order.associateParticipant settings = _
  unfold Order.associateParticipant order associate
  cases blank : isBlankText form.associateFirstName with
  | true =>
      rw [Bool.not_true, Bool.and_false]
      rfl
  | false =>
      dsimp only
      rw [if_neg Bool.false_ne_true]
      dsimp only
      rw [blank]
      rfl

theorem pricedAssociate_isPresent (form : MembershipForm) :
    (form.pricedAssociate settings).isPresent = !isBlankText form.associateFirstName := by
  rw [← Text.trim_isEmpty]
  rfl

theorem amountOrZero_of_read {s : String} {amount : Decimal} (read : readAmount s = .ok amount) :
    amountOrZero s = amount := by
  unfold amountOrZero
  rw [read]

theorem amounts_price (society : readAmount form.donationToSociety = .ok toSociety)
    (museum : readAmount form.donationToMuseum = .ok toMuseum) :
    (form.order.price settings now).amounts =
      [settings.ordinaryFee,
        if settings.otherMemberTypes && form.friend.isSome then settings.friendFee
        else Decimal.zero,
        if settings.otherMemberTypes && !isBlankText form.associateFirstName then
          settings.associateFee
        else Decimal.zero,
        if settings.otherMemberTypes && !isBlankText form.associateFirstName &&
          form.associateFriend.isSome then settings.friendFee
        else Decimal.zero,
        toSociety, toMuseum] := by
  have donations : (form.order.price settings now).donationToSociety = toSociety ∧
      (form.order.price settings now).donationToMuseum = toMuseum :=
    ⟨amountOrZero_of_read society, amountOrZero_of_read museum⟩
  have primary : (form.order.price settings now).primary =
      Applicant.participant settings settings.ordinaryFee form.order.primary := rfl
  rw [Sale.amounts, associate_price, donations.1, donations.2, primary]
  unfold pricedAssociate Applicant.participant order
  dsimp only
  cases settings.otherMemberTypes <;> cases form.friend.isSome <;>
    cases isBlankText form.associateFirstName <;> cases form.associateFriend.isSome <;> rfl

/-- The sale of a form is what the form costs. -/
theorem exactTotal_price (society : readAmount form.donationToSociety = .ok toSociety)
    (museum : readAmount form.donationToMuseum = .ok toMuseum) :
    (form.order.price settings now).exactTotal = form.tariff settings toSociety toMuseum := by
  have cost : ∀ (b : Bool) (a : Decimal),
      (if b then a else Decimal.zero).value = if b then a.value else 0 := by
    intro b a
    rw [apply_ite Decimal.value, Decimal.zero_value]
  rw [Sale.exactTotal, amounts_price society museum, Decimal.exactSum, tariff]
  simp only [List.map_cons, List.map_nil, cost, List.sum_cons, List.sum_nil]
  cases settings.otherMemberTypes && !isBlankText form.associateFirstName with
  | true =>
      rw [Bool.true_and, if_pos rfl, if_pos rfl]
      ring
  | false =>
      rw [Bool.false_and, if_neg Bool.false_ne_true, if_neg Bool.false_ne_true,
        if_neg Bool.false_ne_true]
      ring

theorem whole_price (society : readAmount form.donationToSociety = .ok toSociety)
    (museum : readAmount form.donationToMuseum = .ok toMuseum)
    (whole : ∀ a ∈ settings.fees ++ [toSociety, toMuseum], a.WholePennies) :
    ∀ a ∈ (form.order.price settings now).amounts, a.WholePennies := by
  have optional : ∀ {b : Bool} {a : Decimal}, a.WholePennies →
      (if b then a else Decimal.zero).WholePennies := by
    intro b a h
    split
    · exact h
    · exact Decimal.wholePennies_zero
  have friendFee := whole settings.friendFee (by simp [Settings.fees])
  intro a mem
  rw [amounts_price society museum] at mem
  simp only [List.mem_cons, List.not_mem_nil, or_false] at mem
  rcases mem with rfl | rfl | rfl | rfl | rfl | rfl
  · exact whole _ (by simp [Settings.fees])
  · exact optional friendFee
  · exact optional (whole _ (by simp [Settings.fees]))
  · exact optional friendFee
  · exact whole _ (by simp)
  · exact whole _ (by simp)

theorem billed_price : (form.order.price settings now).Billed := by
  have associate := @associate_price settings now form
  cases named : settings.otherMemberTypes && !isBlankText form.associateFirstName with
  | false =>
      rw [named, if_neg Bool.false_ne_true] at associate
      constructor <;> rw [associate] <;> exact fun _ => rfl
  | true =>
      rw [named, if_pos rfl] at associate
      have present : (form.pricedAssociate settings).isPresent = true :=
        form.pricedAssociate_isPresent.trans (Bool.and_eq_true_iff.mp named).2
      constructor <;> rw [associate, present]
      · exact fun absent => nomatch absent
      · exact fun none => if_neg (Bool.eq_false_iff.mp none)

end MembershipForm

/-- What a form costs is what its customer is charged. Take an accepted form, where no fee and no
donation is negative or has fractions of a penny, and which costs something, and less than can be
charged. Then the provider is asked for a session of just these pennies, whatever it keeps and
whatever is kept at the desk, unless the desk is not installed and nobody is asked for anything. And
the amounts on the page that the form is confirmed on, at whatever time that is, come to them. -/
theorem charged_by_tariff (settings : Settings) (now shownAt : Instant) (form : MembershipForm)
    (toSociety toMuseum : Decimal) (accepted : form.complaints = [])
    (society : readAmount form.donationToSociety = .ok toSociety)
    (museum : readAmount form.donationToMuseum = .ok toMuseum)
    (whole : ∀ a ∈ settings.fees ++ [toSociety, toMuseum], a.WholePennies)
    (positive : 0 < form.tariff settings toSociety toMuseum)
    (small : 100 * form.tariff settings toSociety toMuseum < 2 ^ 63) :
    ∃ amount : Nat, (amount : Rat) = 100 * form.tariff settings toSociety toMuseum ∧
      (∀ (σ : Type) (provider : PaymentProvider σ) (d : Desk) (state : σ),
        Checkout.start settings provider now form.order ⟨d, state⟩ =
            Checkout.answered settings provider now form.order amount d state ∨
          ¬ d.Installed ∧ ∃ e, Checkout.start settings provider now form.order ⟨d, state⟩ =
            .error (.failure (.prePayment e)) ⟨d, state⟩) ∧
      ∀ (σ : Type) (counter : Counter σ), ∃ (answer : Response) (itemised : List Nat),
        confirm settings shownAt form counter = .ok answer counter ∧ answer.status = 200 ∧
          amountCells answer.body.toList = itemised.map pounds ∧ itemised.sum = amount := by
  have amounts : ∀ time : Instant,
      ∀ a ∈ (form.order.price settings time).amounts, a.WholePennies := fun time =>
    MembershipForm.whole_price society museum whole
  have cost : ∀ time, (form.order.price settings time).exactTotal =
      form.tariff settings toSociety toMuseum := fun time =>
    MembershipForm.exactTotal_price society museum
  have charges : ∀ time, (∃ total, (form.order.price settings time).total = .ok total) ∧
      Checkout.charge (form.order.price settings time) =
        .ok (form.order.price settings time).pennies := fun time =>
    Sale.charge_eq_pennies (amounts time) (by rwa [cost]) (by rwa [cost])
  have pennies : ∀ time, ((form.order.price settings time).pennies : Rat) =
      100 * form.tariff settings toSociety toMuseum := fun time => by
    rw [← cost time, Sale.exactTotal, Decimal.exactSum_eq (amounts time), Sale.pennies]
  refine ⟨(form.order.price settings now).pennies, pennies now, fun σ provider d state =>
    Checkout.start_answered_or_unasked (charges now).2 d state, fun σ counter => ?_⟩
  obtain ⟨⟨total, summed⟩, _⟩ := charges shownAt
  have natural : ∀ a ∈ (form.order.price settings shownAt).amounts, a.AtLeast 0 :=
    fun a mem => (amounts shownAt a mem).atLeast
  refine ⟨_, (Page.items (form.order.price settings shownAt)).map fun item => item.2.cutOff,
    confirm_accepted accepted summed counter, rfl, ?_, ?_⟩
  · rw [Response.page, Content.render, String.toList_ofList,
      amountCells_confirmationPage settings form total natural, List.map_map]
    rfl
  · rw [Page.items_pennies MembershipForm.billed_price natural]
    have same := (pennies shownAt).trans (pennies now).symm
    exact_mod_cast same

/-- Two friends of the museum, and a donation of 2.50 and one of 0.1. -/
theorem couple_is_charged_by_tariff :
    let form : MembershipForm :=
      { firstName := "Ada", lastName := "Lovelace", email := "ada@example.org", friend := some "on",
        associateFirstName := "William", associateLastName := "King", associateFriend := some "on",
        donationToSociety := "2.50", donationToMuseum := "0.1" }
    let now := Instant.ofSeconds 1757930400 0
    let toSociety : Decimal := ⟨250, 2, by decide, by decide⟩
    let toMuseum : Decimal := ⟨1, 1, by decide, by decide⟩
    form.complaints = [] ∧ readAmount form.donationToSociety = .ok toSociety ∧
      readAmount form.donationToMuseum = .ok toMuseum ∧
      (∀ a ∈ Settings.sample.fees ++ [toSociety, toMuseum], a.WholePennies) ∧
      0 < form.tariff .sample toSociety toMuseum ∧
      100 * form.tariff .sample toSociety toMuseum < 2 ^ 63 ∧
      Checkout.start .sample Sandbox.provider now form.order ⟨.initial, {}⟩ =
        Checkout.answered .sample Sandbox.provider now form.order 4260 .initial {} ∧
      ∃ answer : Response, confirm .sample now form ⟨Desk.initial, ()⟩ =
          .ok answer ⟨Desk.initial, ()⟩ ∧
        ∃ itemised : List Nat, amountCells answer.body.toList = itemised.map pounds ∧
          itemised.sum = 4260 := by
  intro form now toSociety toMuseum
  have accepted : form.complaints = [] := by decide +kernel
  have society : readAmount form.donationToSociety = .ok toSociety := by decide +kernel
  have museum : readAmount form.donationToMuseum = .ok toMuseum := by decide +kernel
  have places : ∀ a ∈ Settings.sample.fees ++ [toSociety, toMuseum],
      a.isNegative = false ∧ a.scale ≤ 2 := by decide
  have whole : ∀ a ∈ Settings.sample.fees ++ [toSociety, toMuseum], a.WholePennies :=
    fun a mem => Decimal.wholePennies_of_places (places a mem).1 (places a mem).2
  have cost : form.tariff .sample toSociety toMuseum = 4260 / 100 := by decide +kernel
  have positive : 0 < form.tariff .sample toSociety toMuseum := by norm_num [cost]
  have small : 100 * form.tariff .sample toSociety toMuseum < 2 ^ 63 := by norm_num [cost]
  obtain ⟨amount, same, charged, shown⟩ := charged_by_tariff .sample now now form toSociety toMuseum
    accepted society museum whole positive small
  obtain rfl : amount = 4260 := by
    rw [cost] at same
    norm_num at same
    exact_mod_cast same
  obtain ⟨answer, itemised, confirmed, _, cells, sum⟩ := shown Unit ⟨.initial, ()⟩
  refine ⟨accepted, society, museum, whole, positive, small, ?_, answer, confirmed, itemised, cells,
    sum⟩
  rcases charged Sandbox Sandbox.provider .initial {} with asked | ⟨away, _⟩
  · exact asked
  · exact absurd Desk.initial_installed away

end Site

end Dues
