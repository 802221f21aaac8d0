import Dues.Purchase.Fulfilment
import Dues.Purchase.Household
import Dues.Purchase.Order

/-! # Buying a membership

A purchase takes two visits. On the first one a pending sale is entered in the book and a payment
session opened for it; the sale comes first so that the second visit always finds it. On the second
one the provider has sent the customer back, and the sale is fulfilled if the session is paid.
-/

namespace Dues

open Dues.Payment
open Dues.Text (trim)
open Dues.Time (Instant)

/-- The desk, and what the payment provider keeps. -/
structure Counter (σ : Type) where
  desk : Desk
  provider : σ

namespace Counter

variable {σ ε ε' α : Type}

def atDesk (act : Action ε α) (f : ε → ε') : EStateM ε' (Counter σ) α := fun counter =>
  match act counter.desk with
  | .ok a desk => .ok a { counter with desk }
  | .error e desk => .error (f e) { counter with desk }

def atProvider (act : EStateM ε σ α) (f : ε → ε') : EStateM ε' (Counter σ) α := fun counter =>
  match act counter.provider with
  | .ok a provider => .ok a { counter with provider }
  | .error e provider => .error (f e) { counter with provider }

end Counter

namespace Checkout

open Counter

variable {σ : Type}

/-- A failure before the customer has been charged. -/
def before (operation : String) (saleId : Int) (cause : Failure) : Stop CheckoutError :=
  .failure (.prePayment ⟨operation, saleId, cause⟩)

/-- A failure after the customer may have been charged. -/
def after (operation : String) (saleId : Int) (cause : Failure) : Stop CheckoutError :=
  .failure (.postPayment ⟨operation, saleId, cause⟩)

/-- What is charged for a sale, in pennies. -/
def charge (sale : Sale) : Except (Stop CheckoutError) Int :=
  match sale.total with
  | .error fault => .error (.fault fault)
  | .ok total =>
      if total.isPositive then
        match total.pennies with
        | .error fault => .error (.fault fault)
        | .ok none => .error (before "price sale" 0 (.invalidAmount total))
        | .ok (some amount) => .ok amount
      else .error (before "price sale" 0 .zeroTotal)

def sessionRequest (settings : Settings) (sale : Sale) (amount : Int) : CheckoutRequest where
  amount
  reference := String.ofList (Text.digitsOfInt sale.id)
  successUrl := settings.successUrl
  cancelUrl := settings.cancelUrl
  customerEmail := if sale.primary.email.isEmpty then none else some sale.primary.email
  description :=
    settings.organisationName ++ " membership " ++ String.ofList (Text.digitsOfInt sale.year)

/-- Enters a pending sale for an order and opens a payment session for it. -/
def start (settings : Settings) (provider : PaymentProvider σ) (now : Instant) (order : Order) :
    EStateM (Stop CheckoutError) (Counter σ) CheckoutSession := do
  let sale := order.price settings now
  match charge sale with
  | .error stop => throw stop
  | .ok amount =>
      let closed := before "transaction" 0 (.store .closed)
      let entered ← atDesk
        (((SaleBook.add sale).orFail fun e => before "create sale" 0 (.sale e)).transaction closed)
        id
      atProvider (provider.openSession (sessionRequest settings entered amount))
        fun e => before "create payment session" entered.id (.payment e)

/-- The number of the sale that a session was opened for. -/
def saleOfReference (reference : Option String) : Option Int := do
  let id ← Text.readSigned? 64 (trim (← reference)).toList
  if 0 < id then some id else none

/-- Fulfils a sale, and then makes the notes about its household, which cannot undo it any more. -/
def settle (settings : Settings) (now : Instant) (saleId : Int) (paymentId : String) :
    Action (Stop StepError) Outcome := do
  let outcome ← ((Fulfilment.fulfil saleId paymentId now settings.otherMemberTypes).transaction
    ⟨"transaction", saleId, .store .closed⟩).orFail Stop.failure
  match outcome with
  | .fulfilled sale => (Household.keep settings sale now).orFail Stop.fault
  | .alreadyComplete _ => pure ()
  return outcome

/-- Fulfils the sale of a session that has been paid. -/
def finish (settings : Settings) (provider : PaymentProvider σ) (now : Instant)
    (sessionId : String) : EStateM (Stop CheckoutError) (Counter σ) Outcome := do
  let details ← atProvider (provider.findSession sessionId)
    fun e => after "fetch payment session" 0 (.payment e)
  match saleOfReference details.reference with
  | none => throw (after "read client reference" 0 (.invalidReference details.reference))
  | some saleId =>
      if details.isPaid then
        atDesk (settle settings now saleId sessionId) fun
          | .failure e => .failure (.postPayment e)
          | .fault fault => .fault fault
      else throw (after "check payment status" saleId (.notPaid details.status))

end Checkout

end Dues
