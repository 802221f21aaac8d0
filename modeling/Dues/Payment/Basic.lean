import Dues.Text.Number

/-! # Payments

What the society needs of a payment provider: to open a session in which one amount is paid, and to
look that session up again later.
-/

namespace Dues.Payment

inductive PaymentError where
  /-- The provider could not be reached, or its answer could not be read. -/
  | noAnswer
  | rejected (status : Nat) (message : String)
  | sessionNotFound (sessionId : String)
  deriving Repr, DecidableEq

def PaymentError.message : PaymentError → String
  | .noAnswer => "payment provider request failed"
  | .rejected status message =>
      "payment provider returned " ++ String.ofList (Text.digitsOfNat status) ++ ": " ++ message
  | .sessionNotFound sessionId => "payment session " ++ sessionId ++ " not found"

/-- What a session is opened for. -/
structure CheckoutRequest where
  /-- The amount to be paid, in pennies. -/
  amount : Int
  /-- The society's own number for it, which the provider gives back. -/
  reference : String
  successUrl : String
  cancelUrl : String
  customerEmail : Option String
  description : String
  deriving Repr, DecidableEq

structure CheckoutSession where
  id : String
  /-- The page on which the customer pays. -/
  url : String
  deriving Repr, DecidableEq

structure SessionDetails where
  status : String
  reference : Option String
  customerId : Option String
  customerEmail : Option String
  deriving Repr, DecidableEq

/-- The status of a session that has been paid. -/
def paid : String := "paid"

def SessionDetails.isPaid (d : SessionDetails) : Bool := d.status == paid

/-- A provider and what it keeps between requests. -/
structure PaymentProvider (σ : Type) where
  openSession : CheckoutRequest → EStateM PaymentError σ CheckoutSession
  findSession : String → EStateM PaymentError σ SessionDetails

end Dues.Payment
