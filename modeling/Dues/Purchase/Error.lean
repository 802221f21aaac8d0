import Dues.Money.Written
import Dues.Payment.Basic
import Dues.Register.Error
import Dues.Sale.Book

/-! # What goes wrong with a purchase

The cause of a failure, the step in which it came up with the sale it was about, and whether the
customer has been charged by then.
-/

namespace Dues

open Dues.Money (Decimal)
open Dues.Payment (PaymentError)
open Dues.Register (RegisterError)

inductive Failure where
  | store (e : StoreError)
  | register (e : RegisterError)
  | sale (e : SaleError)
  | payment (e : PaymentError)
  | missingEmail
  | zeroTotal
  | invalidAmount (total : Decimal)
  | invalidReference (reference : Option String)
  | notPaid (status : String)
  deriving DecidableEq

def Failure.message : Failure → String
  | .store e => e.message
  | .register e => e.message
  | .sale e => e.message
  | .payment e => e.message
  | .missingEmail => "primary member has no email address"
  | .zeroTotal => "sale total is zero"
  | .invalidAmount total => "sale total " ++ total.text ++ " can't be charged"
  | .invalidReference reference =>
      "invalid client reference " ++ Text.Quoted.quoteOption reference
  | .notPaid status => "payment status is " ++ Text.Quoted.quote status

structure StepError where
  operation : String
  /-- 0 while there is no sale. -/
  saleId : Int
  cause : Failure
  deriving DecidableEq

def StepError.message (e : StepError) : String :=
  e.operation ++ " failed for sale " ++ String.ofList (Text.digitsOfInt e.saleId) ++ ": " ++
    e.cause.message

inductive CheckoutError where
  /-- The customer has not been charged. -/
  | prePayment (e : StepError)
  /-- The customer may have been charged. -/
  | postPayment (e : StepError)
  deriving DecidableEq

namespace CheckoutError

def step : CheckoutError → StepError
  | .prePayment e => e
  | .postPayment e => e

def message : CheckoutError → String
  | .prePayment e => "checkout failed before payment: " ++ e.message
  | .postPayment e => "checkout failed after payment: " ++ e.message

end CheckoutError

end Dues
