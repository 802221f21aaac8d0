import Dues.Money.Decimal

/-! # Settings

What differs from one society to the next: its name and addresses, the fees, and which sections the
form has.
-/

namespace Dues

open Dues.Money (Decimal)

inductive LogLevel where
  | off
  | error
  | warn
  | info
  | debug
  | trace
  deriving Repr, DecidableEq

structure Settings where
  organisationName : String
  /-- Serve without encryption. -/
  http : Bool := false
  runUser : Option String := none
  tlsCertificateFile : Option String := none
  tlsCertificateKeyFile : Option String := none
  /-- Where customers reach the service. -/
  siteUrl : String := "http://localhost:8080"
  /-- Whether there are associate members and friends of the museum. -/
  otherMemberTypes : Bool := false
  giftAid : Bool := false
  emailForQuestions : String
  emailForFailures : String
  ordinaryFee : Decimal
  associateFee : Decimal := Decimal.zero
  friendFee : Decimal := Decimal.zero
  /-- The name of the payment provider, noted on every sale. -/
  paymentService : String := "Stripe"
  logDirectory : Option String := none
  logLeader : String := "membership"
  logLevel : LogLevel := .warn

namespace Settings

/-- The address of the service without slashes at its end. -/
def siteRoot (s : Settings) : String :=
  String.ofList (s.siteUrl.toList.reverse.dropWhile (· = '/')).reverse

/-- Where the provider sends a customer who has paid. It fills in its own session id. -/
def successUrl (s : Settings) : String :=
  s.siteRoot ++ "/success?session_id=\x7bCHECKOUT_SESSION_ID\x7d"

/-- Where the provider sends a customer who has given up. -/
def cancelUrl (s : Settings) : String := s.siteRoot ++ "/cancel"

end Settings

end Dues
