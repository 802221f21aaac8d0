import Dues.Payment.Basic
import Dues.Text.Base64
import Dues.Text.FormEncoding
import Dues.Text.Json

/-! # Hosted checkout

Sessions at a provider that is reached over the network. Requests are forms, answers are JSON as
octets, whatever these are. An answer counts only if it reports success and can be read as a whole.
-/

namespace Dues.Payment

open Dues.Text (Json)

structure NetworkRequest where
  method : String
  url : String
  authorization : String
  contentType : Option String := none
  body : Option String := none
  deriving Repr, DecidableEq

structure NetworkAnswer where
  status : Nat
  body : List UInt8
  deriving Repr, DecidableEq

/-- Sends a request; none if no answer comes back. -/
abbrev Transport (σ : Type) : Type := NetworkRequest → StateM σ (Option NetworkAnswer)

/-- The society's account with the provider. -/
structure HostedAccount where
  secretKey : String
  baseUrl : String

namespace HostedAccount

/-- The key is the user name of an account without password. -/
def authorization (account : HostedAccount) : String :=
  let octets := Text.Octets.ofChars (account.secretKey.toList ++ [':'])
  String.ofList ("Basic ".toList ++ Text.Base64.encode octets)

/-- The fields of the form that opens a session: one item, paid once, in pounds. -/
def sessionForm (request : CheckoutRequest) : List (String × String) :=
  [("mode", "payment"),
    ("success_url", request.successUrl),
    ("cancel_url", request.cancelUrl),
    ("client_reference_id", request.reference),
    ("line_items[0][quantity]", "1"),
    ("line_items[0][price_data][currency]", "gbp"),
    ("line_items[0][price_data][unit_amount]", String.ofList (Text.digitsOfInt request.amount)),
    ("line_items[0][price_data][product_data][name]", request.description)] ++
  match request.customerEmail with
  | some email => [("customer_email", email)]
  | none => []

def openRequest (account : HostedAccount) (request : CheckoutRequest) : NetworkRequest where
  method := "POST"
  url := account.baseUrl ++ "/checkout/sessions"
  authorization := account.authorization
  contentType := some "application/x-www-form-urlencoded"
  body := some (Text.FormEncoding.encode (sessionForm request))

/-- Only ids of ASCII letters, digits and underscores can be part of an address. -/
def isSessionId (id : String) : Bool :=
  !id.isEmpty && id.toList.all fun c => c.isAlphanum || c = '_'

def findRequest (account : HostedAccount) (sessionId : String) : NetworkRequest where
  method := "GET"
  url := account.baseUrl ++ "/checkout/sessions/" ++ sessionId
  authorization := account.authorization

/-- The message in a document that reports an error. -/
def readError? (body : List UInt8) : Option (Option String) := do
  match ← (← Json.ofOctets? body).fields? ["error"] with
  | [some inner] =>
      match ← inner.fields? ["message"] with
      | [message] => Json.optional? Json.text? message
      | _ => none
  | _ => none

/-- The message in an answer that reports an error, empty if there is none. -/
def errorMessage (body : List UInt8) : String := ((readError? body).getD none).getD ""

def isSuccess (status : Nat) : Bool := 200 ≤ status && status < 300

/-- The body of an answer that reports success. -/
def accepted (answer : NetworkAnswer) : Except PaymentError (List UInt8) :=
  if isSuccess answer.status then .ok answer.body
  else .error (.rejected answer.status (errorMessage answer.body))

def readSession? (body : List UInt8) : Option CheckoutSession := do
  match ← (← Json.ofOctets? body).fields? ["id", "url"] with
  | [id, url] => return ⟨← Json.requiredText? id, ← Json.requiredText? url⟩
  | _ => none

/-- The customer's email among the details of a session. -/
def customerDetailsEmail? (details : Json) : Option (Option String) := do
  match ← details.fields? ["email"] with
  | [email] => Json.optional? Json.text? email
  | _ => none

/-- The customer's email may stand in either of two places. -/
def readDetails? (body : List UInt8) : Option SessionDetails := do
  let names :=
    ["payment_status", "client_reference_id", "customer", "customer_email", "customer_details"]
  match ← (← Json.ofOctets? body).fields? names with
  | [status, reference, customer, email, details] =>
      let status ← Json.requiredText? status
      let reference ← Json.optional? Json.text? reference
      let customerId ← Json.optional? Json.text? customer
      let email ← Json.optional? Json.text? email
      let details ← Json.optional? customerDetailsEmail? details
      return ⟨status, reference, customerId, email <|> details.join⟩
  | _ => none

def readOpenAnswer (answer : Option NetworkAnswer) : Except PaymentError CheckoutSession :=
  match answer with
  | none => .error .noAnswer
  | some answer => do
      match readSession? (← accepted answer) with
      | some session => return session
      | none => throw .noAnswer

def readFindAnswer (sessionId : String) (answer : Option NetworkAnswer) :
    Except PaymentError SessionDetails :=
  match answer with
  | none => .error .noAnswer
  | some answer =>
      if answer.status = 404 then .error (.sessionNotFound sessionId)
      else do
        match readDetails? (← accepted answer) with
        | some details => return details
        | none => throw .noAnswer

variable {σ : Type}

/-- Sends a request and reads the answer. -/
def ask {α : Type} (transport : Transport σ) (request : NetworkRequest)
    (readAnswer : Option NetworkAnswer → Except PaymentError α) : EStateM PaymentError σ α :=
  fun state =>
    let (answer, state) := (transport request).run state
    match readAnswer answer with
    | .ok a => .ok a state
    | .error e => .error e state

/-- An id that cannot be part of an address belongs to no session; nothing is sent for it. -/
def findSession (account : HostedAccount) (transport : Transport σ) (sessionId : String) :
    EStateM PaymentError σ SessionDetails :=
  if isSessionId sessionId then
    ask transport (account.findRequest sessionId) (readFindAnswer sessionId)
  else throw (.sessionNotFound sessionId)

def provider (account : HostedAccount) (transport : Transport σ) : PaymentProvider σ where
  openSession request := ask transport (account.openRequest request) readOpenAnswer
  findSession sessionId := account.findSession transport sessionId

end HostedAccount

end Dues.Payment
