import Dues.Purchase.Checkout
import Dues.Site.Pages
import Dues.Text.FormEncoding

/-! # Requests and answers

Every request finds its way to a page, a redirect or a refusal. Forms are read strictly: they must
be announced as forms, and no field may come twice.

Bodies are texts. It is left out that a body of more than 2 MiB is refused, with status 413, before it
is read as a form: here every body is read.
-/

namespace Dues.Site

open Dues.Payment (PaymentProvider)
open Dues.Text (splitAtFirst)
open Dues.Time (Instant)

structure Request where
  method : String
  /-- Path and query. -/
  target : String
  contentType : Option String := none
  body : String := ""
  deriving Repr, DecidableEq

structure Response where
  status : Nat
  location : Option String := none
  contentType : Option String := none
  allow : Option String := none
  body : String := ""
  deriving Repr, DecidableEq

namespace Response

def page (status : Nat) (content : Content) : Response :=
  { status, contentType := some "text/html; charset=utf-8", body := content.render }

def plain (status : Nat) (text : String) : Response :=
  { status, contentType := some "text/plain; charset=utf-8", body := text }

/-- Sends the customer on to another address, which is to be fetched. -/
def redirect (url : String) : Response := { status := 303, location := some url }

/-- The control characters of ASCII are no part of a header, tabs apart. -/
def fitsHeader (text : String) : Bool :=
  text.toList.all fun c => c = '\t' || (' ' ≤ c && c ≠ '\x7f')

/-- The answer that sends the customer on, if there is a header for the address. -/
def redirectTo (url : String) : Except Fault Response :=
  if fitsHeader url then .ok (.redirect url) else .error .invalidAddress

end Response

inductive Route where
  | home
  | form
  | checkout
  | success
  | cancel
  deriving Repr, DecidableEq

namespace Route

def ofPath? (path : String) : Option Route :=
  [("/", home), ("/displayPaymentForm", form), ("/checkout", checkout), ("/success", success),
    ("/cancel", cancel)].lookup path

def takesGet : Route → Bool
  | .checkout => false
  | _ => true

def takesPost : Route → Bool
  | .form => true
  | .checkout => true
  | _ => false

/-- The methods of a route. What can be fetched can also be asked for without its body. -/
def allow (r : Route) : String :=
  String.intercalate ","
    ((if r.takesGet then ["GET", "HEAD"] else []) ++ (if r.takesPost then ["POST"] else []))

end Route

namespace Request

/-- The target up to a fragment, which is no part of what is asked for. -/
def resource (r : Request) : List Char := (splitAtFirst '#' r.target.toList).1

def path (r : Request) : String := String.ofList (splitAtFirst '?' r.resource).1

def query (r : Request) : String := String.ofList ((splitAtFirst '?' r.resource).2.getD [])

/-- Parameters may follow the name of the type. A header that is not plain ASCII announces nothing. -/
def announcesForm (r : Request) : Bool :=
  match r.contentType with
  | none => false
  | some type =>
      (type.toList.all fun c => c = '\t' || (' ' ≤ c && c ≤ '~')) &&
        (Text.dropStart? "application/x-www-form-urlencoded".toList type.toList).isSome

/-- The form in the body, or why it is refused. -/
def readForm (r : Request) : Except Response MembershipForm :=
  if r.announcesForm then
    let pairs := Text.FormEncoding.decode r.body
    match Text.FormEncoding.repeated MembershipForm.fieldNames [] pairs with
    | some name =>
        .error (.plain 422 ("Failed to deserialize form body: duplicate field `" ++ name ++ "`"))
    | none => .ok (.ofPairs pairs)
  else
    .error (.plain 415
      "Form requests must have `Content-Type: application/x-www-form-urlencoded`")

/-- The session that a customer comes back from. -/
def readSessionId (r : Request) : Except Response String :=
  let pairs := Text.FormEncoding.decode r.query
  match Text.FormEncoding.repeated ["session_id"] [] pairs with
  | some name =>
      .error (.plain 400
        ("Failed to deserialize query string: duplicate field `" ++ name ++ "`"))
  | none => .ok ((pairs.lookup "session_id").getD "")

end Request

variable {σ : Type}

/-- What a request may do: it can read and change what is on the counter, and run into a fault. -/
abbrev Handler (σ α : Type) : Type := EStateM Fault (Counter σ) α

/-- The page that tells a customer about a failure. -/
def failurePage (settings : Settings) : CheckoutError → Response
  | .prePayment _ => .page 500 (Page.prePaymentPage settings)
  | .postPayment _ => .page 500 (Page.postPaymentPage settings)

/-- Gives an answer, if it comes about. -/
def give (answer : Except Fault Response) : Handler σ Response := fun counter =>
  match answer with
  | .ok response => .ok response counter
  | .error fault => .error fault counter

/-- Runs a step of a purchase, and shows a page for the failure if it fails. -/
def orFailurePage {α : Type} (settings : Settings)
    (act : EStateM (Stop CheckoutError) (Counter σ) α) (answer : α → Except Fault Response) :
    Handler σ Response := fun counter =>
  match act counter with
  | .ok a after => give (answer a) after
  | .error (.failure e) after => .ok (failurePage settings e) after
  | .error (.fault fault) after => .error fault after

/-- Checks a form; the customer confirms it or corrects it. -/
def confirm (settings : Settings) (now : Instant) (form : MembershipForm) :
    Handler σ Response := do
  if form.complaints.isEmpty then
    let sale := form.order.price settings now
    match sale.total with
    | .ok total => return .page 200 (Page.confirmationPage settings form sale total)
    | .error fault => throw fault
  else return .page 200 (Page.formPage settings form form.complaints)

/-- Sends a customer to the payment. The form comes from the customer once more, so it is checked
once more. Where the customer is sent to is up to the provider, whose address is taken as it is. -/
def pay (settings : Settings) (provider : PaymentProvider σ) (now : Instant)
    (form : MembershipForm) : Handler σ Response :=
  if form.complaints.isEmpty then
    orFailurePage settings (Checkout.start settings provider now form.order)
      fun session => Response.redirectTo session.url
  else return .page 200 (Page.formPage settings form form.complaints)

def orRefuse {α : Type} (read : Except Response α) (act : α → Handler σ Response) :
    Handler σ Response :=
  match read with
  | .ok a => act a
  | .error response => return response

/-- The answer to a request for something. -/
def answerGet (settings : Settings) (provider : PaymentProvider σ) (now : Instant)
    (request : Request) : Route → Handler σ Response
  | .home => give (Response.redirectTo "/displayPaymentForm")
  | .success =>
      orRefuse request.readSessionId fun sessionId =>
        orFailurePage settings (Checkout.finish settings provider now sessionId)
          fun outcome => .ok (.page 200 (Page.successPage settings outcome.sale))
  | .cancel => return .page 200 (Page.cancelPage settings)
  | _ => return .page 200 (Page.formPage settings {} [])

/-- The answer to a form that is sent in. -/
def answerPost (settings : Settings) (provider : PaymentProvider σ) (now : Instant)
    (request : Request) (route : Route) : Handler σ Response :=
  orRefuse request.readForm fun form =>
    if route = .checkout then pay settings provider now form else confirm settings now form

def answer (settings : Settings) (provider : PaymentProvider σ) (now : Instant)
    (request : Request) : Handler σ Response :=
  match Route.ofPath? request.path with
  | none => return { status := 404 }
  | some route =>
      if route.takesGet && request.method = "GET" then
        answerGet settings provider now request route
      else if route.takesGet && request.method = "HEAD" then do
        let response ← answerGet settings provider now request route
        return { response with body := "" }
      else if route.takesPost && request.method = "POST" then
        answerPost settings provider now request route
      else return { status := 405, allow := some route.allow }

end Dues.Site
