import Dues.Payment.Basic

/-! # A provider to try things out with

It keeps every session that was opened, and reports what it has been told to report.
-/

namespace Dues.Payment

structure Sandbox where
  sessions : List CheckoutRequest := []
  /-- The status of every session. -/
  status : String := paid
  /-- The reference of every session; without it each session has its own. -/
  reference : Option (Option String) := none
  /-- How the next request for a session is turned down. -/
  rejection : Option (Nat × String) := none

namespace Sandbox

/-- The name of the `n`-th session. -/
def sessionId (n : Nat) : String := "cs_test_" ++ String.ofList (Text.digitsOfNat n)

def openSession (request : CheckoutRequest) : EStateM PaymentError Sandbox CheckoutSession := do
  let sandbox ← get
  match sandbox.rejection with
  | some (status, message) =>
      set { sandbox with rejection := none }
      throw (.rejected status message)
  | none =>
      set { sandbox with sessions := sandbox.sessions ++ [request] }
      let id := sessionId (sandbox.sessions.length + 1)
      return ⟨id, "https://checkout.example.org/pay/" ++ id⟩

def findSession (id : String) : EStateM PaymentError Sandbox SessionDetails := do
  let sandbox ← get
  match sandbox.sessions.zipIdx.find? fun s => sessionId (s.2 + 1) == id with
  | none => throw (.sessionNotFound id)
  | some (request, _) =>
      return {
        status := sandbox.status
        reference := sandbox.reference.getD (some request.reference)
        customerId := some "cus_test"
        customerEmail := request.customerEmail }

def provider : PaymentProvider Sandbox := ⟨openSession, findSession⟩

end Sandbox

end Dues.Payment
