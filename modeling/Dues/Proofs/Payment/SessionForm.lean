import Mathlib.Logic.Function.Basic
import Dues.Payment.Hosted
import Dues.Proofs.Text.FormEncoding
import Dues.Proofs.Text.Number

/-! # The form that opens a session

What the provider reads in the form is what the society meant, whatever the texts in it. A text
fills its own field and no other, none of them adds a field or takes one away, and the amount that
is read is the amount to be paid.
-/

namespace Dues.Payment

open Dues.Text (readInt? digitsOfInt readInt?_digitsOfInt)
open Dues.Text.FormEncoding (decode isPlain)

section Traffic

variable {σ ε α : Type}

/-- A transport that writes down everything that is sent. -/
def Transport.logged (transport : Transport σ) : Transport (σ × List NetworkRequest) :=
  fun request (state, sent) =>
    let (answer, state') := transport request state
    (answer, state', sent ++ [request])

/-- A result, and the state that is left behind it. -/
def leaving (state : σ) : Except ε α → EStateM.Result ε σ α
  | .ok a => .ok a state
  | .error e => .error e state

/-- What becomes of a question depends on the answer only. -/
theorem HostedAccount.ask_eq (transport : Transport σ) (request : NetworkRequest)
    (readAnswer : Option NetworkAnswer → Except PaymentError α) (state : σ) :
    ask transport request readAnswer state =
      leaving (transport request state).2 (readAnswer (transport request state).1) := by
  change _ = leaving ((transport request).run state).2
    (readAnswer ((transport request).run state).1)
  unfold ask leaving
  cases (transport request).run state with
  | mk answer after =>
      dsimp only
      cases readAnswer answer <;> rfl

theorem HostedAccount.ask_logged (transport : Transport σ) (request : NetworkRequest)
    (readAnswer : Option NetworkAnswer → Except PaymentError α) (state : σ)
    (sent : List NetworkRequest) :
    ask transport.logged request readAnswer (state, sent) =
      leaving ((transport request state).2, sent ++ [request])
        (readAnswer (transport request state).1) :=
  ask_eq transport.logged request readAnswer (state, sent)

end Traffic

/-- An answer of success hands out the session that is read from it. -/
theorem HostedAccount.readOpenAnswer_success {status : Nat} {body : List UInt8}
    {session : CheckoutSession} (success : isSuccess status = true)
    (read : readSession? body = some session) :
    readOpenAnswer (some ⟨status, body⟩) = .ok session := by
  unfold readOpenAnswer accepted
  dsimp only
  rw [if_pos success]
  dsimp only [bind, Except.bind]
  rw [read]
  rfl

namespace HostedAccount

variable {request request' : CheckoutRequest} {fields : List (String × String)}

/-- What the fields of a form say about the session that it opens. -/
structure Describes (fields : List (String × String)) (request : CheckoutRequest) : Prop where
  names : fields.map Prod.fst =
    ["mode", "success_url", "cancel_url", "client_reference_id", "line_items[0][quantity]",
      "line_items[0][price_data][currency]", "line_items[0][price_data][unit_amount]",
      "line_items[0][price_data][product_data][name]"] ++
      if request.customerEmail.isSome then ["customer_email"] else []
  mode : fields.lookup "mode" = some "payment"
  quantity : fields.lookup "line_items[0][quantity]" = some "1"
  currency : fields.lookup "line_items[0][price_data][currency]" = some "gbp"
  amount : ∃ digits, fields.lookup "line_items[0][price_data][unit_amount]" = some digits ∧
    readInt? digits.toList = some request.amount
  successUrl : fields.lookup "success_url" = some request.successUrl
  cancelUrl : fields.lookup "cancel_url" = some request.cancelUrl
  reference : fields.lookup "client_reference_id" = some request.reference
  description :
    fields.lookup "line_items[0][price_data][product_data][name]" = some request.description
  customerEmail : fields.lookup "customer_email" = request.customerEmail

theorem sessionForm_describes (request : CheckoutRequest) :
    Describes (sessionForm request) request := by
  have amount : readInt? (String.ofList (digitsOfInt request.amount)).toList =
      some request.amount := by rw [String.toList_ofList, readInt?_digitsOfInt]
  obtain ⟨_, _, _, _, email, _⟩ := request
  cases email <;> exact ⟨rfl, rfl, rfl, rfl, ⟨_, rfl, amount⟩, rfl, rfl, rfl, rfl, rfl⟩

theorem Describes.nodup (h : Describes fields request) : (fields.map Prod.fst).Nodup := by
  rw [h.names]
  cases request.customerEmail.isSome <;> decide

theorem Describes.unique (h : Describes fields request) (h' : Describes fields request') :
    request = request' := by
  obtain ⟨digits, written, read⟩ := h.amount
  obtain ⟨digits', written', read'⟩ := h'.amount
  cases written.symm.trans written'
  obtain ⟨amount, reference, successUrl, cancelUrl, customerEmail, description⟩ := request
  obtain ⟨amount', reference', successUrl', cancelUrl', customerEmail', description'⟩ := request'
  congr 1
  · exact Option.some_inj.mp (read.symm.trans read')
  · exact Option.some_inj.mp (h.reference.symm.trans h'.reference)
  · exact Option.some_inj.mp (h.successUrl.symm.trans h'.successUrl)
  · exact Option.some_inj.mp (h.cancelUrl.symm.trans h'.cancelUrl)
  · exact h.customerEmail.symm.trans h'.customerEmail
  · exact Option.some_inj.mp (h.description.symm.trans h'.description)

/-- The texts that come with every session. -/
inductive Slot
  | successUrl
  | cancelUrl
  | reference
  | description

namespace Slot

def field : Slot → String
  | successUrl => "success_url"
  | cancelUrl => "cancel_url"
  | reference => "client_reference_id"
  | description => "line_items[0][price_data][product_data][name]"

def fill (slot : Slot) (text : String) (request : CheckoutRequest) : CheckoutRequest :=
  match slot with
  | successUrl => { request with successUrl := text }
  | cancelUrl => { request with cancelUrl := text }
  | reference => { request with reference := text }
  | description => { request with description := text }

end Slot

/-- Writes a text into a field and leaves all other fields as they are. -/
def overwrite (name text : String) (fields : List (String × String)) : List (String × String) :=
  fields.map fun field => if field.1 = name then (name, text) else field

theorem sessionForm_fill (slot : Slot) (text : String) (request : CheckoutRequest) :
    sessionForm (slot.fill text request) = overwrite slot.field text (sessionForm request) := by
  obtain ⟨_, _, _, _, email, _⟩ := request
  cases slot <;> cases email <;> rfl

theorem sessionForm_email (text : String) (request : CheckoutRequest) :
    sessionForm { request with customerEmail := some text } =
      sessionForm { request with customerEmail := none } ++ [("customer_email", text)] := rfl

/-- The form as it is sent. -/
def sessionBody (request : CheckoutRequest) : String :=
  Text.FormEncoding.encode (sessionForm request)

theorem decode_sessionBody (request : CheckoutRequest) :
    decode (sessionBody request) = sessionForm request :=
  Text.FormEncoding.decode_encode _

/-- What opens a session is one form. It is read back as the list of fields that it was made from,
in their order, and these tell what the session is for: so two different sessions have different
forms. A text that is put into a field is found in this field, and everything else stays as it is;
an email is one more field behind the others. This holds for every society's account. -/
theorem session_form_is_tamper_proof (account : HostedAccount) (request : CheckoutRequest) :
    (∀ (σ : Type) (transport : Transport σ) (state : σ) (sent : List NetworkRequest),
      ∃ state' result, (account.provider transport.logged).openSession request (state, sent) =
        leaving (state', sent ++ [account.openRequest request]) result) ∧
    (account.openRequest request).contentType = some "application/x-www-form-urlencoded" ∧
    (account.openRequest request).body = some (sessionBody request) ∧
    decode (sessionBody request) = sessionForm request ∧
    Describes (decode (sessionBody request)) request ∧
    ((decode (sessionBody request)).map Prod.fst).Nodup ∧
    (∀ slot text, decode (sessionBody (Slot.fill slot text request)) =
      overwrite slot.field text (decode (sessionBody request))) ∧
    (∀ text, decode (sessionBody { request with customerEmail := some text }) =
      decode (sessionBody { request with customerEmail := none }) ++ [("customer_email", text)]) ∧
    (∀ request', sessionBody request' = sessionBody request ↔ request' = request) ∧
    ((sessionBody request).toList.all fun c => isPlain c || ['+', '%', '=', '&'].contains c) ∧
    (sessionBody request).toList.count '=' = (sessionForm request).length ∧
    (sessionBody request).toList.count '&' + 1 = (sessionForm request).length := by
  have described : ∀ r, Describes (decode (sessionBody r)) r := fun r =>
    decode_sessionBody r ▸ sessionForm_describes r
  refine ⟨fun σ transport state sent => ⟨_, _, ask_logged transport _ _ state sent⟩, rfl, rfl,
    decode_sessionBody request, described request, (described request).nodup,
    fun slot text => ?_, fun text => ?_, fun request' => ⟨fun same => ?_, congrArg sessionBody⟩,
    List.all_eq_true.mpr fun c mem => ?_, Text.FormEncoding.count_equals_encode _, ?_⟩
  · rw [decode_sessionBody, decode_sessionBody, sessionForm_fill]
  · rw [decode_sessionBody, decode_sessionBody, sessionForm_email]
  · exact (same ▸ described request').unique (described request)
  · rw [Bool.or_eq_true, List.contains_iff_mem]
    exact Text.FormEncoding.isPlain_or_sign_of_mem_encode mem
  · exact congrArg (· + 1) (Text.FormEncoding.count_ampersand_encode _ _)

/-- A description that looks like a field stays a description. -/
example :
    let request : CheckoutRequest :=
      { amount := 2400, reference := "17", successUrl := "s", cancelUrl := "c"
        customerEmail := none, description := "Dues&mode=free" }
    (decode (sessionBody request)).getLast? =
      some ("line_items[0][price_data][product_data][name]", "Dues&mode=free") := by
  intro request
  rw [decode_sessionBody]
  rfl

end HostedAccount

end Dues.Payment
