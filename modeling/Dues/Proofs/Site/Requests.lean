import Dues.Proofs.Purchase.Opening
import Dues.Site.Routing

/-! # What requests come to at the desk

A request begins a purchase or completes one, or it does not reach the desk at all. What holds of
visits holds of requests, whatever page they are answered with.
-/

namespace Dues

open Dues.Payment (PaymentProvider)
open Dues.Time (Instant)

/-- What can be asked of the desk. -/
inductive Errand where
  | begins (order : Order)
  | completes (sessionId : String)

variable {σ : Type}

def Errand.visit (settings : Settings) (provider : PaymentProvider σ) (state : σ) (now : Instant) :
    Errand → Visit
  | .begins order => .starts provider state settings now order
  | .completes sessionId => .returns provider state settings now sessionId

namespace Visit

theorem serve_starts (settings : Settings) (provider : PaymentProvider σ) (now : Instant)
    (order : Order) (d : Desk) (state : σ) :
    ((starts provider state settings now order).serve d).2 =
      (Counter.behind (Checkout.start settings provider now order ⟨d, state⟩)).desk := by
  dsimp only [serve]
  cases Checkout.start settings provider now order ⟨d, state⟩ <;> rfl

theorem serve_returns (settings : Settings) (provider : PaymentProvider σ) (now : Instant)
    (sessionId : String) (d : Desk) (state : σ) :
    ((returns provider state settings now sessionId).serve d).2 =
      (Counter.behind (Checkout.finish settings provider now sessionId ⟨d, state⟩)).desk := by
  dsimp only [serve]
  cases Checkout.finish settings provider now sessionId ⟨d, state⟩ <;> rfl

end Visit

/-- What is on the counter once an errand has been run. -/
def Errand.run (settings : Settings) (provider : PaymentProvider σ) (now : Instant)
    (c : Counter σ) : Errand → Counter σ
  | .begins order => Counter.behind (Checkout.start settings provider now order c)
  | .completes sessionId => Counter.behind (Checkout.finish settings provider now sessionId c)

theorem Errand.desk_run {settings : Settings} {provider : PaymentProvider σ} {now : Instant}
    {d : Desk} {state : σ} (errand : Errand) :
    (errand.run settings provider now ⟨d, state⟩).desk =
      ((errand.visit settings provider state now).serve d).2 := by
  cases errand with
  | begins order => exact (Visit.serve_starts settings provider now order d state).symm
  | completes sessionId => exact (Visit.serve_returns settings provider now sessionId d state).symm

namespace Site

theorem Route.ofPath?_eq_some {path : String} {route : Route} (found : ofPath? path = some route) :
    (path, route) ∈ [("/", home), ("/displayPaymentForm", form), ("/checkout", checkout),
      ("/success", success), ("/cancel", cancel)] := by
  obtain ⟨before, behind, same, _⟩ := List.lookup_eq_some_iff.mp found
  rw [same]
  exact List.mem_append_right _ List.mem_cons_self

theorem ok_of_toOption {ε α : Type} {r : Except ε α} {a : α}
    (h : r.toOption = some a) : r = .ok a := by
  cases r with
  | error e => cases h
  | ok b =>
      cases h
      rfl

/-- A form begins a purchase where there is nothing to complain about. -/
def MembershipForm.errand? (form : MembershipForm) : Option Errand :=
  if form.complaints.isEmpty then some (.begins form.order) else none

/-- What a request asks of the desk, none where it is answered without it. -/
def Request.errand? (request : Request) : Option Errand :=
  match Route.ofPath? request.path with
  | some .success =>
      if request.method = "GET" ∨ request.method = "HEAD" then
        request.readSessionId.toOption.map .completes
      else none
  | some .checkout =>
      if request.method = "POST" then request.readForm.toOption.bind MembershipForm.errand? else none
  | _ => none

variable {α β ε : Type} {c : Counter σ}

theorem give_redirect {url : String} (fits : Response.fitsHeader url = true) (c : Counter σ) :
    give (Response.redirectTo url) c = .ok (.redirect url) c := by
  rw [Response.redirectTo, if_pos fits]
  rfl

theorem give_nowhere {url : String} (unfit : Response.fitsHeader url = false) (c : Counter σ) :
    give (Response.redirectTo url) c = .error .invalidAddress c := by
  rw [Response.redirectTo, unfit]
  rfl

theorem behind_give (answer : Except Fault Response) : Counter.behind (give answer c) = c := by
  cases answer <;> rfl

theorem behind_orFailurePage (settings : Settings)
    (act : EStateM (Stop CheckoutError) (Counter σ) α) (answer : α → Except Fault Response) :
    Counter.behind (orFailurePage settings act answer c) = Counter.behind (act c) := by
  unfold orFailurePage
  cases act c with
  | ok a after => exact behind_give (answer a)
  | error stop after => cases stop <;> rfl

theorem behind_map (act : EStateM ε (Counter σ) α) (f : α → β) :
    Counter.behind ((act >>= fun a => pure (f a)) c) = Counter.behind (act c) := by
  change Counter.behind (EStateM.bind act _ c) = _
  unfold EStateM.bind
  cases act c <;> rfl

theorem behind_confirm (settings : Settings) (now : Instant) (form : MembershipForm) :
    Counter.behind (confirm settings now form c) = c := by
  unfold confirm
  split
  next =>
    dsimp only
    cases (form.order.price settings now).total <;> rfl
  next => rfl

variable {settings : Settings} {provider : PaymentProvider σ} {now : Instant} {d : Desk} {state : σ}

theorem behind_pay (form : MembershipForm) :
    Counter.behind (pay settings provider now form c) =
      form.errand?.elim c (Errand.run settings provider now c) := by
  unfold pay MembershipForm.errand?
  split
  next => exact behind_orFailurePage _ _ _
  next => rfl

theorem behind_success (request : Request) :
    Counter.behind (answerGet settings provider now request .success c) =
      (request.readSessionId.toOption.map Errand.completes).elim c
        (Errand.run settings provider now c) := by
  unfold answerGet orRefuse
  cases request.readSessionId with
  | error response => rfl
  | ok sessionId => exact behind_orFailurePage _ _ _

theorem behind_checkout (request : Request) :
    Counter.behind (answerPost settings provider now request .checkout c) =
      (request.readForm.toOption.bind MembershipForm.errand?).elim c
        (Errand.run settings provider now c) := by
  unfold answerPost orRefuse
  cases request.readForm with
  | error response => rfl
  | ok form => exact behind_pay form

theorem behind_form (request : Request) :
    Counter.behind (answerPost settings provider now request .form c) = c := by
  unfold answerPost orRefuse
  cases request.readForm with
  | error response => rfl
  | ok form => exact behind_confirm settings now form

/-- A request leaves the counter as the errand does that it asks for, and as it was if it asks for
none. -/
theorem behind_answer (request : Request) :
    Counter.behind (answer settings provider now request c) =
      request.errand?.elim c (Errand.run settings provider now c) := by
  unfold answer Request.errand?
  cases Route.ofPath? request.path with
  | none => rfl
  | some route =>
      dsimp only
      split
      next fetched =>
        obtain ⟨takesGet, get⟩ := Bool.and_eq_true_iff.mp fetched
        cases route with
        | checkout => cases takesGet
        | home => exact behind_give (Response.redirectTo "/displayPaymentForm")
        | success =>
            dsimp only
            rw [if_pos (.inl (of_decide_eq_true get))]
            exact behind_success request
        | _ => rfl
      next unfetched =>
        split
        next asked =>
          obtain ⟨takesGet, head⟩ := Bool.and_eq_true_iff.mp asked
          rw [behind_map]
          cases route with
          | checkout => cases takesGet
          | home => exact behind_give (Response.redirectTo "/displayPaymentForm")
          | success =>
              dsimp only
              rw [if_pos (.inr (of_decide_eq_true head))]
              exact behind_success request
          | _ => rfl
        next unasked =>
          split
          next sent =>
            obtain ⟨takesPost, post⟩ := Bool.and_eq_true_iff.mp sent
            cases route with
            | checkout =>
                dsimp only
                rw [if_pos (of_decide_eq_true post)]
                exact behind_checkout request
            | form => exact behind_form request
            | _ => cases takesPost
          next unsent =>
            cases route with
            | checkout =>
                have refused : ¬ request.method = "POST" := fun post =>
                  unsent (Bool.and_eq_true_iff.mpr ⟨rfl, decide_eq_true post⟩)
                dsimp only
                rw [if_neg refused]
                rfl
            | success =>
                have refused : ¬ (request.method = "GET" ∨ request.method = "HEAD") := by
                  rintro (get | head)
                  · exact unfetched (Bool.and_eq_true_iff.mpr ⟨rfl, decide_eq_true get⟩)
                  · exact unasked (Bool.and_eq_true_iff.mpr ⟨rfl, decide_eq_true head⟩)
                dsimp only
                rw [if_neg refused]
                rfl
            | _ => rfl

theorem answer_posted {request : Request} {route : Route} (post : request.method = "POST")
    (found : Route.ofPath? request.path = some route) (takesPost : route.takesPost = true) :
    answer settings provider now request = answerPost settings provider now request route := by
  have notGet : (route.takesGet && decide ("POST" = "GET")) = false := Bool.and_false _
  have notHead : (route.takesGet && decide ("POST" = "HEAD")) = false := Bool.and_false _
  unfold answer
  rw [found, post]
  dsimp only
  rw [notGet, notHead, takesPost]
  rfl

theorem Request.begins_of_errand? {request : Request} {order : Order}
    (asks : request.errand? = some (.begins order)) :
    request.method = "POST" ∧ request.path = "/checkout" ∧
      ∃ form, request.readForm = .ok form ∧ form.complaints = [] ∧ order = form.order := by
  unfold Request.errand? at asks
  split at asks
  next =>
    split at asks
    next =>
      obtain ⟨_, _, same⟩ := Option.map_eq_some_iff.mp asks
      cases same
    next => cases asks
  next found =>
    split at asks
    next post =>
      obtain ⟨form, read, accepted⟩ := Option.bind_eq_some_iff.mp asks
      unfold MembershipForm.errand? at accepted
      split at accepted
      next empty =>
        cases accepted
        have path : request.path = "/checkout" := by simpa using Route.ofPath?_eq_some found
        exact ⟨post, path, form, ok_of_toOption read, List.isEmpty_iff.mp empty, rfl⟩
      next => cases accepted
    next => cases asks
  next => cases asks

theorem Request.completes_of_errand? {request : Request} {sessionId : String}
    (asks : request.errand? = some (.completes sessionId)) :
    request.path = "/success" ∧ request.readSessionId = .ok sessionId := by
  unfold Request.errand? at asks
  split at asks
  next found =>
    split at asks
    next =>
      obtain ⟨_, read, same⟩ := Option.map_eq_some_iff.mp asks
      cases same
      have path : request.path = "/success" := by simpa using Route.ofPath?_eq_some found
      exact ⟨path, ok_of_toOption read⟩
    next => cases asks
  next =>
    split at asks
    next =>
      obtain ⟨form, _, same⟩ := Option.bind_eq_some_iff.mp asks
      unfold MembershipForm.errand? at same
      split at same <;> cases same
    next => cases asks
  next => cases asks

theorem desk_answer (request : Request) :
    (Counter.behind (answer settings provider now request ⟨d, state⟩)).desk =
      d.after (request.errand?.map (Errand.visit settings provider state now)).toList := by
  rw [behind_answer]
  cases request.errand? with
  | none => rfl
  | some errand => exact errand.desk_run

end Site

end Dues
