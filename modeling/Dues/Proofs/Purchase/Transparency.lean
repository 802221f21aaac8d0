import Dues.Proofs.Register.Transparency
import Dues.Proofs.Sale.Ledger
import Dues.Site.Routing

/-! # Work with and without what was looked up

A shift at the counter is a run of work of all kinds, with transactions that are kept or undone.
Whoever forgets now and then which numbers the profile fields have gives the same answers and leaves
the same store as someone who never does, since what was looked up is always what would be found.
-/

namespace Dues

open Dues.Payment
open Dues.Register
open Dues.Time (Instant)
open Dues.Money (Decimal)

variable {base : Store}

/-! ## Sales and members -/

theorem SaleBook.expectOne_respects {R : Desk → Desk → Prop} (operation : String) (saleId : Int)
    (rows : Nat) : Respects R (expectOne operation saleId rows) := by
  unfold expectOne
  split
  next => exact .pure _
  next => exact .throw _

variable {R : Desk → Desk → Prop} [Desk.Congruence R]

namespace SaleBook

theorem insertSale_sameFields {s s' : Store} {record : SaleRecord} {id : Int}
    (h : s.insertSale record = .ok (id, s')) : s.SameFields s' := by
  obtain ⟨_, _, rfl⟩ := Store.insertSale_ok.mp h
  exact ⟨rfl, rfl⟩

theorem deleteSale_sameFields {s s' : Store} {id : Int} {n : Nat}
    (h : s.deleteSale id = .ok (n, s')) : s.SameFields s' := by
  obtain ⟨_, _, rfl⟩ := Store.deleteSale_ok.mp h
  exact ⟨rfl, rfl⟩

theorem add_respects (sale : Sale) : Respects R (add sale) :=
  ((Respects.write fun _ _ _ h => insertSale_sameFields h).orFail _).bind fun _ => .pure _

theorem find_respects (saleId : Int) : Respects R (find saleId) := by
  refine ((Respects.read _).orFail _).bind fun found => ?_
  cases found with
  | none => exact .throw _
  | some sale => exact .pure sale

theorem replace_respects (sale : Sale) : Respects R (replace sale) :=
  ((Respects.write fun _ _ _ h => .of_frame (Store.updateSale_frame h)).orFail _).bind fun rows =>
    expectOne_respects "update" sale.id rows

theorem remove_respects (sale : Sale) : Respects R (remove sale) :=
  ((Respects.write fun _ _ _ h => deleteSale_sameFields h).orFail _).bind fun rows =>
    (expectOne_respects "delete" sale.id rows).bind fun _ => .pure _

end SaleBook

theorem findMatches_respects (sale : Sale) : Respects R (findMatches sale) := by
  refine (findMember_respects _ _ _).bind fun primary => ?_
  dsimp only
  split
  next => exact (findMember_respects _ _ _).bind fun associate => .pure _
  next => exact (Respects.pure _).bind fun associate => .pure _

/-! ## Fulfilment -/

namespace Fulfilment

theorem accountNumber_respects (loginName : String) :
    Respects (Desk.Twin base) (accountNumber loginName) := by
  refine (accountsNamed_respects _).bind fun accounts => ?_
  cases accounts with
  | nil => exact (openAccount_respects _).bind fun _ => .pure _
  | cons account rest => exact .pure _

theorem describe_respects (userId : Int) (person : Participant) :
    Respects (Desk.Twin base) (describe userId person) := by
  refine (setValue_respects _ _ _).bind fun _ => (setValue_respects _ _ _).bind fun _ => ?_
  split
  next => exact setValue_respects _ _ _
  next => exact .pure _

theorem provide_respects (person : Participant) (known : Int) (loginName : String) (now : Instant)
    (year : Int) : Respects (Desk.Twin base) (provide person known loginName now year) := by
  unfold provide
  dsimp only
  split
  next => exact (extend_respects _ _).bind fun _ => .pure _
  next =>
    refine (accountNumber_respects _).bind fun userId => ?_
    refine (membership?_respects _).bind fun m => ?_
    have described : Respects (Desk.Twin base) (describe userId person >>= fun _ => pure userId) :=
      (describe_respects userId person).bind fun _ => .pure userId
    cases m with
    | some row => exact (extend_respects _ _).bind fun _ => described
    | none => exact (enrol_respects _ _ _ _).bind fun _ => described

theorem provideAll_respects (sale : Sale) (now : Instant) (withAssociate : Bool) :
    Respects (Desk.Twin base) (provideAll sale now withAssociate) := by
  refine ((findMatches_respects _).orFail _).bind fun found => Respects.bind ?_ fun primaryId =>
    Respects.bind ?_ fun associateId => .pure _
  · unfold providePrimary
    split
    next => exact .throw _
    next => exact (provide_respects _ _ _ _ _).orFail _
  · unfold provideAssociate
    split
    next => exact (provide_respects _ _ _ _ _).orFail _
    next => exact .pure _

theorem fulfil_respects (saleId : Int) (paymentId : String) (now : Instant)
    (withAssociate : Bool) :
    Respects (Desk.Twin base) (fulfil saleId paymentId now withAssociate) := by
  refine ((SaleBook.find_respects _).orFail _).bind fun entry => ?_
  split
  next => exact .pure _
  next =>
    refine (provideAll_respects _ _ _).bind fun provided => ?_
    exact ((SaleBook.replace_respects _).orFail _).bind fun _ => .pure _

end Fulfilment

/-! ## Notes about households -/

namespace Household

variable {ε α : Type}

theorem note_respects (n : Note) : Respects (Desk.Twin base) (note n : Action ε Unit) := by
  intro d d' twin
  have ends := setValue_respects n.field n.userId n.value d d' twin
  unfold note
  generalize setValue n.field n.userId n.value d = r at ends
  generalize setValue n.field n.userId n.value d' = r' at ends
  cases ends with
  | ok _ related => exact .ok () related
  | error _ related => exact .ok () related

theorem notes_respect (notes : List Note) :
    Respects (Desk.Twin base) (notes.forM note : Action ε Unit) := by
  induction notes with
  | nil => exact .pure ()
  | cons n rest ih =>
      exact (note_respects n).bind fun _ => ih

theorem orFault_respects (result : Except ε α) : Respects (Desk.Twin base) (orFault result) := by
  cases result with
  | ok a => exact .pure a
  | error e => exact .throw e

theorem record_respects (settings : Settings) (sale : Sale) (now : Instant) :
    Respects (Desk.Twin base) (record settings sale now) :=
  (orFault_respects _).bind fun _ => (notes_respect _).bind fun _ =>
    (orFault_respects _).bind fun _ => notes_respect _

theorem keep_respects (settings : Settings) (sale : Sale) (now : Instant) :
    Respects (Desk.Twin base) (keep settings sale now) := by
  intro d d' twin
  have ends := (((record_respects settings sale now).orFail some).transaction none) d d' twin
  unfold keep
  generalize ((record settings sale now).orFail some).transaction none d = r at ends
  generalize ((record settings sale now).orFail some).transaction none d' = r' at ends
  cases ends with
  | ok _ related => exact .ok () related
  | error e related =>
      cases e with
      | none => exact .ok () related
      | some fault => exact .error fault related

end Household

/-! ## The counter -/

/-- Counters that differ in what was looked up at their desks. -/
structure Counter.Twin {σ : Type} (base : Store) (c c' : Counter σ) : Prop where
  desk : c.desk.Twin base c'.desk
  provider : c'.provider = c.provider

namespace Checkout

variable {σ ε ε' α : Type}

theorem atDesk_respects {act : Action ε α} (h : Respects (Desk.Twin base) act) (f : ε → ε') :
    Respects (Counter.Twin (σ := σ) base) (Counter.atDesk act f) := by
  rintro ⟨desk, _⟩ ⟨desk', provider⟩ ⟨twin, rfl⟩
  have ends := h desk desk' twin
  unfold Counter.atDesk
  dsimp only
  generalize act desk = r at ends
  generalize act desk' = r' at ends
  cases ends with
  | ok a related => exact .ok a ⟨related, rfl⟩
  | error e related => exact .error (f e) ⟨related, rfl⟩

theorem atProvider_respects (act : EStateM ε σ α) (f : ε → ε') :
    Respects (Counter.Twin base) (Counter.atProvider act f) := by
  rintro ⟨desk, _⟩ ⟨desk', provider⟩ ⟨twin, rfl⟩
  unfold Counter.atProvider
  cases act provider with
  | ok a behind => exact .ok a ⟨twin, rfl⟩
  | error e behind => exact .error (f e) ⟨twin, rfl⟩

theorem start_respects (settings : Settings) (provider : PaymentProvider σ) (now : Instant)
    (order : Order) : Respects (Counter.Twin base) (start settings provider now order) := by
  unfold start
  dsimp only
  cases charge (order.price settings now) with
  | error stop => exact .throw stop
  | ok amount =>
      refine (atDesk_respects ?_ _).bind fun entered => atProvider_respects _ _
      exact ((SaleBook.add_respects _).orFail _).transaction _

theorem settle_respects (settings : Settings) (now : Instant) (saleId : Int) (paymentId : String) :
    Respects (Desk.Twin base) (settle settings now saleId paymentId) := by
  refine (((Fulfilment.fulfil_respects _ _ _ _).transaction _).orFail _).bind fun outcome => ?_
  cases outcome with
  | fulfilled sale => exact ((Household.keep_respects _ _ _).orFail _).bind fun _ => .pure _
  | alreadyComplete sale => exact (Respects.pure _).bind fun _ => .pure _

theorem finish_respects (settings : Settings) (provider : PaymentProvider σ) (now : Instant)
    (sessionId : String) :
    Respects (Counter.Twin base) (finish settings provider now sessionId) := by
  refine (atProvider_respects _ _).bind fun details => ?_
  cases saleOfReference details.reference with
  | none => exact .throw _
  | some saleId =>
      dsimp only
      split
      next => exact atDesk_respects (settle_respects _ _ _ _) _
      next => exact .throw _

end Checkout

namespace Site

open Checkout

variable {σ α : Type}

theorem give_respects (answer : Except Fault Response) :
    Respects (Counter.Twin (σ := σ) base) (give answer) := by
  cases answer with
  | ok response => exact .pure response
  | error fault => exact .throw fault

theorem orFailurePage_respects (settings : Settings)
    {act : EStateM (Stop CheckoutError) (Counter σ) α} (h : Respects (Counter.Twin base) act)
    (answer : α → Except Fault Response) :
    Respects (Counter.Twin base) (orFailurePage settings act answer) := by
  intro c c' twin
  have ends := h c c' twin
  unfold orFailurePage
  generalize act c = r at ends
  generalize act c' = r' at ends
  cases ends with
  | ok a related => exact give_respects (answer a) _ _ related
  | error e related =>
      cases e with
      | failure e => exact .ok _ related
      | fault fault => exact .error fault related

theorem orRefuse_respects {act : α → Handler σ Response}
    (h : ∀ a, Respects (Counter.Twin base) (act a)) (read : Except Response α) :
    Respects (Counter.Twin base) (orRefuse read act) := by
  cases read with
  | ok a => exact h a
  | error response => exact .pure response

theorem confirm_respects (settings : Settings) (now : Instant) (form : MembershipForm) :
    Respects (Counter.Twin (σ := σ) base) (confirm settings now form) := by
  unfold confirm
  split
  next =>
    dsimp only
    cases (form.order.price settings now).total with
    | ok total => exact .pure _
    | error fault => exact .throw fault
  next => exact .pure _

theorem pay_respects (settings : Settings) (provider : PaymentProvider σ) (now : Instant)
    (form : MembershipForm) : Respects (Counter.Twin base) (pay settings provider now form) := by
  unfold pay
  split
  next => exact orFailurePage_respects settings (start_respects _ _ _ _) _
  next => exact .pure _

theorem answerGet_respects (settings : Settings) (provider : PaymentProvider σ) (now : Instant)
    (request : Request) (route : Route) :
    Respects (Counter.Twin base) (answerGet settings provider now request route) := by
  cases route with
  | success =>
      exact orRefuse_respects (fun sessionId =>
        orFailurePage_respects settings (finish_respects settings provider now sessionId) _) _
  | home => exact give_respects (Response.redirectTo "/displayPaymentForm")
  | form => exact .pure _
  | checkout => exact .pure _
  | cancel => exact .pure _

theorem answerPost_respects (settings : Settings) (provider : PaymentProvider σ) (now : Instant)
    (request : Request) (route : Route) :
    Respects (Counter.Twin base) (answerPost settings provider now request route) := by
  refine orRefuse_respects (fun form => ?_) _
  split
  next => exact pay_respects settings provider now form
  next => exact confirm_respects settings now form

theorem answer_respects (settings : Settings) (provider : PaymentProvider σ) (now : Instant)
    (request : Request) : Respects (Counter.Twin base) (answer settings provider now request) := by
  unfold answer
  cases Route.ofPath? request.path with
  | none => exact .pure _
  | some route =>
      dsimp only
      split
      next => exact answerGet_respects _ _ _ _ _
      next =>
        split
        next => exact (answerGet_respects _ _ _ _ _).bind fun _ => .pure _
        next =>
          split
          next => exact answerPost_respects _ _ _ _ _
          next => exact .pure _

end Site

/-! ## Shifts -/

/-- What may be asked of the register. Removing a profile field is not among it. -/
inductive Register.Task where
  | openAccount (loginName : String)
  | accountsNamed (loginName : String)
  | findMember (firstName lastName email : String)
  | findMatches (sale : Sale)
  | enrol (userId : Int) (role : String) (begins ends : Instant)
  | membership (userId : Int)
  | extend (userId : Int) (ends : Instant)
  | fieldNumber (name : String)
  | setValue (t : ValueType) (field : ProfileField t) (userId : Int) (value : t.Value)
  | value? (t : ValueType) (field : ProfileField t) (userId : Int)
  | valueOrZero (t : ValueType) (field : ProfileField t) (userId : Int)
  | roleExists (name : String)
  | removeRole (name : String)
  | removeUser (userId : Int)

namespace Register.Task

/-- What a task that succeeds gives. -/
def Result : Task → Type
  | .openAccount _ => Int × User
  | .accountsNamed _ => List (Int × User)
  | .findMember .. => Int
  | .findMatches _ => Matches
  | .enrol .. => Int × Member
  | .membership _ => Int × Member
  | .extend .. => Nat
  | .fieldNumber _ => Int
  | .setValue .. => Unit
  | .value? t .. => Option t.Value
  | .valueOrZero t .. => t.Value
  | .roleExists _ => Bool
  | .removeRole _ => Nat
  | .removeUser _ => Nat

def act : (task : Task) → Action RegisterError task.Result
  | .openAccount loginName => Register.openAccount loginName
  | .accountsNamed loginName => Register.accountsNamed loginName
  | .findMember firstName lastName email => Register.findMember firstName lastName email
  | .findMatches sale => Dues.findMatches sale
  | .enrol userId role begins ends => Register.enrol userId role begins ends
  | .membership userId => Register.membership userId
  | .extend userId ends => Register.extend userId ends
  | .fieldNumber name => Register.fieldNumber name
  | .setValue _ field userId value => Register.setValue field userId value
  | .value? _ field userId => Register.value? field userId
  | .valueOrZero _ field userId => Register.valueOrZero field userId
  | .roleExists name => Register.roleExists name
  | .removeRole name => Register.removeRole name
  | .removeUser userId => Register.removeUser userId

theorem respects (task : Task) : Respects R task.act := by
  cases task with
  | openAccount loginName => exact openAccount_respects loginName
  | accountsNamed loginName => exact accountsNamed_respects loginName
  | findMember firstName lastName email => exact findMember_respects firstName lastName email
  | findMatches sale => exact findMatches_respects sale
  | enrol userId role begins ends => exact enrol_respects userId role begins ends
  | membership userId => exact membership_respects userId
  | extend userId ends => exact extend_respects userId ends
  | fieldNumber name => exact .fieldNumber name
  | setValue t field userId value => exact setValue_respects field userId value
  | value? t field userId => exact value?_respects field userId
  | valueOrZero t field userId => exact valueOrZero_respects field userId
  | roleExists name => exact roleExists_respects name
  | removeRole name => exact removeRole_respects name
  | removeUser userId => exact removeUser_respects userId

end Register.Task

/-- A session at the counter, with what the payment provider keeps. -/
structure Shift (σ : Type) where
  session : Session
  provider : σ

/-- What may happen in a shift. Settings and time may be others at each step. -/
inductive ShiftStep (σ : Type) where
  | register (task : Task)
  /-- Work at the book, or a turn of the transaction. -/
  | book (step : BookStep)
  | start (settings : Settings) (now : Instant) (order : Order)
  | finish (settings : Settings) (now : Instant) (sessionId : String)
  | settle (settings : Settings) (now : Instant) (saleId : Int) (paymentId : String)
  | answer (settings : Settings) (now : Instant) (request : Site.Request)
  /-- Something happens at the payment provider. -/
  | elsewhere (change : σ → σ)

/-- What comes of a step. -/
inductive ShiftReply where
  | registered (task : Task) (result : Except RegisterError task.Result)
  | booked (reply : BookReply)
  | started (result : Except (Stop CheckoutError) CheckoutSession)
  | finished (result : Except (Stop CheckoutError) Outcome)
  | settled (result : Except (Stop StepError) Outcome)
  | answered (result : Except Fault Site.Response)
  | nothing
  /-- Purchases have no place inside an open transaction. -/
  | transactionOpen

namespace Shift

variable {σ ε α : Type}

def atCounter (s : Shift σ) (act : EStateM ε (Counter σ) α) (reply : Except ε α → ShiftReply) :
    ShiftReply × Shift σ :=
  if s.session.isOpen then (.transactionOpen, s)
  else
    match act ⟨s.session.desk, s.provider⟩ with
    | .ok a behind => (reply (.ok a), ⟨{ s.session with desk := behind.desk }, behind.provider⟩)
    | .error e behind =>
        (reply (.error e), ⟨{ s.session with desk := behind.desk }, behind.provider⟩)

def step (provider : PaymentProvider σ) (s : Shift σ) : ShiftStep σ → ShiftReply × Shift σ
  | .register task =>
      let (result, session) := s.session.run (.store .closed) task.act
      (.registered task result, { s with session })
  | .book step =>
      let (reply, session) := s.session.book step
      (.booked reply, { s with session })
  | .start settings now order => s.atCounter (Checkout.start settings provider now order) .started
  | .finish settings now sessionId =>
      s.atCounter (Checkout.finish settings provider now sessionId) .finished
  | .settle settings now saleId paymentId =>
      s.atCounter (Counter.atDesk (Checkout.settle settings now saleId paymentId) id) .settled
  | .answer settings now request =>
      s.atCounter (Site.answer settings provider now request) .answered
  | .elsewhere change => (.nothing, { s with provider := change s.provider })

/-- Forgets the numbers that were looked up. -/
def forget (s : Shift σ) : Shift σ :=
  { s with session := { s.session with desk := { s.session.desk with fieldIds := [] } } }

/-- Takes a step; the numbers that were looked up may be forgotten first. -/
def stepAnew (provider : PaymentProvider σ) (s : Shift σ) (step : Bool × ShiftStep σ) :
    ShiftReply × Shift σ := (if step.1 then s.forget else s).step provider step.2

end Shift

/-- Sessions that differ in what was looked up. An open transaction began at a store with the same
fields. -/
structure Session.Twin (base : Store) (s t : Session) : Prop where
  desk : s.desk.Twin base t.desk
  saved : t.saved = s.saved
  before : ∀ old ∈ s.saved, base.SameFields old

namespace Session.Twin

variable {ε α : Type} {s t : Session}

theorem isOpen (h : s.Twin base t) : t.isOpen = s.isOpen := by
  unfold Session.isOpen
  rw [h.saved]

theorem withDesk (h : s.Twin base t) {d d' : Desk} (twin : d.Twin base d') :
    Session.Twin base { s with desk := d } { t with desk := d' } := ⟨twin, h.saved, h.before⟩

theorem run (h : s.Twin base t) {act : Action ε α} (respects : Respects (Desk.Twin base) act)
    (onClosed : ε) : (s.run onClosed act).1 = (t.run onClosed act).1 ∧
      (s.run onClosed act).2.Twin base (t.run onClosed act).2 := by
  have whole : Respects (Desk.Twin base) (if s.isOpen then act else act.transaction onClosed) := by
    split
    next => exact respects
    next => exact respects.transaction onClosed
  obtain ⟨result, d, d', twin, left, right⟩ := Session.run_respects h.saved h.desk whole
  rw [left, right]
  exact ⟨result, h.withDesk twin⟩

theorem runOn (h : s.Twin base t) {act : Action SaleError Sale}
    (respects : Respects (Desk.Twin base) act) (sale : Sale) :
    (s.runOn sale act).1 = (t.runOn sale act).1 ∧
      (s.runOn sale act).2.Twin base (t.runOn sale act).2 := by
  obtain ⟨result, twin⟩ := h.run respects (.store .closed)
  rw [Session.runOn_snd, Session.runOn_snd]
  exact ⟨Session.runOn_congr result, twin⟩

theorem openTransaction (h : s.Twin base t) :
    (s.book .openTransaction).1 = (t.book .openTransaction).1 ∧
      (s.book .openTransaction).2.Twin base (t.book .openTransaction).2 := by
  simp only [Session.book, Session.openTransaction]
  rw [h.isOpen, if_pos h.desk.left.connected, if_pos h.desk.right.connected]
  split
  next => exact ⟨rfl, h⟩
  next =>
    refine ⟨rfl, h.desk, congrArg some h.desk.store, ?_⟩
    rintro old ⟨⟩
    exact h.desk.fixed

theorem commit (h : s.Twin base t) : (s.book .commit).1 = (t.book .commit).1 ∧
    (s.book .commit).2.Twin base (t.book .commit).2 := by
  simp only [Session.book, Session.commit]
  rw [h.isOpen]
  split
  next =>
    refine ⟨rfl, h.desk, rfl, ?_⟩
    rintro old ⟨⟩
  next => exact ⟨rfl, h⟩

theorem rollback (h : s.Twin base t) : (s.book .rollback).1 = (t.book .rollback).1 ∧
    (s.book .rollback).2.Twin base (t.book .rollback).2 := by
  obtain ⟨desk, _⟩ := s
  obtain ⟨desk', saved⟩ := t
  obtain ⟨twin, rfl, before⟩ := h
  cases saved with
  | none => exact ⟨rfl, twin, rfl, before⟩
  | some old => exact ⟨rfl, twin.withStore (before old rfl), rfl, nofun⟩

theorem book (h : s.Twin base t) (step : BookStep) : (s.book step).1 = (t.book step).1 ∧
    (s.book step).2.Twin base (t.book step).2 := by
  cases step with
  | openTransaction => exact h.openTransaction
  | commit => exact h.commit
  | rollback => exact h.rollback
  | add sale => exact h.runOn (SaleBook.add_respects sale) sale
  | replace sale => exact h.runOn ((SaleBook.replace_respects sale).map _) sale
  | remove sale => exact h.runOn (SaleBook.remove_respects sale) sale
  | find saleId =>
      obtain ⟨result, twin⟩ := h.run (SaleBook.find_respects saleId) (.store .closed)
      exact ⟨congrArg BookReply.found result, twin⟩

end Session.Twin

/-- Shifts that differ in what was looked up. -/
structure Shift.Twin {σ : Type} (base : Store) (s t : Shift σ) : Prop where
  session : s.session.Twin base t.session
  provider : t.provider = s.provider

namespace Shift.Twin

variable {σ ε α : Type} {s t : Shift σ}

theorem forget (h : s.Twin base t) : s.forget.Twin base t :=
  ⟨⟨h.session.desk.forgetful, h.session.saved, h.session.before⟩, h.provider⟩

theorem atCounter (h : s.Twin base t) {act : EStateM ε (Counter σ) α}
    (respects : Respects (Counter.Twin base) act) (reply : Except ε α → ShiftReply) :
    (s.atCounter act reply).1 = (t.atCounter act reply).1 ∧
      (s.atCounter act reply).2.Twin base (t.atCounter act reply).2 := by
  have ends := respects ⟨s.session.desk, s.provider⟩ ⟨t.session.desk, t.provider⟩
    ⟨h.session.desk, h.provider⟩
  unfold Shift.atCounter
  rw [h.session.isOpen]
  split
  next => exact ⟨rfl, h⟩
  next =>
    generalize act ⟨s.session.desk, s.provider⟩ = r at ends
    generalize act ⟨t.session.desk, t.provider⟩ = r' at ends
    cases ends with
    | ok a related => exact ⟨rfl, h.session.withDesk related.desk, related.provider⟩
    | error e related => exact ⟨rfl, h.session.withDesk related.desk, related.provider⟩

theorem step (h : s.Twin base t) (provider : PaymentProvider σ) (step : ShiftStep σ) :
    (s.step provider step).1 = (t.step provider step).1 ∧
      (s.step provider step).2.Twin base (t.step provider step).2 := by
  cases step with
  | register task =>
      obtain ⟨result, twin⟩ := h.session.run task.respects (.store .closed)
      exact ⟨congrArg (ShiftReply.registered task) result, twin, h.provider⟩
  | book step =>
      obtain ⟨reply, twin⟩ := h.session.book step
      exact ⟨congrArg ShiftReply.booked reply, twin, h.provider⟩
  | start settings now order => exact h.atCounter (Checkout.start_respects _ _ _ _) _
  | finish settings now sessionId => exact h.atCounter (Checkout.finish_respects _ _ _ _) _
  | settle settings now saleId paymentId =>
      exact h.atCounter (Checkout.atDesk_respects (Checkout.settle_respects _ _ _ _) _) _
  | answer settings now request => exact h.atCounter (Site.answer_respects _ _ _ _) _
  | elsewhere change => exact ⟨rfl, h.session, congrArg change h.provider⟩

/-- A run in which numbers are forgotten comes to the same as one in which they are not. -/
theorem runs (h : s.Twin base t) (provider : PaymentProvider σ)
    (steps : List (Bool × ShiftStep σ)) :
    (Dues.runs (Shift.stepAnew provider) s steps).1 =
        (Dues.runs (Shift.step provider) t (steps.map Prod.snd)).1 ∧
      (Dues.runs (Shift.stepAnew provider) s steps).2.Twin base
        (Dues.runs (Shift.step provider) t (steps.map Prod.snd)).2 := by
  refine runs_related (fun s t first twin => ?_) h steps
  have begun : (if first.1 then s.forget else s).Twin base t := by
    split
    next => exact twin.forget
    next => exact twin
  exact begun.step provider first.2

end Shift.Twin

/-- From any store on, forgetting what was looked up, at any points of a run, changes no reply, no
table, no open transaction and nothing at the payment provider. Whatever was looked up, in a
transaction that was kept or undone or by an action that failed, is what the store has. -/
theorem Shift.forgetting_changes_nothing {σ : Type} (provider : PaymentProvider σ) (store : Store)
    (accounts : σ) (steps : List (Bool × ShiftStep σ)) :
    let begun : Shift σ := ⟨Desk.session { store }, accounts⟩
    let anew := runs (stepAnew provider) begun steps
    let plain := runs (step provider) begun (steps.map Prod.snd)
    anew.1 = plain.1 ∧
      (anew.2.session.desk.store = plain.2.session.desk.store ∧
        anew.2.session.saved = plain.2.session.saved ∧ anew.2.provider = plain.2.provider) ∧
      (∀ f ∈ anew.2.session.desk.fieldIds,
        anew.2.session.desk.store.fieldId? f.1 = .ok (some f.2)) ∧
      ∀ f ∈ plain.2.session.desk.fieldIds,
        plain.2.session.desk.store.fieldId? f.1 = .ok (some f.2) := by
  intro begun anew plain
  have fresh := Desk.coherent_of_store store
  have start : begun.Twin store begun :=
    ⟨⟨⟨fresh, fresh, rfl, .refl store⟩, rfl, nofun⟩, rfl⟩
  obtain ⟨replies, last⟩ := start.runs provider steps
  exact ⟨replies,
    ⟨last.session.desk.store.symm, last.session.saved.symm, last.provider.symm⟩,
    last.session.desk.left.known, last.session.desk.right.known⟩

end Dues
