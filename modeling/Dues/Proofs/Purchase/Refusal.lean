import Dues.Proofs.Purchase.Transparency
import Dues.Proofs.Register.Lookup

/-! # Calls that fail

In an open transaction nothing undoes a call that failed. Nothing has to: all that can fail comes
before the one write of a call, or is that the write hit no row, and then it changed none. What such
a call may leave behind is a number that it looked up, and no later call can tell.
-/

namespace Dues

open Dues.Action (deskOf Keeps)
open Dues.Register
open Store (Table)

namespace Action

variable {ε ε' α β : Type} {act : Action ε α}

/-- Whatever comes of the action, nobody can tell the desk behind it from the one before. -/
def Quiet (act : Action ε α) : Prop := ∀ d : Desk, Keeps d.Equivalent act

/-- If the action fails, it might as well not have been tried. -/
def Atomic (act : Action ε α) : Prop := ∀ d e d', act d = .error e d' → d.Equivalent d'

namespace Quiet

theorem pure (a : α) : Quiet (Pure.pure a : Action ε α) := fun _ => .pure a

theorem throw (e : ε) : Quiet (MonadExcept.throw e : Action ε α) := fun _ => .throw e

theorem bind {next : α → Action ε β} (h : Quiet act) (hnext : ∀ a, Quiet (next a)) :
    Quiet (act >>= next) := fun d => (h d).bind fun a => hnext a d

theorem orFail (h : Quiet act) (f : ε → ε') : Quiet (act.orFail f) := fun d => (h d).orFail f

theorem read (f : Store → Except StoreError α) : Quiet (Action.read f) := by
  intro d mid same
  rcases Action.read_cases f mid with ⟨a, _, run⟩ | ⟨e, run, _⟩ <;> rw [run] <;> exact same

theorem fieldNumber (name : String) : Quiet (Register.fieldNumber name) := by
  intro d mid same
  rcases fieldNumber_number name mid with ⟨e, _, run⟩ | ⟨id, behind, _, run, looked⟩
  · rw [run]
    exact same
  · rw [run]
    exact same.trans looked

theorem atomic (h : Quiet act) : Atomic act := fun d _ _ failed => (h d).of_error failed (.refl d)

/-- What goes before a write may fail, as long as it is quiet. -/
theorem bind_atomic {next : α → Action ε β} (h : Quiet act) (hnext : ∀ a, Atomic (next a)) :
    Atomic (act >>= next) := by
  intro d e d' failed
  cases ran : act d with
  | ok a mid =>
      rw [Action.bind_of_ok ran] at failed
      exact ((h d).of_ok ran (.refl d)).trans (hnext a mid e d' failed)
  | error e mid =>
      rw [Action.bind_of_error ran] at failed
      cases failed
      exact (h d).of_error ran (.refl d)

end Quiet

namespace Atomic

theorem write (f : Store → Except StoreError (α × Store)) : Atomic (Action.write f) := by
  intro d e d' failed
  rcases Action.write_cases f d with ⟨a, s', _, run⟩ | ⟨e, run⟩
  · cases run.symm.trans failed
  · cases run.symm.trans failed
    exact .refl d

theorem orFail (h : Atomic act) (f : ε → ε') : Atomic (act.orFail f) := by
  intro d e d' failed
  cases ran : act d with
  | ok a mid => cases (Action.orFail_ok.mpr ran).symm.trans failed
  | error e mid =>
      cases (Action.orFail_of_error ran).symm.trans failed
      exact h d _ _ ran

theorem map (h : Atomic act) (f : α → β) : Atomic (f <$> act) := by
  intro d e d' failed
  cases ran : act d with
  | ok a mid =>
      have done : (f <$> act) d = .ok (f a) mid := Action.bind_of_ok ran
      cases done.symm.trans failed
  | error e mid =>
      have ends : (f <$> act) d = .error e mid := Action.bind_of_error ran
      cases ends.symm.trans failed
      exact h d _ _ ran

/-- A write that hits one row, or none, and which fails where it was none. -/
theorem counted {f : Store → Except StoreError (Nat × Store)} {g : StoreError → ε}
    {next : Nat → Action ε α} (one : ∀ s n s', f s = .ok (n, s') → n = 1 ∨ s' = s)
    (single : ∀ d, ∃ a, next 1 d = .ok a d) (quiet : ∀ n, Quiet (next n)) :
    Atomic ((Action.write f).orFail g >>= next) := by
  intro d e d' failed
  rcases Action.write_cases f d with ⟨n, s', wrote, run⟩ | ⟨_, run⟩
  · rw [Action.bind_of_ok (Action.orFail_ok.mpr run)] at failed
    rcases one d.store n s' wrote with rfl | rfl
    -- one row was hit, so nothing failed
    · obtain ⟨a, done⟩ := single { d with store := s' }
      cases done.symm.trans failed
    · exact (quiet n d).of_error failed (.refl d)
  · rw [Action.bind_of_error (Action.orFail_of_error run)] at failed
    cases failed
    exact .refl d

end Atomic

end Action

open Dues.Action (Quiet Atomic)

/-! ## The register -/

namespace Register

theorem accountsNamed_quiet (loginName : String) : Quiet (accountsNamed loginName) :=
  (Quiet.read _).orFail _

theorem roleNumber_quiet (name : String) : Quiet (roleNumber name) := by
  refine ((Quiet.read _).orFail _).bind fun found => ?_
  cases found with
  | none => exact .throw _
  | some id => exact .pure id

theorem findMember_quiet (firstName lastName email : String) :
    Quiet (findMember firstName lastName email) :=
  (Quiet.fieldNumber _).bind fun _ => (Quiet.fieldNumber _).bind fun _ => (Quiet.read _).orFail _

theorem membership_quiet (userId : Int) : Quiet (membership userId) := by
  have looked : Quiet (membership? userId) :=
    (roleNumber_quiet _).bind fun _ => (Quiet.read _).orFail _
  refine looked.bind fun found => ?_
  cases found with
  | none => exact .throw _
  | some m => exact .pure m

theorem value?_quiet {t : ValueType} (field : ProfileField t) (userId : Int) :
    Quiet (value? field userId) := by
  refine (Quiet.fieldNumber _).bind fun fieldId => ((Quiet.read _).orFail _).bind fun found => ?_
  cases found with
  | none => exact .pure none
  | some row =>
      dsimp only
      cases t.decode row.2.text with
      | some value => exact .pure _
      | none => exact .throw _

theorem openAccount_atomic (loginName : String) : Atomic (openAccount loginName) := by
  unfold openAccount
  split
  next => exact (Quiet.throw _).atomic
  next => exact ((Atomic.write _).orFail _).map _

theorem enrol_atomic (userId : Int) (role : String) (begins ends : Time.Instant) :
    Atomic (enrol userId role begins ends) :=
  (roleNumber_quiet role).bind_atomic fun _ => ((Atomic.write _).orFail _).map _

theorem extend_atomic (userId : Int) (ends : Time.Instant) : Atomic (extend userId ends) :=
  (roleNumber_quiet _).bind_atomic fun _ => (Atomic.write _).orFail _

theorem setValue_atomic {t : ValueType} (field : ProfileField t) (userId : Int)
    (value : t.Value) : Atomic (setValue field userId value) := by
  rw [setValue_eq]
  exact (Quiet.fieldNumber _).bind_atomic fun _ => (Atomic.write _).orFail _

end Register

theorem findMatches_quiet (sale : Sale) : Quiet (findMatches sale) := by
  refine (findMember_quiet _ _ _).bind fun primary => ?_
  dsimp only
  split
  next => exact (findMember_quiet _ _ _).bind fun associate => .pure _
  next => exact (Quiet.pure _).bind fun associate => .pure _

theorem Register.Task.atomic (task : Task) : Atomic task.act := by
  cases task with
  | openAccount loginName => exact openAccount_atomic loginName
  | accountsNamed loginName => exact (accountsNamed_quiet loginName).atomic
  | findMember firstName lastName email => exact (findMember_quiet firstName lastName email).atomic
  | findMatches sale => exact (findMatches_quiet sale).atomic
  | enrol userId role begins ends => exact enrol_atomic userId role begins ends
  | membership userId => exact (membership_quiet userId).atomic
  | extend userId ends => exact extend_atomic userId ends
  | fieldNumber name => exact (Quiet.fieldNumber name).atomic
  | setValue t field userId value => exact setValue_atomic field userId value
  | value? t field userId => exact (value?_quiet field userId).atomic
  | valueOrZero t field userId => exact (value?_quiet field userId).atomic.map _
  | roleExists name => exact ((Quiet.read _).orFail _).atomic.map _
  | removeRole name => exact (Atomic.write _).orFail _
  | removeUser userId => exact (Atomic.write _).orFail _

/-! ## The book -/

namespace SaleBook

theorem expectOne_quiet (operation : String) (saleId : Int) (rows : Nat) :
    Quiet (expectOne operation saleId rows) := by
  unfold expectOne
  split
  next => exact .pure _
  next => exact .throw _

theorem updateSale_counted {s s' : Store} {sale : Sale} {n : Nat}
    (h : s.updateSale sale.id sale.record = .ok (n, s')) : n = 1 ∨ s' = s := by
  obtain ⟨_, rfl, rfl⟩ := Store.updateSale_ok.mp h
  cases entered : s.sales.find? sale.id with
  | some record => exact .inl (Table.count_id entered)
  | none => exact .inr (by rw [Table.update_of_absent entered])

theorem deleteSale_counted {s s' : Store} {saleId : Int} {n : Nat}
    (h : s.deleteSale saleId = .ok (n, s')) : n = 1 ∨ s' = s := by
  obtain ⟨_, rfl, rfl⟩ := Store.deleteSale_ok.mp h
  cases entered : s.sales.find? saleId with
  | some record => exact .inl (Table.count_id entered)
  | none => exact .inr (by rw [Table.delete_of_absent entered])

theorem add_atomic (sale : Sale) : Atomic (add sale) := ((Atomic.write _).orFail _).map _

theorem find_quiet (saleId : Int) : Quiet (find saleId) := by
  refine ((Quiet.read _).orFail _).bind fun found => ?_
  cases found with
  | none => exact .throw _
  | some sale => exact .pure sale

theorem replace_atomic (sale : Sale) : Atomic (replace sale) :=
  .counted (fun _ _ _ h => updateSale_counted h) (fun _ => ⟨(), rfl⟩) (expectOne_quiet _ _)

theorem remove_atomic (sale : Sale) : Atomic (remove sale) :=
  .counted (fun _ _ _ h => deleteSale_counted h) (fun _ => ⟨{ sale with id := 0 }, rfl⟩)
    fun rows => (expectOne_quiet _ _ rows).bind fun _ => .pure _

end SaleBook

/-! ## Calls in an open transaction -/

/-- Whether a step opens or ends a transaction. -/
def BookStep.isTurn : BookStep → Bool
  | .openTransaction | .commit | .rollback => true
  | .add _ | .find _ | .replace _ | .remove _ => false

/-- The sale that is handed over with a step. -/
def BookStep.sale? : BookStep → Option Sale
  | .add sale | .replace sale | .remove sale => some sale
  | .openTransaction | .commit | .rollback | .find _ => none

/-- What may be called for without an end of the transaction. -/
inductive DeskCall where
  | register (task : Task)
  | book (step : BookStep) (work : step.isTurn = false)

/-- The caller's sale, where one is handed over. -/
def DeskCall.sale? : DeskCall → Option Sale
  | .register _ => none
  | .book step _ => step.sale?

/-- Whether what came of a call is an error. -/
def ShiftReply.isError : ShiftReply → Bool
  | .registered _ (.error _) | .booked (.found (.error _)) | .booked (.wrote (.error _) _) => true
  | _ => false

namespace Session

variable {ε α : Type} {s t : Session} {act : Action ε α}

def answer (s : Session) : DeskCall → ShiftReply × Session
  | .register task => (s.run (.store .closed) task.act).map (.registered task) id
  | .book step _ => (s.book step).map .booked id

/-- Sessions in one open transaction whose desks cannot be told apart. -/
structure Equivalent (s t : Session) : Prop where
  opened : s.isOpen = true
  desk : s.desk.Equivalent t.desk
  saved : t.saved = s.saved

theorem run_failed (opened : s.isOpen = true) (atomic : Atomic act) (onClosed e : ε)
    (failed : (s.run onClosed act).1 = .error e) : s.Equivalent (s.run onClosed act).2 := by
  unfold run at failed ⊢
  rw [if_pos opened] at failed ⊢
  cases ran : act s.desk with
  | ok a d =>
      rw [ran] at failed
      cases failed
  | error e d => exact ⟨opened, atomic s.desk e d ran, rfl⟩

theorem runOn_failed (opened : s.isOpen = true) {act : Action SaleError Sale}
    (atomic : Atomic act) {sale : Sale}
    (failed : (ShiftReply.booked (s.runOn sale act).1).isError = true) :
    s.Equivalent (s.runOn sale act).2 ∧ ∀ given, some sale = some given →
      ∃ e, ShiftReply.booked (s.runOn sale act).1 = .booked (.wrote (.error e) given) := by
  have same := run_failed opened atomic (.store .closed)
  rw [runOn_snd]
  unfold runOn at failed ⊢
  generalize s.run (.store .closed) act = r at failed same ⊢
  obtain ⟨result, s'⟩ := r
  cases result with
  | ok sale' => cases failed
  | error e =>
      refine ⟨same e rfl, ?_⟩
      rintro _ ⟨⟩
      exact ⟨e, rfl⟩

/-- A failed call leaves an open transaction and the caller's sale as they were. -/
theorem answer_failed (opened : s.isOpen = true) (call : DeskCall)
    (failed : (s.answer call).1.isError = true) : s.Equivalent (s.answer call).2 ∧
      ∀ sale, call.sale? = some sale →
        ∃ e, (s.answer call).1 = .booked (.wrote (.error e) sale) := by
  cases call with
  | register task =>
      refine ⟨?_, fun sale none => by cases none⟩
      have reply : (s.answer (.register task)).1 =
          .registered task (s.run (.store .closed) task.act).1 := rfl
      cases result : (s.run (.store .closed) task.act).1 with
      | ok a =>
          rw [reply, result] at failed
          cases failed
      | error e => exact run_failed opened task.atomic _ e result
  | book step work =>
      cases step with
      | openTransaction => cases work
      | commit => cases work
      | rollback => cases work
      | find saleId =>
          refine ⟨?_, fun sale none => by cases none⟩
          have reply : (s.answer (.book (.find saleId) work)).1 =
              .booked (.found (s.run (.store .closed) (SaleBook.find saleId)).1) := rfl
          cases result : (s.run (.store .closed) (SaleBook.find saleId)).1 with
          | ok sale =>
              rw [reply, result] at failed
              cases failed
          | error e => exact run_failed opened (SaleBook.find_quiet saleId).atomic _ e result
      | add sale => exact runOn_failed opened (SaleBook.add_atomic sale) failed
      | replace sale => exact runOn_failed opened ((SaleBook.replace_atomic sale).map _) failed
      | remove sale => exact runOn_failed opened (SaleBook.remove_atomic sale) failed

namespace Equivalent

theorem run (h : s.Equivalent t) (respects : Respects Desk.Equivalent act) (onClosed : ε) :
    (s.run onClosed act).1 = (t.run onClosed act).1 ∧
      (s.run onClosed act).2.Equivalent (t.run onClosed act).2 := by
  have whole : Respects Desk.Equivalent (if s.isOpen then act else act.transaction onClosed) := by
    rwa [if_pos h.opened]
  obtain ⟨result, d, d', same, left, right⟩ := run_respects h.saved h.desk whole
  rw [left, right]
  exact ⟨result, h.opened, same, h.saved⟩

theorem runOn (h : s.Equivalent t) {act : Action SaleError Sale}
    (respects : Respects Desk.Equivalent act) (sale : Sale) :
    (s.runOn sale act).1 = (t.runOn sale act).1 ∧
      (s.runOn sale act).2.Equivalent (t.runOn sale act).2 := by
  obtain ⟨result, same⟩ := h.run respects (.store .closed)
  rw [runOn_snd, runOn_snd]
  exact ⟨runOn_congr result, same⟩

theorem book (h : s.Equivalent t) (step : BookStep) (work : step.isTurn = false) :
    (s.book step).1 = (t.book step).1 ∧ (s.book step).2.Equivalent (t.book step).2 := by
  cases step with
  | openTransaction => cases work
  | commit => cases work
  | rollback => cases work
  | add sale => exact h.runOn (SaleBook.add_respects sale) sale
  | replace sale => exact h.runOn ((SaleBook.replace_respects sale).map _) sale
  | remove sale => exact h.runOn (SaleBook.remove_respects sale) sale
  | find saleId =>
      obtain ⟨result, same⟩ := h.run (SaleBook.find_respects saleId) (.store .closed)
      exact ⟨congrArg BookReply.found result, same⟩

theorem answer (h : s.Equivalent t) (call : DeskCall) :
    (s.answer call).1 = (t.answer call).1 ∧ (s.answer call).2.Equivalent (t.answer call).2 := by
  cases call with
  | register task =>
      obtain ⟨result, same⟩ := h.run task.respects (.store .closed)
      exact ⟨congrArg (ShiftReply.registered task) result, same⟩
  | book step work =>
      obtain ⟨reply, same⟩ := h.book step work
      exact ⟨congrArg ShiftReply.booked reply, same⟩

theorem runs (h : s.Equivalent t) (calls : List DeskCall) :
    (Dues.runs Session.answer s calls).1 = (Dues.runs Session.answer t calls).1 ∧
      (Dues.runs Session.answer s calls).2.Equivalent (Dues.runs Session.answer t calls).2 := by
  have one : ∀ s t : Session, ∀ call, s.Equivalent t →
      (s.answer call).1 = (t.answer (id call)).1 ∧
        (s.answer call).2.Equivalent (t.answer (id call)).2 := fun _ _ call same => same.answer call
  have related := runs_related one h calls
  rwa [List.map_id] at related

end Equivalent

/-- A call that fails in an open transaction leaves every table as it was, what the transaction
would be undone to, and the caller's sale. All calls that follow in the transaction come to what
they would come to without it, and leave the same store. -/
theorem failed_call_changes_nothing (s : Session) (opened : s.isOpen = true) (call : DeskCall)
    (failed : (s.answer call).1.isError = true) :
    (s.answer call).2.desk.store = s.desk.store ∧ (s.answer call).2.saved = s.saved ∧
    (∀ sale, call.sale? = some sale → ∃ e, (s.answer call).1 = .booked (.wrote (.error e) sale)) ∧
    ∀ later : List DeskCall,
      (Dues.runs answer (s.answer call).2 later).1 = (Dues.runs answer s later).1 ∧
      (Dues.runs answer (s.answer call).2 later).2.desk.store =
        (Dues.runs answer s later).2.desk.store ∧
      (Dues.runs answer (s.answer call).2 later).2.saved = (Dues.runs answer s later).2.saved := by
  obtain ⟨same, handed⟩ := answer_failed opened call failed
  refine ⟨same.desk.store, same.saved, handed, fun later => ?_⟩
  obtain ⟨replies, last⟩ := same.runs later
  exact ⟨replies.symm, last.desk.store, last.saved⟩

/-- A transaction at a new installation. -/
def newTransaction : Session := ⟨Desk.initial, some Store.initial⟩

/-- A name for somebody who is not there. The number of the field is looked up for it. -/
def strangersName : DeskCall := .register (.setValue .text .firstName 7 "Ada")

/-- A sale that was never entered. -/
def strangeSale : Sale := { id := 5, paymentService := "sandbox", year := 2026 }

theorem failed_call_changes_nothing_for_strangers :
    (newTransaction.answer strangersName).2.desk.store = Store.initial ∧
    (newTransaction.answer strangersName).2.desk.fieldIds ≠ newTransaction.desk.fieldIds ∧
    (∃ e, (newTransaction.answer (.book (.remove strangeSale) rfl)).1 =
      .booked (.wrote (.error e) strangeSale)) ∧
    (Dues.runs answer (newTransaction.answer strangersName).2
        [.book (.remove strangeSale) rfl, strangersName]).1 =
      (Dues.runs answer newTransaction [.book (.remove strangeSale) rfl, strangersName]).1 := by
  obtain ⟨store, _, _, later⟩ :=
    failed_call_changes_nothing newTransaction rfl strangersName (by decide +kernel)
  obtain ⟨_, _, handed, _⟩ :=
    failed_call_changes_nothing newTransaction rfl (.book (.remove strangeSale) rfl)
      (by decide +kernel)
  exact ⟨store, by decide +kernel, handed strangeSale rfl, (later _).1⟩

end Session

end Dues
