import Dues.Proofs.Purchase.Finality
import Dues.Proofs.Purchase.Likeness

/-! # Settlements at the same time

Settling a sale takes two transactions: its persons are provided for, and then notes are made about
the household. Where several sales are settled at the same time, the transactions of others may come
between the two. That does not show: nobody is provided for by what the notes are about, so at every
moment it looks as if each sale had been settled as a whole where its persons were provided for.
-/

namespace Dues

open Dues.Action (Blind)
open Dues.Time (Instant)

/-- A sale is to be settled. -/
structure Settlement where
  settings : Settings
  now : Instant
  saleId : Int
  paymentId : String

/-- How far a settlement has come. -/
inductive Stage where
  | refused (e : StepError)
  | complete (sale : Sale)
  /-- The persons are provided for, and the notes are still to be made. -/
  | provided (sale : Sale)
  /-- The notes were made, or it came to a fault. -/
  | noted (sale : Sale) (fault? : Option Fault)

def Stage.ofOutcome : Outcome → Stage
  | .fulfilled sale => .provided sale
  | .alreadyComplete sale => .complete sale

/-- A settlement that has had its first transaction. -/
structure Turn where
  call : Settlement
  stage : Stage

/-- A desk, and the settlements in the order of their first transactions. -/
structure Office where
  desk : Desk
  turns : List Turn := []

/-- A transaction of a settlement. -/
inductive Move where
  | provides (call : Settlement)
  /-- The settlement at place `k` makes its notes. -/
  | notes (k : Nat)

namespace Settlement

def visit (call : Settlement) : Visit :=
  .settles call.settings call.now call.saleId call.paymentId

def provide (call : Settlement) : Action StepError Outcome :=
  (Fulfilment.fulfil call.saleId call.paymentId call.now call.settings.otherMemberTypes).transaction
    ⟨"transaction", call.saleId, .store .closed⟩

end Settlement

def Office.move (o : Office) : Move → Office
  | .provides call =>
      match call.provide o.desk with
      | .ok outcome desk => ⟨desk, o.turns ++ [⟨call, .ofOutcome outcome⟩]⟩
      | .error e desk => ⟨desk, o.turns ++ [⟨call, .refused e⟩]⟩
  | .notes k =>
      match o.turns[k]? with
      | some ⟨call, .provided sale⟩ =>
          let kept := Household.keep call.settings sale call.now o.desk
          ⟨Action.deskOf kept, o.turns.set k ⟨call, .noted sale (Action.error? kept)⟩⟩
      | _ => o

def Office.after (o : Office) (moves : List Move) : Office := moves.foldl move o

/-- The answer about a fulfilled sale once the notes have come to an end. -/
def Answer.ofNotes (sale : Sale) : Option Fault → Answer
  | none => .settled (.fulfilled sale)
  | some fault => .unsettled (.fault fault)

namespace Turn

def visit (turn : Turn) : Visit := turn.call.visit

/-- The sale that the first transaction has fulfilled. -/
def fulfilled? (turn : Turn) : Option Sale :=
  match turn.stage with
  | .refused _ => none
  | .complete _ => none
  | .provided sale => some sale
  | .noted sale _ => some sale

/-- The answer to a settlement, none as long as notes are to be made. -/
def answer? (turn : Turn) : Option Answer :=
  match turn.stage with
  | .refused e => some (.unsettled (.failure e))
  | .complete sale => some (.settled (.alreadyComplete sale))
  | .provided _ => none
  | .noted sale fault? => some (.ofNotes sale fault?)

/-- The answer that there is going to be. -/
def due (turn : Turn) : Answer :=
  match turn.stage with
  | .refused e => .unsettled (.failure e)
  | .complete sale => .settled (.alreadyComplete sale)
  | .provided sale => .ofNotes sale (Household.fault? sale turn.call.now)
  | .noted sale fault? => .ofNotes sale fault?

theorem due_of_answer? {turn : Turn} {answer : Answer} (told : turn.answer? = some answer) :
    turn.due = answer := by
  obtain ⟨call, stage⟩ := turn
  cases stage with
  | refused e => exact Option.some.inj told
  | complete sale => exact Option.some.inj told
  | provided sale => cases told
  | noted sale fault? => exact Option.some.inj told

theorem answer?_of_due {turn : Turn} {sale : Sale}
    (due : turn.due = .settled (.alreadyComplete sale)) :
    turn.answer? = some (.settled (.alreadyComplete sale)) := by
  obtain ⟨call, stage⟩ := turn
  have other : ∀ sale' fault?, Answer.ofNotes sale' fault? ≠ .settled (.alreadyComplete sale) := by
    intro sale' fault?
    cases fault? <;> exact fun h => nomatch h
  cases stage with
  | refused e => exact congrArg some due
  | complete sale => exact congrArg some due
  | provided sale' => exact absurd due (other sale' _)
  | noted sale' fault? => exact absurd due (other sale' fault?)

end Turn

namespace Settlement

variable {d mid : Desk} {call : Settlement}

theorem provide_blind (call : Settlement) : Blind call.provide :=
  .transaction (Fulfilment.fulfil_touches _ _ _ _) (Fulfilment.fulfil_blind _ _ _ _) _

/-- A settlement that nothing comes between leaves a desk that looks as it did after the first
transaction. -/
theorem serve_of_provided {outcome : Outcome} (h : d.Coherent)
    (provided : call.provide d = .ok outcome mid) :
    mid.Alike (call.visit.serve d).2 ∧
      (call.visit.serve d).1 = Turn.due ⟨call, .ofOutcome outcome⟩ ∧
      call.visit.completes d = Turn.fulfilled? ⟨call, .ofOutcome outcome⟩ := by
  have fulfil := (Action.transaction_ok.mp provided).2
  have behind := h.of_frame ((Fulfilment.fulfil_touches _ _ _ _).of_ok fulfil)
  dsimp only [visit, Visit.serve, Visit.completes, Visit.saleId?, Visit.paymentId, Visit.now,
    Visit.settings]
  rw [fulfil]
  cases outcome with
  | alreadyComplete sale =>
      obtain ⟨found, complete, rfl⟩ := Fulfilment.fulfil_alreadyComplete.mp fulfil
      rw [Checkout.settle_complete found complete]
      exact ⟨.refl h, rfl, rfl⟩
  | fulfilled sale =>
      have alike := Household.keep_alike call.settings sale call.now behind
      have ends := Household.keep_ends call.settings sale call.now behind.connected
      have settled := Checkout.settle_settled call.settings call.now call.saleId call.paymentId d
      generalize Checkout.settle call.settings call.now call.saleId call.paymentId d = r at settled
      cases settled with
      | refused e d' frame unfulfilled => exact absurd fulfil (unfulfilled sale mid)
      | complete sale' found status =>
          cases fulfil.symm.trans (Fulfilment.fulfil_alreadyComplete.mpr ⟨found, status, rfl⟩)
      | fulfilled sale' mid' d' fulfil' frame kept =>
          cases fulfil'.symm.trans fulfil
          rw [kept] at alike ends
          exact ⟨alike, congrArg (Answer.ofNotes sale) ends, rfl⟩
      | interrupted sale' mid' d' fulfil' frame fault faulted =>
          cases fulfil'.symm.trans fulfil
          rw [faulted] at alike ends
          exact ⟨alike, congrArg (Answer.ofNotes sale) ends, rfl⟩

theorem serve_of_refused {e : StepError} (h : d.Coherent)
    (refused : call.provide d = .error e mid) :
    mid.Alike (call.visit.serve d).2 ∧
      (call.visit.serve d).1 = Turn.due ⟨call, .refused e⟩ ∧
      call.visit.completes d = Turn.fulfilled? ⟨call, .refused e⟩ := by
  have behind := h.of_frame (Action.transaction_error (Fulfilment.fulfil_touches _ _ _ _) refused)
  have settle : Checkout.settle call.settings call.now call.saleId call.paymentId d =
      .error (.failure e) mid := Action.bind_of_error (Action.orFail_of_error refused)
  have completes : call.visit.completes d = none := by
    have settles : call.visit.saleId? = some call.saleId := rfl
    refine Visit.completes_eq_none settles fun sale other fulfil => ?_
    have connected := Fulfilment.fulfil_connected fulfil
    cases refused.symm.trans (Action.transaction_ok.mpr ⟨connected, fulfil⟩)
  rw [completes]
  dsimp only [visit, Visit.serve]
  rw [settle]
  exact ⟨.refl behind, rfl, rfl⟩

end Settlement

/-- What comes of visits, one after the other: what each of them is told, and the sale that it
completes. -/
def Desk.log (d : Desk) : List Visit → List (Answer × Option Sale)
  | [] => []
  | v :: visits => ((v.serve d).1, v.completes d) :: log (v.serve d).2 visits

namespace Desk

theorem log_append (d : Desk) (visits later : List Visit) :
    d.log (visits ++ later) = d.log visits ++ (d.after visits).log later := by
  induction visits generalizing d with
  | nil => rfl
  | cons v visits ih => exact congrArg _ (ih (v.serve d).2)

theorem length_log (d : Desk) (visits : List Visit) : (d.log visits).length = visits.length := by
  induction visits generalizing d with
  | nil => rfl
  | cons v visits ih => exact congrArg _ (ih (v.serve d).2)

theorem answers_eq_log (d : Desk) (visits : List Visit) :
    d.answers visits = (d.log visits).map Prod.fst := by
  induction visits generalizing d with
  | nil => rfl
  | cons v visits ih => exact congrArg _ (ih (v.serve d).2)

theorem Coherent.after {d : Desk} (h : d.Coherent) (visits : List Visit) :
    (d.after visits).Coherent := h.of_frame (d.after_frame visits)

end Desk

/-- What there is going to be in the log about a settlement. -/
def Turn.entry (turn : Turn) : Answer × Option Sale := (turn.due, turn.fulfilled?)

namespace Office

variable {d : Desk} {o : Office}

theorem map_set {α : Type*} {f : Turn → α} {k : Nat} {turn turn' : Turn}
    (there : o.turns[k]? = some turn) (same : f turn' = f turn) :
    (o.turns.set k turn').map f = o.turns.map f := by
  obtain ⟨bound, rfl⟩ := List.getElem?_eq_some_iff.mp there
  rw [List.map_set, same, ← List.getElem_map f (h := by rwa [List.length_map])]
  exact List.set_getElem_self _

/-- An office at whose desk it looks as if each settlement had been served as a whole at its first
transaction, and is going to be answered so. -/
structure InOrder (d : Desk) (o : Office) : Prop where
  desk : (d.after (o.turns.map Turn.visit)).Alike o.desk
  log : d.log (o.turns.map Turn.visit) = o.turns.map Turn.entry

namespace InOrder

theorem idle (h : d.Coherent) : InOrder d ⟨d, []⟩ := ⟨.refl h, rfl⟩

theorem append (h : o.InOrder d) {turn : Turn} {desk : Desk}
    (alike : (turn.visit.serve (d.after (o.turns.map Turn.visit))).2.Alike desk)
    (told : (turn.visit.serve (d.after (o.turns.map Turn.visit))).1 = turn.due)
    (completes : turn.visit.completes (d.after (o.turns.map Turn.visit)) = turn.fulfilled?) :
    InOrder d ⟨desk, o.turns ++ [turn]⟩ := by
  constructor
  · dsimp only
    rw [List.map_append, Desk.after_append]
    exact alike
  · dsimp only
    rw [List.map_append, Desk.log_append, h.log, List.map_append]
    change _ ++ [((turn.visit.serve _).1, turn.visit.completes _)] = _
    rw [told, completes]
    rfl

theorem set (h : o.InOrder d) {k : Nat} {turn turn' : Turn} {desk : Desk}
    (there : o.turns[k]? = some turn) (alike : o.desk.Alike desk) (call : turn'.call = turn.call)
    (entry : turn'.entry = turn.entry) : InOrder d ⟨desk, o.turns.set k turn'⟩ := by
  have visits : (o.turns.set k turn').map Turn.visit = o.turns.map Turn.visit :=
    map_set there (congrArg Settlement.visit call)
  constructor
  · dsimp only
    rw [visits]
    exact h.desk.trans alike
  · dsimp only
    rw [visits, h.log]
    exact (map_set there entry).symm

theorem move (h : o.InOrder d) (m : Move) : (o.move m).InOrder d := by
  cases m with
  | provides call =>
      have agree := call.provide_blind _ _ h.desk
      dsimp only [Office.move]
      generalize first : call.provide (d.after (o.turns.map Turn.visit)) = r at agree
      generalize call.provide o.desk = r' at agree
      cases agree with
      | ok outcome alike =>
          obtain ⟨behind, told, completes⟩ := call.serve_of_provided h.desk.left first
          exact h.append (behind.symm.trans alike) told completes
      | error e alike =>
          obtain ⟨behind, told, completes⟩ := call.serve_of_refused h.desk.left first
          exact h.append (behind.symm.trans alike) told completes
  | notes k =>
      dsimp only [Office.move]
      split
      next call sale there =>
        have alike := Household.keep_alike call.settings sale call.now h.desk.right
        have ends := Household.keep_ends call.settings sale call.now h.desk.right.connected
        refine h.set there alike rfl ?_
        exact congrArg (fun fault? => (Answer.ofNotes sale fault?, some sale)) ends
      next => exact h

theorem after (h : o.InOrder d) (moves : List Move) : (o.after moves).InOrder d := by
  induction moves generalizing o with
  | nil => exact h
  | cons m moves ih => exact ih (h.move m)

theorem answers (h : o.InOrder d) : d.answers (o.turns.map Turn.visit) = o.turns.map Turn.due := by
  rw [Desk.answers_eq_log, h.log, List.map_map]
  rfl

/-- What comes of a settlement is what comes of it after those that provided before it. -/
theorem entry (h : o.InOrder d) {before behind : List Turn} {turn : Turn}
    (turns : o.turns = before ++ turn :: behind) :
    turn.entry = ((turn.visit.serve (d.after (before.map Turn.visit))).1,
      turn.visit.completes (d.after (before.map Turn.visit))) := by
  have log := h.log
  rw [turns, List.map_append, List.map_append, Desk.log_append] at log
  have length : (d.log (before.map Turn.visit)).length =
      (before.map Turn.entry).length := by
    rw [Desk.length_log, List.length_map, List.length_map]
  obtain ⟨_, rest⟩ := List.append_inj log length
  exact (List.cons.inj rest).1.symm

/-- Nobody has been told anything else than if the settlements had been served one after the other. -/
theorem told (h : o.InOrder d) :
    List.Forall₂ (fun turn answer => ∀ told, Turn.answer? turn = some told → told = answer)
      o.turns (d.answers (o.turns.map Turn.visit)) := by
  rw [h.answers, List.forall₂_map_right_iff]
  exact List.forall₂_same.mpr fun turn _ told answered => (Turn.due_of_answer? answered).symm

theorem countP_told_le_one (h : o.InOrder d) (saleId : Int) :
    (o.turns.filterMap Turn.answer?).countP (Answer.fulfils saleId) ≤ 1 := by
  calc (o.turns.filterMap Turn.answer?).countP (Answer.fulfils saleId)
      ≤ (o.turns.map Turn.due).countP (Answer.fulfils saleId) := by
        rw [List.countP_filterMap, List.countP_map]
        refine List.countP_mono_left fun turn _ fulfils => ?_
        cases answered : turn.answer? with
        | none =>
            rw [answered] at fulfils
            cases fulfils
        | some told =>
            rw [answered] at fulfils
            rw [Function.comp_apply, Turn.due_of_answer? answered]
            exact fulfils
    _ ≤ 1 := by
        rw [← h.answers]
        exact Desk.countP_answers_le_one d _

end InOrder

end Office

end Dues
