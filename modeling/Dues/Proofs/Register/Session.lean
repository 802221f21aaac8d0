import Dues.Proofs.Register.Action
import Dues.Register.Session

/-! # Actions in a session

What an action does is kept whether or not a transaction is open. Of an action that failed, only an
open transaction keeps what was done until then. A run of steps is described step by step: what is
true of each of them from every state that can be met is true of the run.
-/

namespace Dues

section Runs

variable {σ τ ι κ ω : Type}

/-- Takes one step after the other. There is what came of each, and the state in the end. -/
def runs (step : σ → ι → ω × σ) (s : σ) : List ι → List ω × σ
  | [] => ([], s)
  | i :: rest =>
      let (reply, next) := step s i
      let (replies, last) := runs step next rest
      (reply :: replies, last)

variable {step : σ → ι → ω × σ} {step' : τ → ι → ω × τ}

@[simp] theorem runs_nil (s : σ) : runs step s [] = ([], s) := rfl

@[simp] theorem runs_cons (s : σ) (i : ι) (rest : List ι) :
    runs step s (i :: rest) =
      ((step s i).1 :: (runs step (step s i).2 rest).1, (runs step (step s i).2 rest).2) := rfl

theorem runs_append (s : σ) (first rest : List ι) :
    (runs step s (first ++ rest)).2 = (runs step (runs step s first).2 rest).2 := by
  induction first generalizing s with
  | nil => rfl
  | cons i first ih => simp [ih]

theorem runs_preserve {Kept : σ → Prop} (one : ∀ s i, Kept s → Kept (step s i).2) {s : σ}
    (start : Kept s) (steps : List ι) : Kept (runs step s steps).2 := by
  induction steps generalizing s with
  | nil => exact start
  | cons i rest ih => exact ih (one s i start)

/-- If related states come to the same at every step, and to related states again, then so they do
in every run. The second run may take the steps as `f` has them. -/
theorem runs_related {R : σ → τ → Prop} {f : ι → κ} {step' : τ → κ → ω × τ}
    (one : ∀ s t i, R s t →
      (step s i).1 = (step' t (f i)).1 ∧ R (step s i).2 (step' t (f i)).2)
    {s : σ} {t : τ} (start : R s t) (steps : List ι) :
    (runs step s steps).1 = (runs step' t (steps.map f)).1 ∧
      R (runs step s steps).2 (runs step' t (steps.map f)).2 := by
  induction steps generalizing s t with
  | nil => exact ⟨rfl, start⟩
  | cons i rest ih =>
      obtain ⟨reply, next⟩ := one s t i start
      obtain ⟨replies, last⟩ := ih next
      simp only [List.map_cons, runs_cons]
      exact ⟨by rw [reply, replies], last⟩

/-- If every step comes to the same in a second system that sees the state as `view` shows it, then
so does every run. -/
theorem runs_refine {Kept : σ → Prop} {view : σ → τ} (keeps : ∀ s i, Kept s → Kept (step s i).2)
    (one : ∀ s i, Kept s →
      (step s i).1 = (step' (view s) i).1 ∧ view (step s i).2 = (step' (view s) i).2)
    {s : σ} (start : Kept s) (steps : List ι) :
    (runs step s steps).1 = (runs step' (view s) steps).1 ∧
      view (runs step s steps).2 = (runs step' (view s) steps).2 := by
  have both : ∀ s t i, Kept s ∧ view s = t → (step s i).1 = (step' t (id i)).1 ∧
      Kept (step s i).2 ∧ view (step s i).2 = (step' t (id i)).2 := by
    rintro s _ i ⟨kept, rfl⟩
    obtain ⟨reply, next⟩ := one s i kept
    exact ⟨reply, keeps s i kept, next⟩
  have related := runs_related (R := fun s t => Kept s ∧ view s = t) both ⟨start, rfl⟩ steps
  rw [List.map_id] at related
  exact ⟨related.1, related.2.2⟩

end Runs

namespace Session

variable {ε α : Type} {s : Session} {onClosed : ε} {act : Action ε α} {d : Desk}

theorem run_of_ok (connected : s.desk.connected = true) {a : α} (h : act s.desk = .ok a d) :
    s.run onClosed act = (.ok a, { s with desk := d }) := by
  unfold run
  cases s.isOpen with
  | true => simp [h]
  | false => simp [Action.transaction_ok.mpr ⟨connected, h⟩]

theorem run_of_error (connected : s.desk.connected = true) {e : ε} (h : act s.desk = .error e d) :
    s.run onClosed act =
      (.error e, { s with desk := if s.isOpen then d else { d with store := s.desk.store } }) := by
  unfold run
  cases s.isOpen with
  | true => simp [h]
  | false => simp [Action.transaction, connected, h]

theorem run_of_refusal (connected : s.desk.connected = true) {e : ε}
    (h : act s.desk = .error e s.desk) : s.run onClosed act = (.error e, s) := by
  rw [run_of_error connected h, ite_self]

end Session

end Dues
