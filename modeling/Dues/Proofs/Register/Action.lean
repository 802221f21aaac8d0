import Dues.Register.Desk

/-! # How actions end

An action that succeeded did every one of its parts successfully, so its end is taken apart part by
part. What it leaves behind in any case, also where it fails, is said by a frame: the connection and
the definitions stay, and so does every table that the frame does not name.
-/

namespace Dues.Action

variable {ε ε' α β : Type} {d d' : Desk}

theorem bind_of_ok {act : Action ε α} {next : α → Action ε β} {a : α} (h : act d = .ok a d') :
    (act >>= next) d = next a d' := by
  change EStateM.bind act next d = _
  rw [EStateM.bind, h]

theorem bind_of_error {act : Action ε α} {next : α → Action ε β} {e : ε}
    (h : act d = .error e d') : (act >>= next) d = .error e d' := by
  change EStateM.bind act next d = _
  rw [EStateM.bind, h]

theorem bind_ok {act : Action ε α} {next : α → Action ε β} {b : β} :
    (act >>= next) d = .ok b d' ↔ ∃ a mid, act d = .ok a mid ∧ next a mid = .ok b d' := by
  change EStateM.bind act next d = .ok b d' ↔ _
  unfold EStateM.bind
  cases act d with
  | ok a mid =>
      constructor
      · exact fun h => ⟨a, mid, rfl, h⟩
      · rintro ⟨_, _, ⟨⟩, h⟩
        exact h
  | error e mid => simp

theorem pure_ok {a b : α} : (pure a : Action ε α) d = .ok b d' ↔ a = b ∧ d = d' := by
  change EStateM.Result.ok a d = .ok b d' ↔ _
  simp

theorem throw_ok {e : ε} {a : α} : (throw e : Action ε α) d ≠ .ok a d' := by
  intro h
  cases h

theorem orFail_ok {act : Action ε α} {f : ε → ε'} {a : α} :
    (act.orFail f) d = .ok a d' ↔ act d = .ok a d' := by
  change EStateM.adaptExcept f act d = .ok a d' ↔ _
  unfold EStateM.adaptExcept
  cases act d with
  | ok b mid => simp
  | error e mid => simp

theorem orFail_of_error {act : Action ε α} {f : ε → ε'} {e : ε} (h : act d = .error e d') :
    (act.orFail f) d = .error (f e) d' := by
  change EStateM.adaptExcept f act d = _
  rw [EStateM.adaptExcept, h]

theorem read_ok {f : Store → Except StoreError α} {a : α} :
    read f d = .ok a d' ↔ d.connected = true ∧ f d.store = .ok a ∧ d' = d := by
  unfold read
  cases d.connected with
  | false => simp
  | true => cases f d.store <;> simp [eq_comm]

theorem read_cases (f : Store → Except StoreError α) (d : Desk) :
    (∃ a, f d.store = .ok a ∧ read f d = .ok a d) ∨
      ∃ e, read f d = .error e d ∧ (d.connected = true → f d.store = .error e) := by
  unfold read
  split
  next =>
    cases f d.store with
    | ok a => exact .inl ⟨a, rfl, rfl⟩
    | error e => exact .inr ⟨e, rfl, fun _ => rfl⟩
  next closed => exact .inr ⟨_, rfl, fun connected => absurd connected closed⟩

theorem write_ok {f : Store → Except StoreError (α × Store)} {a : α} :
    write f d = .ok a d' ↔
      d.connected = true ∧ ∃ store, f d.store = .ok (a, store) ∧ d' = { d with store } := by
  unfold write
  cases d.connected with
  | false => simp
  | true =>
      cases f d.store with
      | error e => simp
      | ok r =>
          obtain ⟨b, store⟩ := r
          simp only [if_true, EStateM.Result.ok.injEq, true_and, Except.ok.injEq, Prod.mk.injEq]
          constructor
          · rintro ⟨rfl, rfl⟩
            exact ⟨store, ⟨rfl, rfl⟩, rfl⟩
          · rintro ⟨_, ⟨rfl, rfl⟩, rfl⟩
            exact ⟨rfl, rfl⟩

theorem write_cases (f : Store → Except StoreError (α × Store)) (d : Desk) :
    (∃ a s', f d.store = .ok (a, s') ∧ write f d = .ok a { d with store := s' }) ∨
      ∃ e, write f d = .error e d := by
  unfold write
  split
  next =>
    cases f d.store with
    | ok r => exact .inl ⟨r.1, r.2, rfl, rfl⟩
    | error e => exact .inr ⟨e, rfl⟩
  next => exact .inr ⟨_, rfl⟩

theorem orFail_congr {act act' : Action ε α} {f : ε → ε'} (same : act d = act' d) :
    act.orFail f d = act'.orFail f d := by
  change EStateM.adaptExcept f act d = EStateM.adaptExcept f act' d
  rw [EStateM.adaptExcept, EStateM.adaptExcept, same]

theorem write_congr {f g : Store → Except StoreError (α × Store)} (same : f d.store = g d.store) :
    write f d = write g d := by
  unfold write
  rw [same]

theorem transaction_ok {onClosed : ε} {act : Action ε α} {a : α} :
    (act.transaction onClosed) d = .ok a d' ↔ d.connected = true ∧ act d = .ok a d' := by
  unfold transaction
  cases d.connected with
  | false => simp
  | true => cases act d <;> simp

end Dues.Action
