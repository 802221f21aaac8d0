import Dues.Proofs.Register.Action
import Dues.Sale.Book

/-! # What actions leave as it is

An action names the tables that it may touch. Every other table, the definitions and the connection
are the same behind it, whether it succeeded or not, and a number that it looked up is the number
that the store has. A transaction that failed touches no table at all.
-/

namespace Dues

open Store (TableName)

/-- Of all tables only `touched` may differ. No action changes roles or profile fields. -/
structure Store.Frame (touched : List TableName) (s s' : Store) : Prop where
  catalog : s'.catalog = s.catalog
  upgrades : s'.upgrades = s.upgrades
  roles : s'.roles = s.roles
  fields : s'.fields = s.fields
  users : .users ∉ touched → s'.users = s.users
  members : .members ∉ touched → s'.members = s.members
  values : .values ∉ touched → s'.values = s.values
  sales : .sales ∉ touched → s'.sales = s.sales

namespace Store.Frame

variable {ts ts' : List TableName} {s s' s'' : Store}

theorem refl (s : Store) : Frame ts s s :=
  ⟨rfl, rfl, rfl, rfl, fun _ => rfl, fun _ => rfl, fun _ => rfl, fun _ => rfl⟩

theorem trans (h : Frame ts s s') (h' : Frame ts s' s'') : Frame ts s s'' where
  catalog := h'.catalog.trans h.catalog
  upgrades := h'.upgrades.trans h.upgrades
  roles := h'.roles.trans h.roles
  fields := h'.fields.trans h.fields
  users apart := (h'.users apart).trans (h.users apart)
  members apart := (h'.members apart).trans (h.members apart)
  values apart := (h'.values apart).trans (h.values apart)
  sales apart := (h'.sales apart).trans (h.sales apart)

theorem mono (h : Frame ts s s') (sub : ts ⊆ ts') : Frame ts' s s' where
  catalog := h.catalog
  upgrades := h.upgrades
  roles := h.roles
  fields := h.fields
  users apart := h.users fun mem => apart (sub mem)
  members apart := h.members fun mem => apart (sub mem)
  values apart := h.values fun mem => apart (sub mem)
  sales apart := h.sales fun mem => apart (sub mem)

theorem eq (h : Frame [] s s') : s' = s := by
  obtain ⟨catalog, upgrades, roles, fields, users, members, values, sales⟩ := h
  have none : ∀ t : TableName, t ∉ ([] : List TableName) := fun t => List.not_mem_nil
  cases s
  cases s'
  simp only [Store.mk.injEq]
  exact ⟨catalog, upgrades, roles, users (none _), members (none _), fields, values (none _),
    sales (none _)⟩

theorem has (h : Frame ts s s') (t : TableName) : s'.has t = s.has t := by
  unfold Store.has
  rw [h.catalog]

theorem fieldId? (h : Frame ts s s') (name : String) : s'.fieldId? name = s.fieldId? name := by
  unfold Store.fieldId? Store.require
  rw [h.has, h.fields]

end Store.Frame

structure Desk.Frame (touched : List TableName) (d d' : Desk) : Prop where
  connected : d'.connected = d.connected
  store : d.store.Frame touched d'.store
  known : ∀ f ∈ d'.fieldIds, f ∈ d.fieldIds ∨ d.store.fieldId? f.1 = .ok (some f.2)

namespace Desk.Frame

variable {ts ts' : List TableName} {d d' d'' : Desk}

theorem refl (d : Desk) : Frame ts d d := ⟨rfl, .refl _, fun _ mem => .inl mem⟩

theorem trans (h : Frame ts d d') (h' : Frame ts d' d'') : Frame ts d d'' where
  connected := h'.connected.trans h.connected
  store := h.store.trans h'.store
  known f mem := by
    rcases h'.known f mem with mem | looked
    · exact h.known f mem
    · exact .inr ((h.store.fieldId? f.1).symm.trans looked)

theorem mono (h : Frame ts d d') (sub : ts ⊆ ts') : Frame ts' d d' :=
  ⟨h.connected, h.store.mono sub, h.known⟩

end Desk.Frame

namespace Action

variable {ε ε' α β : Type} {ts ts' : List TableName}

/-- The desk behind an action that succeeded or failed. -/
def deskOf : EStateM.Result ε Desk α → Desk
  | .ok _ d => d
  | .error _ d => d

/-- What kept an action from its end, none where it succeeded. -/
def error? : EStateM.Result ε Desk α → Option ε
  | .ok _ _ => none
  | .error e _ => some e

def Touches (touched : List TableName) (act : Action ε α) : Prop :=
  ∀ d : Desk, d.Frame touched (deskOf (act d))

namespace Touches

variable {act : Action ε α}

theorem mono (h : Touches ts act) (sub : ts ⊆ ts') : Touches ts' act := fun d => (h d).mono sub

theorem of_ok (h : Touches ts act) {d d' : Desk} {a : α} (ok : act d = .ok a d') :
    d.Frame ts d' := by
  have frame := h d
  rwa [ok] at frame

theorem pure (a : α) : Touches ts (Pure.pure a : Action ε α) := fun d => .refl d

theorem throw (e : ε) : Touches ts (MonadExcept.throw e : Action ε α) := fun d => .refl d

theorem bind {next : α → Action ε β} (h : Touches ts act) (hnext : ∀ a, Touches ts (next a)) :
    Touches ts (act >>= next) := by
  intro d
  have first := h d
  change d.Frame ts (deskOf (EStateM.bind act next d))
  unfold EStateM.bind
  cases ran : act d with
  | ok a mid =>
      rw [ran] at first
      exact first.trans (hnext a mid)
  | error e mid =>
      rw [ran] at first
      exact first

theorem orFail (h : Touches ts act) (f : ε → ε') : Touches ts (act.orFail f) := by
  intro d
  have same := h d
  change d.Frame ts (deskOf (EStateM.adaptExcept f act d))
  unfold EStateM.adaptExcept
  cases ran : act d with
  | ok a mid => rwa [ran] at same
  | error e mid => rwa [ran] at same

theorem read (f : Store → Except StoreError α) : Touches ts (Action.read f) := by
  intro d
  unfold Action.read
  cases d.connected with
  | false => exact .refl d
  | true => cases f d.store <;> exact .refl d

theorem write {f : Store → Except StoreError (α × Store)}
    (h : ∀ s a s', f s = .ok (a, s') → s.Frame ts s') : Touches ts (Action.write f) := by
  intro d
  unfold Action.write
  split
  next =>
    cases ran : f d.store with
    | error e => exact .refl d
    | ok r => exact ⟨rfl, h _ _ _ ran, fun _ mem => .inl mem⟩
  next => exact .refl d

theorem transaction (onClosed : ε) (h : Touches ts act) : Touches ts (act.transaction onClosed) := by
  intro d
  have first := h d
  unfold Action.transaction
  cases d.connected with
  | false => exact .refl d
  | true =>
      cases ran : act d with
      | ok a mid => rwa [ran] at first
      | error e mid =>
          rw [ran] at first
          exact ⟨first.connected, .refl _, first.known⟩

end Touches

theorem transaction_error {onClosed : ε} {act : Action ε α} (h : Touches ts act) {d d' : Desk}
    {e : ε} (failed : act.transaction onClosed d = .error e d') : d.Frame [] d' := by
  have first := h d
  unfold transaction at failed
  split at failed
  next =>
    cases ran : act d with
    | ok a mid =>
        rw [ran] at failed
        cases failed
    | error e mid =>
        rw [ran] at first failed
        cases failed
        exact ⟨first.connected, .refl _, first.known⟩
  next =>
    cases failed
    exact .refl d

/-- Whatever comes of the action, what held of the desk before it holds behind it. -/
def Keeps (P : Desk → Prop) (act : Action ε α) : Prop := ∀ d, P d → P (deskOf (act d))

namespace Keeps

variable {P : Desk → Prop} {act : Action ε α}

theorem of_ok (h : Keeps P act) {d d' : Desk} {a : α} (ok : act d = .ok a d') (before : P d) :
    P d' := by
  have behind := h d before
  rwa [ok] at behind

theorem of_error (h : Keeps P act) {d d' : Desk} {e : ε} (failed : act d = .error e d')
    (before : P d) : P d' := by
  have behind := h d before
  rwa [failed] at behind

theorem pure (a : α) : Keeps P (Pure.pure a : Action ε α) := fun _ before => before

theorem throw (e : ε) : Keeps P (MonadExcept.throw e : Action ε α) := fun _ before => before

theorem bind {next : α → Action ε β} (h : Keeps P act) (hnext : ∀ a, Keeps P (next a)) :
    Keeps P (act >>= next) := by
  intro d before
  cases ran : act d with
  | ok a mid =>
      rw [Action.bind_of_ok ran]
      exact hnext a mid (h.of_ok ran before)
  | error e mid =>
      rw [Action.bind_of_error ran]
      exact h.of_error ran before

theorem orFail (h : Keeps P act) (f : ε → ε') : Keeps P (act.orFail f) := by
  intro d before
  cases ran : act d with
  | ok a mid =>
      rw [Action.orFail_ok.mpr ran]
      exact h.of_ok ran before
  | error e mid =>
      rw [Action.orFail_of_error ran]
      exact h.of_error ran before

end Keeps

end Action

end Dues
