import Dues.Proofs.Register.Likeness
import Dues.Proofs.Register.Session

/-! # What was looked up before does not matter

Two desks with one store may know the numbers of different fields. As long as each number is the one
that the store has for that name, every action of the register comes to the same at both desks and
leaves one store at both, with numbers that are right again. That holds of actions that fail and of
transactions that are undone as well, since no action changes the fields: a number that was looked
up in a store that is gone is right in the store that came back.
-/

namespace Dues

/-! ## Actions at two states -/

section Respects

variable {σ ε α β : Type} {R : σ → σ → Prop}

/-- Two ends that are the same, with states that are related. -/
inductive Matched (R : σ → σ → Prop) : EStateM.Result ε σ α → EStateM.Result ε σ α → Prop
  | ok (a : α) {s t : σ} (related : R s t) : Matched R (.ok a s) (.ok a t)
  | error (e : ε) {s t : σ} (related : R s t) : Matched R (.error e s) (.error e t)

/-- From related states an action comes to the same end, and to related states again. -/
def Respects (R : σ → σ → Prop) (act : EStateM ε σ α) : Prop :=
  ∀ s t, R s t → Matched R (act s) (act t)

namespace Respects

theorem pure (a : α) : Respects R (Pure.pure a : EStateM ε σ α) := fun _ _ related =>
  .ok a related

theorem throw (e : ε) : Respects R (MonadExcept.throw e : EStateM ε σ α) := fun _ _ related =>
  .error e related

theorem bind {act : EStateM ε σ α} {next : α → EStateM ε σ β} (h : Respects R act)
    (hnext : ∀ a, Respects R (next a)) : Respects R (act >>= next) := by
  intro s t related
  have ends := h s t related
  change Matched R (EStateM.bind act next s) (EStateM.bind act next t)
  unfold EStateM.bind
  generalize act s = r at ends
  generalize act t = r' at ends
  cases ends with
  | ok a related => exact hnext a _ _ related
  | error e related => exact .error e related

theorem map {act : EStateM ε σ α} (h : Respects R act) (f : α → β) : Respects R (f <$> act) :=
  h.bind fun a => .pure (f a)

end Respects

end Respects

/-! ## Desks that a look into the store would make the same -/

/-- The definitions of tables and of profile fields are the same. -/
structure Store.SameFields (s s' : Store) : Prop where
  catalog : s'.catalog = s.catalog
  fields : s'.fields = s.fields

namespace Store.SameFields

variable {s s' s'' : Store}

theorem refl (s : Store) : s.SameFields s := ⟨rfl, rfl⟩

theorem symm (h : s.SameFields s') : s'.SameFields s := ⟨h.catalog.symm, h.fields.symm⟩

theorem trans (h : s.SameFields s') (h' : s'.SameFields s'') : s.SameFields s'' :=
  ⟨h'.catalog.trans h.catalog, h'.fields.trans h.fields⟩

theorem of_frame {ts : List TableName} (h : s.Frame ts s') : s.SameFields s' :=
  ⟨h.catalog, h.fields⟩

theorem fieldId? (h : s.SameFields s') (name : String) : s'.fieldId? name = s.fieldId? name := by
  unfold Store.fieldId? Store.require Store.has
  rw [h.catalog, h.fields]

end Store.SameFields

theorem Desk.Coherent.of_sameFields {d : Desk} (h : d.Coherent) {store : Store}
    (same : d.store.SameFields store) : Desk.Coherent { d with store } :=
  ⟨h.connected, fun f mem => (same.fieldId? f.1).trans (h.known f mem)⟩

/-- Two desks with one store, in which the fields are those of `base`. What each of them looked up
is right. -/
structure Desk.Twin (base : Store) (d d' : Desk) : Prop where
  left : d.Coherent
  right : d'.Coherent
  store : d'.store = d.store
  fixed : base.SameFields d.store

namespace Desk.Twin

variable {base : Store} {d d' : Desk}

theorem withStore (h : d.Twin base d') {store : Store} (same : base.SameFields store) :
    Desk.Twin base { d with store } { d' with store } where
  left := h.left.of_sameFields (h.fixed.symm.trans same)
  right := h.right.of_sameFields (by rw [h.store]; exact h.fixed.symm.trans same)
  store := rfl
  fixed := same

theorem forgetful (h : d.Twin base d') : Desk.Twin base { d with fieldIds := [] } d' :=
  ⟨⟨h.left.connected, nofun⟩, h.right, h.store, h.fixed⟩

end Desk.Twin

/-- Desks with one store that cannot be told apart by the numbers of fields either, and which stay
so while other tables are exchanged at both. -/
class Desk.Congruence (R : Desk → Desk → Prop) : Prop where
  connected : ∀ {d d' : Desk}, R d d' → d'.connected = d.connected
  store : ∀ {d d' : Desk}, R d d' → d'.store = d.store
  withStore : ∀ {d d' : Desk} {store : Store}, R d d' → d.store.SameFields store →
    R { d with store } { d' with store }
  fieldNumber : ∀ name : String, Respects R (Register.fieldNumber name)

/-- The number of a field is the same at both desks, looked up before or not. -/
theorem Desk.Twin.fieldNumber {base : Store} (name : String) :
    Respects (Desk.Twin base) (Register.fieldNumber name) := by
  intro d d' twin
  obtain ⟨mid, frame, run⟩ := Register.fieldNumber_coherent twin.left name
  obtain ⟨mid', frame', run'⟩ := Register.fieldNumber_coherent twin.right name
  have between : mid.Twin base mid' := by
    refine ⟨twin.left.of_frame frame, twin.right.of_frame frame', ?_, ?_⟩
    · rw [frame.store.eq, frame'.store.eq, twin.store]
    · rw [frame.store.eq]
      exact twin.fixed
  rw [run, run', twin.store]
  cases d.store.fieldId? name with
  | error e => exact .error _ between
  | ok found =>
      cases found with
      | none => exact .error _ between
      | some id => exact .ok id between

instance {base : Store} : Desk.Congruence (Desk.Twin base) where
  connected twin := twin.right.connected.trans twin.left.connected.symm
  store twin := twin.store
  withStore twin same := twin.withStore (twin.fixed.trans same)
  fieldNumber := Desk.Twin.fieldNumber

namespace Respects

variable {ε ε' α : Type} {base : Store} {R : Desk → Desk → Prop}

theorem orFail {act : Action ε α} (h : Respects R act) (f : ε → ε') :
    Respects R (act.orFail f) := by
  intro d d' related
  have ends := h d d' related
  change Matched R (EStateM.adaptExcept f act d) (EStateM.adaptExcept f act d')
  unfold EStateM.adaptExcept
  generalize act d = r at ends
  generalize act d' = r' at ends
  cases ends with
  | ok a related => exact .ok a related
  | error e related => exact .error (f e) related

theorem read [Desk.Congruence R] (f : Store → Except StoreError α) :
    Respects R (Action.read f) := by
  intro d d' related
  unfold Action.read
  rw [Desk.Congruence.connected related, Desk.Congruence.store related]
  cases d.connected with
  | false => exact .error _ related
  | true =>
      cases f d.store with
      | ok a => exact .ok a related
      | error e => exact .error e related

theorem write [Desk.Congruence R] {f : Store → Except StoreError (α × Store)}
    (keeps : ∀ s a s', f s = .ok (a, s') → s.SameFields s') : Respects R (Action.write f) := by
  intro d d' related
  have connected := Desk.Congruence.connected related
  unfold Action.write
  by_cases reached : d.connected = true
  · rw [if_pos reached, if_pos (connected.trans reached), Desk.Congruence.store related]
    cases ran : f d.store with
    | error e => exact .error e related
    | ok r => exact .ok r.1 (Desk.Congruence.withStore related (keeps _ _ _ ran))
  · rw [if_neg reached, if_neg (connected ▸ reached)]
    exact .error _ related

/-- A transaction that fails brings the store back, and what was looked up in it is still right. -/
theorem transaction {act : Action ε α} (h : Respects (Desk.Twin base) act) (onClosed : ε) :
    Respects (Desk.Twin base) (act.transaction onClosed) := by
  intro d d' twin
  have ends := h d d' twin
  unfold Action.transaction
  rw [if_pos twin.left.connected, if_pos twin.right.connected]
  generalize act d = r at ends
  generalize act d' = r' at ends
  cases ends with
  | ok a related => exact .ok a related
  | error e related =>
      rw [twin.store]
      exact .error e (related.withStore twin.fixed)

theorem fieldNumber [Desk.Congruence R] (name : String) : Respects R (Register.fieldNumber name) :=
  Desk.Congruence.fieldNumber name

end Respects

/-- An action comes to the same in two sessions with the same open transaction, if any. -/
theorem Session.run_respects {ε α : Type} {R : Desk → Desk → Prop} {s t : Session}
    {act : Action ε α} {onClosed : ε} (saved : t.saved = s.saved) (related : R s.desk t.desk)
    (whole : Respects R (if s.isOpen then act else act.transaction onClosed)) :
    (s.run onClosed act).1 = (t.run onClosed act).1 ∧
      ∃ d d', R d d' ∧ (s.run onClosed act).2 = { s with desk := d } ∧
        (t.run onClosed act).2 = { t with desk := d' } := by
  have ends := whole s.desk t.desk related
  have isOpen : t.isOpen = s.isOpen := by rw [Session.isOpen, saved, Session.isOpen]
  unfold Session.run
  rw [isOpen]
  generalize (if s.isOpen then act else act.transaction onClosed) s.desk = r at ends
  generalize (if s.isOpen then act else act.transaction onClosed) t.desk = r' at ends
  cases ends with
  | ok a related => exact ⟨rfl, _, _, related, rfl, rfl⟩
  | error e related => exact ⟨rfl, _, _, related, rfl, rfl⟩

/-! ## The register -/

namespace Register

variable {R : Desk → Desk → Prop} [Desk.Congruence R]

theorem roleNumber_respects (name : String) : Respects R (roleNumber name) := by
  refine ((Respects.read _).orFail _).bind fun found => ?_
  cases found with
  | none => exact .throw _
  | some id => exact .pure id

theorem accountsNamed_respects (loginName : String) :
    Respects R (accountsNamed loginName) := (Respects.read _).orFail _

theorem openAccount_respects (loginName : String) :
    Respects R (openAccount loginName) := by
  unfold openAccount
  split
  next => exact .throw _
  next =>
    refine ((Respects.write fun _ _ _ h => ?_).orFail _).bind fun id => .pure _
    exact .of_frame (Store.insertUser_frame h)

theorem membership?_respects (userId : Int) : Respects R (membership? userId) :=
  (roleNumber_respects _).bind fun _ => (Respects.read _).orFail _

theorem extend_respects (userId : Int) (ends : Time.Instant) :
    Respects R (extend userId ends) :=
  (roleNumber_respects _).bind fun _ =>
    (Respects.write fun _ _ _ h => .of_frame (Store.setEnd_frame h)).orFail _

theorem enrol_respects (userId : Int) (role : String) (begins ends : Time.Instant) :
    Respects R (enrol userId role begins ends) :=
  (roleNumber_respects _).bind fun _ =>
    ((Respects.write fun _ _ _ h => .of_frame (Store.insertMember_frame h)).orFail _).bind
      fun _ => .pure _

theorem findMember_respects (firstName lastName email : String) :
    Respects R (findMember firstName lastName email) :=
  (Respects.fieldNumber _).bind fun _ => (Respects.fieldNumber _).bind fun _ =>
    (Respects.read _).orFail _

theorem setValue_respects {t : ValueType} (field : ProfileField t) (userId : Int)
    (value : t.Value) : Respects R (setValue field userId value) := by
  rw [setValue_eq]
  exact (Respects.fieldNumber _).bind fun _ =>
    (Respects.write fun _ _ _ h => .of_frame (keepValue_frame _ _ _ h)).orFail _

theorem value?_respects {t : ValueType} (field : ProfileField t) (userId : Int) :
    Respects R (value? field userId) := by
  refine (Respects.fieldNumber _).bind fun fieldId => ((Respects.read _).orFail _).bind fun found => ?_
  cases found with
  | none => exact .pure none
  | some row =>
      dsimp only
      cases t.decode row.2.text with
      | some value => exact .pure _
      | none => exact .throw _

theorem deleteRole_sameFields {s s' : Store} {name : String} {n : Nat}
    (h : s.deleteRole name = .ok (n, s')) : s.SameFields s' := by
  obtain ⟨_, h⟩ := Store.require_bind.mp h
  dsimp only at h
  split at h
  next => cases h
  next =>
    cases h
    exact ⟨rfl, rfl⟩

theorem deleteUser_sameFields {s s' : Store} {id : Int} {n : Nat}
    (h : s.deleteUser id = .ok (n, s')) : s.SameFields s' := by
  obtain ⟨_, h⟩ := Store.require_bind.mp h
  cases h
  exact ⟨rfl, rfl⟩

theorem valueOrZero_respects {t : ValueType} (field : ProfileField t) (userId : Int) :
    Respects R (valueOrZero field userId) := (value?_respects field userId).map _

theorem membership_respects (userId : Int) : Respects R (membership userId) := by
  refine (membership?_respects userId).bind fun found => ?_
  cases found with
  | none => exact .throw _
  | some m => exact .pure m

theorem roleExists_respects (name : String) : Respects R (roleExists name) :=
  ((Respects.read _).orFail _).map _

theorem removeRole_respects (name : String) : Respects R (removeRole name) :=
  (Respects.write fun _ _ _ h => deleteRole_sameFields h).orFail _

theorem removeUser_respects (userId : Int) : Respects R (removeUser userId) :=
  (Respects.write fun _ _ _ h => deleteUser_sameFields h).orFail _

end Register

end Dues
