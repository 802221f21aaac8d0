import Dues.Proofs.Register.Basic
import Dues.Proofs.Store.Texts

/-! # Desks that look alike

Of all profile values, only names and emails are read or written where persons are found and
described. Two desks that differ in other values at most look alike to every action that is about
persons: it ends in the same way at both, and they look alike behind it.
-/

namespace Dues

open Store (TableName)
open Dues.Register (memberRole ProfileField RegisterError)
open Dues.Text (trim)

namespace Store

/-- The fields by which persons are found and described. -/
def personal : List String :=
  [ProfileField.firstName.name, ProfileField.lastName.name, ProfileField.email.name]

/-- Stores that differ in profile values at most, and there in values that are not personal, or in
the rows that personal ones are kept in. -/
structure Alike (s s' : Store) : Prop where
  rest : ∃ values, s' = { s with values }
  texts : ∀ name ∈ personal, ∀ fieldId, s.fieldId? name = .ok (some fieldId) →
    ∀ userId, s'.texts userId fieldId = s.texts userId fieldId

namespace Alike

variable {s s' s'' t : Store}

theorem refl (s : Store) : s.Alike s := ⟨⟨s.values, rfl⟩, fun _ _ _ _ _ => rfl⟩

theorem fieldId? (h : s.Alike s') (name : String) : s'.fieldId? name = s.fieldId? name := by
  obtain ⟨values, rfl⟩ := h.rest
  rfl

theorem symm (h : s.Alike s') : s'.Alike s where
  rest := by
    obtain ⟨values, rfl⟩ := h.rest
    exact ⟨s.values, rfl⟩
  texts name mem fieldId looked userId :=
    (h.texts name mem fieldId ((h.fieldId? name).symm.trans looked) userId).symm

theorem trans (h : s.Alike s') (h' : s'.Alike s'') : s.Alike s'' where
  rest := by
    obtain ⟨values, rfl⟩ := h.rest
    obtain ⟨values', rfl⟩ := h'.rest
    exact ⟨values', rfl⟩
  texts name mem fieldId looked userId :=
    (h'.texts name mem fieldId ((h.fieldId? name).trans looked) userId).trans
      (h.texts name mem fieldId looked userId)

end Alike

theorem Alike.memberMatching {s s' : Store} (h : s.Alike s') {a b : Int}
    (first : s.fieldId? ProfileField.firstName.name = .ok (some a))
    (last : s.fieldId? ProfileField.lastName.name = .ok (some b))
    (role login firstName lastName : String) :
    s'.memberMatching role login a firstName b lastName =
      s.memberMatching role login a firstName b lastName := by
  have held : ∀ name ∈ personal, ∀ fieldId, s.fieldId? name = .ok (some fieldId) →
      ∀ userId text, s'.holdsValue userId fieldId text = s.holdsValue userId fieldId text := by
    intro name mem fieldId looked userId text
    rw [holdsValue_eq_any, holdsValue_eq_any, h.texts name mem fieldId looked]
  have firstHeld := held _ (by decide) a first
  have lastHeld := held _ (by decide) b last
  obtain ⟨values, rfl⟩ := h.rest
  unfold Store.memberMatching
  simp only [firstHeld, lastHeld]
  rfl

/-- A text for a user in a personal field is refused at both stores, or kept at both. -/
theorem Alike.keepValue {s s' : Store} (h : s.Alike s') {name : String} (mem : name ∈ personal)
    {fieldId : Int} (looked : s.fieldId? name = .ok (some fieldId)) (userId : Int) (text : String) :
    (∃ e, s.keepValue userId fieldId text = .error e ∧ s'.keepValue userId fieldId text = .error e) ∨
      ∃ t t', s.keepValue userId fieldId text = .ok t ∧ s'.keepValue userId fieldId text = .ok t' ∧
        t.Alike t' := by
  have texts := h.texts name mem fieldId looked userId
  have refusal : s'.refusal? userId fieldId = s.refusal? userId fieldId := by
    unfold refusal?
    rw [texts]
    obtain ⟨values, rfl⟩ := h.rest
    rfl
  rcases s.keepValue_cases userId fieldId text with ⟨e, refused, failed⟩ | ⟨granted, t, done, kept⟩
  · rcases s'.keepValue_cases userId fieldId text with ⟨e', refused', failed'⟩ | ⟨granted', _⟩
    · cases refused.symm.trans (refusal.symm.trans refused')
      exact .inl ⟨e, failed, failed'⟩
    · cases refused.symm.trans (refusal.symm.trans granted')
  · rcases s'.keepValue_cases userId fieldId text with ⟨e', refused', _⟩ | ⟨_, t', done', kept'⟩
    · cases granted.symm.trans (refusal.symm.trans refused')
    · refine .inr ⟨t, t', done, done', ?_, fun other personal field found user => ?_⟩
      · obtain ⟨values, rest⟩ := h.rest
        refine ⟨t'.values, kept'.rest.trans ?_⟩
        rw [kept.rest, rest]
      · rw [kept.rest] at found
        by_cases own : user = userId ∧ field = fieldId
        · obtain ⟨rfl, rfl⟩ := own
          rw [kept'.own, kept.own, texts]
        · have apart : field ≠ fieldId ∨ user ≠ userId := by omega
          rw [kept'.others user field apart, kept.others user field apart]
          exact h.texts other personal field found user

theorem require_map {α β : Type} {s s' : Store} {t : TableName} {next : Unit → Except StoreError α}
    {next' : Unit → Except StoreError β} {f : α → β} (same : s'.require t = s.require t)
    (h : next' () = (next ()).map f) : (s'.require t >>= next') = (s.require t >>= next).map f := by
  rw [same]
  cases s.require t with
  | error e => rfl
  | ok u => exact h

end Store

/-- A connected desk at which the numbers that were looked up are those that the store has. -/
structure Desk.Coherent (d : Desk) : Prop where
  connected : d.connected = true
  known : ∀ f ∈ d.fieldIds, d.store.fieldId? f.1 = .ok (some f.2)

theorem Desk.Coherent.of_frame {ts : List TableName} {d d' : Desk} (h : d.Coherent)
    (frame : d.Frame ts d') : d'.Coherent where
  connected := frame.connected.trans h.connected
  known f mem := by
    rw [frame.store.fieldId?]
    rcases frame.known f mem with mem | looked
    · exact h.known f mem
    · exact looked

theorem Desk.coherent_of_store (store : Store) : Desk.Coherent { store } :=
  ⟨rfl, fun _ mem => nomatch mem⟩

structure Desk.Alike (d d' : Desk) : Prop where
  left : d.Coherent
  right : d'.Coherent
  store : d.store.Alike d'.store

namespace Desk.Alike

variable {d d' d'' : Desk}

theorem refl (h : d.Coherent) : d.Alike d := ⟨h, h, .refl _⟩

theorem symm (h : d.Alike d') : d'.Alike d := ⟨h.right, h.left, h.store.symm⟩

theorem trans (h : d.Alike d') (h' : d'.Alike d'') : d.Alike d'' :=
  ⟨h.left, h'.right, h.store.trans h'.store⟩

end Desk.Alike

namespace Action

variable {ε ε' α β : Type} {d d' : Desk}

/-- Two ends of an action that are the same, with desks that look alike. -/
inductive Agree : EStateM.Result ε Desk α → EStateM.Result ε Desk α → Prop
  | ok (a : α) {d d' : Desk} (alike : d.Alike d') : Agree (.ok a d) (.ok a d')
  | error (e : ε) {d d' : Desk} (alike : d.Alike d') : Agree (.error e d) (.error e d')

/-- An action that cannot tell apart desks that look alike. -/
def Blind (act : Action ε α) : Prop := ∀ d d' : Desk, d.Alike d' → Agree (act d) (act d')

theorem Agree.bind {act : Action ε α} {next : α → Action ε β} (h : Agree (act d) (act d'))
    (hnext : ∀ a mid mid', act d = .ok a mid → mid.Alike mid' → Agree (next a mid) (next a mid')) :
    Agree ((act >>= next) d) ((act >>= next) d') := by
  generalize first : act d = r at h
  generalize second : act d' = r' at h
  cases h with
  | ok a alike =>
      rw [bind_of_ok first, bind_of_ok second]
      exact hnext a _ _ first alike
  | error e alike =>
      rw [bind_of_error first, bind_of_error second]
      exact .error e alike

theorem Agree.orFail {act : Action ε α} (h : Agree (act d) (act d')) (f : ε → ε') :
    Agree (act.orFail f d) (act.orFail f d') := by
  generalize first : act d = r at h
  generalize second : act d' = r' at h
  cases h with
  | ok a alike =>
      rw [orFail_ok.mpr first, orFail_ok.mpr second]
      exact .ok a alike
  | error e alike =>
      rw [orFail_of_error first, orFail_of_error second]
      exact .error (f e) alike

theorem Agree.read {f : Store → Except StoreError α} (alike : d.Alike d')
    (same : f d'.store = f d.store) : Agree (Action.read f d) (Action.read f d') := by
  unfold Action.read
  rw [alike.left.connected, alike.right.connected, same, if_pos rfl, if_pos rfl]
  cases f d.store with
  | ok a => exact .ok a alike
  | error e => exact .error e alike

/-- What is written is refused at both desks, or leads to stores that look alike again. -/
theorem Agree.write {ts : List TableName} {f : Store → Except StoreError (α × Store)}
    (alike : d.Alike d') (frame : ∀ s a s', f s = .ok (a, s') → s.Frame ts s')
    (same : (∃ e, f d.store = .error e ∧ f d'.store = .error e) ∨
      ∃ a s s', f d.store = .ok (a, s) ∧ f d'.store = .ok (a, s') ∧ s.Alike s') :
    Agree (Action.write f d) (Action.write f d') := by
  unfold Action.write
  rw [alike.left.connected, alike.right.connected, if_pos rfl, if_pos rfl]
  rcases same with ⟨e, first, second⟩ | ⟨a, s, s', first, second, store⟩
  · rw [first, second]
    exact .error e alike
  · rw [first, second]
    refine .ok a ⟨?_, ?_, store⟩
    · exact alike.left.of_frame
        ⟨alike.left.connected.symm, frame _ _ _ first, fun _ mem => .inl mem⟩
    · exact alike.right.of_frame
        ⟨alike.right.connected.symm, frame _ _ _ second, fun _ mem => .inl mem⟩

namespace Blind

variable {act : Action ε α}

theorem pure (a : α) : Blind (Pure.pure a : Action ε α) := fun _ _ alike => .ok a alike

theorem throw (e : ε) : Blind (MonadExcept.throw e : Action ε α) := fun _ _ alike => .error e alike

theorem bind {next : α → Action ε β} (h : Blind act) (hnext : ∀ a, Blind (next a)) :
    Blind (act >>= next) := fun d d' alike =>
  (h d d' alike).bind fun a mid mid' _ alike => hnext a mid mid' alike

theorem orFail (h : Blind act) (f : ε → ε') : Blind (act.orFail f) := fun d d' alike =>
  (h d d' alike).orFail f

theorem read {f : Store → Except StoreError α}
    (blind : ∀ s values, f { s with values } = f s) : Blind (Action.read f) := by
  intro d d' alike
  refine .read alike ?_
  obtain ⟨values, same⟩ := alike.store.rest
  rw [same]
  exact blind d.store values

theorem write (ts : List TableName) {f : Store → Except StoreError (α × Store)}
    (apart : .values ∉ ts) (frame : ∀ s a s', f s = .ok (a, s') → s.Frame ts s')
    (blind : ∀ s values, f { s with values } = (f s).map fun r => (r.1, { r.2 with values })) :
    Blind (Action.write f) := by
  intro d d' alike
  refine .write alike frame ?_
  obtain ⟨values, same⟩ := alike.store.rest
  have texts := alike.store.texts
  have other := blind d.store values
  rw [same] at texts ⊢
  cases ran : f d.store with
  | error e =>
      rw [ran] at other
      exact .inl ⟨e, rfl, other⟩
  | ok r =>
      obtain ⟨a, s⟩ := r
      rw [ran] at other
      refine .inr ⟨a, s, { s with values }, rfl, other, ⟨values, rfl⟩, ?_⟩
      have kept := frame _ _ _ ran
      intro name mem fieldId looked userId
      rw [Store.texts_congr (kept.values apart)]
      exact texts name mem fieldId ((kept.fieldId? name).symm.trans looked) userId

/-- A transaction that fails takes back the store, but not the numbers that were looked up. -/
theorem transaction {ts : List TableName} (touches : Touches ts act) (h : Blind act) (onClosed : ε) :
    Blind (act.transaction onClosed) := by
  intro d d' alike
  have agree := h d d' alike
  have frame := touches d
  have frame' := touches d'
  unfold Action.transaction
  rw [alike.left.connected, alike.right.connected, if_pos rfl, if_pos rfl]
  generalize act d = r at agree frame
  generalize act d' = r' at agree frame'
  cases agree with
  | ok a alike => exact .ok a alike
  | @error e mid mid' _ =>
      have kept : d.Frame ts { mid with store := d.store } :=
        ⟨frame.connected, .refl _, frame.known⟩
      have kept' : d'.Frame ts { mid' with store := d'.store } :=
        ⟨frame'.connected, .refl _, frame'.known⟩
      exact .error e ⟨alike.left.of_frame kept, alike.right.of_frame kept', alike.store⟩

end Blind

end Action

namespace Register

open Dues.Action (Agree Blind)

variable {α : Type} {d d' : Desk}

/-- At a coherent desk the number of a field is that which the store has, looked up before or not. -/
theorem fieldNumber_coherent (h : d.Coherent) (name : String) :
    ∃ mid, d.Frame [] mid ∧ fieldNumber name d =
      match d.store.fieldId? name with
      | .ok (some id) => .ok id mid
      | .ok none => .error (.unknownField name) mid
      | .error e => .error (.store e) mid := by
  refine ⟨Action.deskOf (fieldNumber name d), fieldNumber_touches name d, ?_⟩
  rcases fieldNumber_cases name d with ⟨id, mem, run⟩ | ⟨e, run, failed⟩ | ⟨id, looked, run⟩
  · rw [run, h.known _ mem]
    rfl
  · rcases failed h.connected with ⟨unknown, rfl⟩ | ⟨cause, unread, rfl⟩
    · rw [run, unknown]
      rfl
    · rw [run, unread]
      rfl
  · rw [run, looked]
    rfl

/-- Whatever is done with the number of a field is done with the same number at both desks. -/
theorem fieldNumber_then {next : Int → Action RegisterError α} (alike : d.Alike d') (name : String)
    (hnext : ∀ id mid mid', mid.Alike mid' → mid.store = d.store →
      d.store.fieldId? name = .ok (some id) → Agree (next id mid) (next id mid')) :
    Agree ((fieldNumber name >>= next) d) ((fieldNumber name >>= next) d') := by
  obtain ⟨mid, frame, run⟩ := fieldNumber_coherent alike.left name
  obtain ⟨mid', frame', run'⟩ := fieldNumber_coherent alike.right name
  have between : mid.Alike mid' := by
    refine ⟨alike.left.of_frame frame, alike.right.of_frame frame', ?_⟩
    rw [frame.store.eq, frame'.store.eq]
    exact alike.store
  rw [alike.store.fieldId?] at run'
  cases looked : d.store.fieldId? name with
  | error e =>
      rw [looked] at run run'
      rw [Action.bind_of_error run, Action.bind_of_error run']
      exact .error _ between
  | ok found =>
      rw [looked] at run run'
      cases found with
      | none =>
          rw [Action.bind_of_error run, Action.bind_of_error run']
          exact .error _ between
      | some id =>
          rw [Action.bind_of_ok run, Action.bind_of_ok run']
          exact hnext id mid mid' between frame.store.eq looked

theorem roleNumber_blind (name : String) : Blind (roleNumber name) := by
  refine ((Blind.read fun _ _ => rfl).orFail _).bind fun found => ?_
  cases found with
  | none => exact .throw _
  | some id => exact .pure id

theorem accountsNamed_blind (loginName : String) : Blind (accountsNamed loginName) :=
  (Blind.read fun _ _ => rfl).orFail _

theorem openAccount_blind (loginName : String) : Blind (openAccount loginName) := by
  unfold openAccount
  split
  next => exact .throw _
  next =>
    refine ((Blind.write [.users] (by decide) (fun _ _ _ => Store.insertUser_frame)
      fun s values => ?_).orFail _).bind fun id => .pure _
    unfold Store.insertUser
    refine Store.require_map rfl ?_
    dsimp only
    split <;> rfl

theorem membership?_blind (userId : Int) : Blind (membership? userId) :=
  (roleNumber_blind _).bind fun _ => (Blind.read fun _ _ => rfl).orFail _

theorem extend_blind (userId : Int) (ends : Time.Instant) : Blind (extend userId ends) := by
  refine (roleNumber_blind _).bind fun roleId => (Blind.write [.members] (by decide)
    (fun _ _ _ => Store.setEnd_frame) fun s values => ?_).orFail _
  exact Store.require_map rfl rfl

theorem enrol_blind (userId : Int) (role : String) (begins ends : Time.Instant) :
    Blind (enrol userId role begins ends) := by
  refine (roleNumber_blind _).bind fun roleId => ((Blind.write [.members] (by decide)
    (fun _ _ _ => Store.insertMember_frame) fun s values => ?_).orFail _).bind fun _ => .pure _
  unfold Store.insertMember
  refine Store.require_map rfl ?_
  dsimp only
  split <;> rfl

theorem findMember_blind (firstName lastName email : String) :
    Blind (findMember firstName lastName email) := by
  intro d d' alike
  refine fieldNumber_then alike _ fun a mid₁ mid₁' alike₁ same₁ first => ?_
  refine fieldNumber_then alike₁ _ fun b mid₂ mid₂' alike₂ same₂ last => ?_
  refine (Agree.read alike₂ ?_).orFail _
  refine alike₂.store.memberMatching ?_ ?_ _ _ _ _
  · rwa [same₂, same₁]
  · rwa [same₂]

theorem setValue_eq {t : ValueType} (field : ProfileField t) (userId : Int) (value : t.Value) :
    setValue field userId value = (fieldNumber field.name >>= fun fieldId =>
      (Action.write fun s =>
        (s.keepValue userId fieldId (t.encode value)).map ((), ·)).orFail .store) := by
  unfold setValue
  refine congrArg _ (funext fun fieldId => funext fun d => ?_)
  cases connected : d.connected with
  | false =>
      have read : Action.read (fun s => s.value? userId fieldId) d = .error .closed d := by
        rw [Action.read, connected, if_neg Bool.false_ne_true]
      have wrote : Action.write (fun s =>
          (s.keepValue userId fieldId (t.encode value)).map ((), ·)) d = .error .closed d := by
        rw [Action.write, connected, if_neg Bool.false_ne_true]
      rw [Action.bind_of_error (Action.orFail_of_error read), Action.orFail_of_error wrote]
  | true =>
      cases looked : d.store.value? userId fieldId with
      | error e =>
          have read : Action.read (fun s => s.value? userId fieldId) d = .error e d := by
            rw [Action.read, connected, if_pos rfl, looked]
          have wrote : Action.write (fun s =>
              (s.keepValue userId fieldId (t.encode value)).map ((), ·)) d = .error e d := by
            rw [Action.write, connected, if_pos rfl, Store.keepValue, looked]
            rfl
          rw [Action.bind_of_error (Action.orFail_of_error read), Action.orFail_of_error wrote]
      | ok found =>
          have read : Action.read (fun s => s.value? userId fieldId) d = .ok found d :=
            Action.read_ok.mpr ⟨connected, looked, rfl⟩
          rw [Action.bind_of_ok (Action.orFail_ok.mpr read)]
          cases found with
          | some row =>
              refine Action.orFail_congr (Action.write_congr ?_)
              rw [Store.keepValue, looked]
              rfl
          | none =>
              refine Action.orFail_congr (Action.write_congr ?_)
              rw [Store.keepValue, looked]
              rfl

theorem keepValue_frame {userId fieldId : Int} {text : String} (s : Store) (u : Unit) (s' : Store)
    (h : (s.keepValue userId fieldId text).map ((), ·) = .ok (u, s')) : s.Frame [.values] s' := by
  rcases s.keepValue_cases userId fieldId text with ⟨e, _, failed⟩ | ⟨_, t, done, kept⟩
  · cases failed.symm.trans (written_ok.mp h)
  · cases done.symm.trans (written_ok.mp h)
    rw [kept.rest]
    exact ⟨rfl, rfl, rfl, rfl, fun _ => rfl, fun _ => rfl, by simp, fun _ => rfl⟩

/-- A value in a personal field is kept in the same way at both desks. -/
theorem setValue_blind {t : ValueType} (field : ProfileField t) (personal : field.name ∈ Store.personal)
    (userId : Int) (value : t.Value) : Blind (setValue field userId value) := by
  rw [setValue_eq]
  intro d d' alike
  refine fieldNumber_then alike _ fun fieldId mid mid' between same looked => ?_
  rw [← same] at looked
  refine (Agree.write between keepValue_frame ?_).orFail _
  rcases between.store.keepValue personal looked userId (t.encode value) with
    ⟨e, failed, failed'⟩ | ⟨s, s', done, done', store⟩
  · rw [failed, failed']
    exact .inl ⟨e, rfl, rfl⟩
  · rw [done, done']
    exact .inr ⟨(), s, s', rfl, rfl, store⟩

/-- A store looks the same once a text is kept in a field that is not personal. -/
theorem alike_of_kept {s s' : Store} {name text : String} {userId fieldId : Int}
    (apart : name ∉ Store.personal) (looked : s.fieldId? name = .ok (some fieldId))
    (kept : s.Kept userId fieldId text s') : s.Alike s' := by
  refine ⟨⟨s'.values, kept.rest⟩, fun other personal field found user => ?_⟩
  refine kept.others user field (.inl ?_)
  rintro rfl
  exact apart (Store.fieldId?_injective found looked ▸ personal)

theorem setValue_alike {t : ValueType} (field : ProfileField t)
    (apart : field.name ∉ Store.personal) (userId : Int) (value : t.Value) {d : Desk}
    (h : d.Coherent) :
    d.store.Alike (Action.deskOf (setValue field userId value d)).store := by
  rw [setValue_eq]
  obtain ⟨mid, frame, run⟩ := fieldNumber_coherent h field.name
  have same := frame.store.eq
  cases looked : d.store.fieldId? field.name with
  | error e =>
      rw [looked] at run
      rw [Action.bind_of_error run, Action.deskOf, same]
      exact .refl _
  | ok found =>
      rw [looked] at run
      cases found with
      | none =>
          rw [Action.bind_of_error run, Action.deskOf, same]
          exact .refl _
      | some fieldId =>
          rw [Action.bind_of_ok run]
          rcases mid.store.keepValue_cases userId fieldId (t.encode value) with
            ⟨e, _, failed⟩ | ⟨_, s', done, kept⟩
          · have wrote : Action.write (fun s =>
                (s.keepValue userId fieldId (t.encode value)).map ((), ·)) mid = .error e mid := by
              rw [Action.write, (h.of_frame frame).connected, if_pos rfl, failed]
              rfl
            rw [Action.orFail_of_error wrote, Action.deskOf, same]
            exact .refl _
          · have wrote := write_succeeds (f := fun s => s.keepValue userId fieldId (t.encode value))
              (h.of_frame frame).connected done
            rw [wrote, Action.deskOf]
            rw [same] at kept
            exact alike_of_kept apart looked kept

end Register

end Dues
