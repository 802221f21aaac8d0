import Dues.Proofs.Register.Installed

/-! # What the register's actions come to

For each action of the register, the tables that it touches and what it leaves when it succeeds. The
actions that read or enter members succeed wherever an installation is there.
-/

namespace Dues

open Store (TableName)
open Dues.Time (Instant)
open Dues.Text (isBlankText trim sameIgnoringCase)

namespace Store

variable {s s' : Store}

theorem insertUser_frame {user : User} {id : Int} (h : s.insertUser user = .ok (id, s')) :
    s.Frame [.users] s' := by
  obtain ⟨_, _, _, rfl⟩ := insertUser_ok.mp h
  exact ⟨rfl, rfl, rfl, rfl, by simp, fun _ => rfl, fun _ => rfl, fun _ => rfl⟩

theorem insertMember_frame {m : Member} {id : Int} (h : s.insertMember m = .ok (id, s')) :
    s.Frame [.members] s' := by
  obtain ⟨_, _, _, rfl⟩ := insertMember_ok.mp h
  exact ⟨rfl, rfl, rfl, rfl, fun _ => rfl, by simp, fun _ => rfl, fun _ => rfl⟩

theorem setEnd_frame {userId roleId : Int} {ends : Instant} {n : Nat}
    (h : s.setEnd userId roleId ends = .ok (n, s')) : s.Frame [.members] s' := by
  obtain ⟨_, _, rfl⟩ := setEnd_ok.mp h
  exact ⟨rfl, rfl, rfl, rfl, fun _ => rfl, by simp, fun _ => rfl, fun _ => rfl⟩

theorem updateValue_frame {id : Int} {text : String} (h : s.updateValue id text = .ok s') :
    s.Frame [.values] s' := by
  obtain ⟨_, rfl⟩ := updateValue_ok.mp h
  exact ⟨rfl, rfl, rfl, rfl, fun _ => rfl, fun _ => rfl, by simp, fun _ => rfl⟩

theorem insertValue_frame {v : ValueRow} (h : s.insertValue v = .ok s') : s.Frame [.values] s' := by
  obtain ⟨_, _, _, rfl⟩ := insertValue_ok.mp h
  exact ⟨rfl, rfl, rfl, rfl, fun _ => rfl, fun _ => rfl, by simp, fun _ => rfl⟩

theorem updateSale_frame {record : SaleRecord} {id : Int} {n : Nat}
    (h : s.updateSale id record = .ok (n, s')) : s.Frame [.sales] s' := by
  obtain ⟨_, _, rfl⟩ := updateSale_ok.mp h
  exact ⟨rfl, rfl, rfl, rfl, fun _ => rfl, fun _ => rfl, fun _ => rfl, by simp⟩

end Store

namespace Register

open Dues.Action (Touches)

variable {d d' : Desk} {userId id : Int}

theorem roleNumber_touches (name : String) : Touches [] (roleNumber name) := by
  refine ((Touches.read _).orFail _).bind fun o => ?_
  cases o with
  | none => exact .throw _
  | some id => exact .pure id

theorem roleNumber_ok {name : String} :
    roleNumber name d = .ok id d' ↔
      d.connected = true ∧ d.store.roleId? name = .ok (some id) ∧ d' = d := by
  unfold roleNumber
  rw [Action.bind_ok]
  constructor
  · rintro ⟨o, mid, read, done⟩
    obtain ⟨connected, looked, rfl⟩ := Action.read_ok.mp (Action.orFail_ok.mp read)
    cases o with
    | none => exact absurd done Action.throw_ok
    | some roleId =>
        obtain ⟨rfl, rfl⟩ := Action.pure_ok.mp done
        exact ⟨connected, looked, rfl⟩
  · rintro ⟨connected, looked, rfl⟩
    exact ⟨some id, d', Action.orFail_ok.mpr (Action.read_ok.mpr ⟨connected, looked, rfl⟩), rfl⟩

theorem roleNumber_member (h : d.Installed) : roleNumber memberRole d = .ok memberRoleId d :=
  roleNumber_ok.mpr ⟨h.connected, h.roleId?, rfl⟩

/-- The number comes from what was looked up before, or from the store. -/
theorem fieldNumber_cases (name : String) (d : Desk) :
    (∃ id, (name, id) ∈ d.fieldIds ∧ fieldNumber name d = .ok id d) ∨
      (∃ e, fieldNumber name d = .error e d ∧ (d.connected = true →
        (d.store.fieldId? name = .ok none ∧ e = .unknownField name) ∨
          ∃ cause, d.store.fieldId? name = .error cause ∧ e = .store cause)) ∨
      ∃ id, d.store.fieldId? name = .ok (some id) ∧
        fieldNumber name d = .ok id { d with fieldIds := (name, id) :: d.fieldIds } := by
  unfold fieldNumber
  rw [Action.bind_of_ok (rfl : (get : Action RegisterError Desk) d = .ok d d)]
  cases cached : d.fieldIds.lookup name with
  | some id =>
      obtain ⟨before, behind, split, _⟩ := List.lookup_eq_some_iff.mp cached
      exact .inl ⟨id, split ▸ by simp, rfl⟩
  | none =>
      rcases Action.read_cases (fun s => s.fieldId? name) d with
        ⟨o, looked, read⟩ | ⟨e, read, failed⟩
      · have found := Action.orFail_ok (f := RegisterError.store) |>.mpr read
        cases o with
        | none => exact .inr (.inl ⟨_, Action.bind_of_ok found, fun _ => .inl ⟨looked, rfl⟩⟩)
        | some id => exact .inr (.inr ⟨id, looked, Action.bind_of_ok found⟩)
      · refine .inr (.inl ⟨_, Action.bind_of_error (Action.orFail_of_error read), ?_⟩)
        exact fun connected => .inr ⟨e, failed connected, rfl⟩

theorem fieldNumber_touches (name : String) : Touches [] (fieldNumber name) := by
  intro d
  rcases fieldNumber_cases name d with ⟨id, _, run⟩ | ⟨e, run, _⟩ | ⟨id, looked, run⟩ <;> rw [run]
  · exact .refl d
  · exact .refl d
  · refine ⟨rfl, .refl _, fun f mem => ?_⟩
    rcases List.mem_cons.mp mem with rfl | mem
    · exact .inr looked
    · exact .inl mem

theorem fieldNumber_succeeds (h : d.Installed) {t : ValueType} {field : ProfileField t}
    (defined : field.Defined) :
    ∃ id d', fieldNumber field.name d = .ok id d' ∧ d.store.fields.contains id = true := by
  rcases fieldNumber_cases field.name d with ⟨id, mem, run⟩ | ⟨e, _, failed⟩ | ⟨id, looked, run⟩
  · exact ⟨id, d, run, Store.contains_of_fieldId? (h.known _ mem)⟩
  · obtain ⟨id, looked⟩ := defined
    have looked := (h.fieldId? field.name).trans looked
    rcases failed h.connected with ⟨unknown, _⟩ | ⟨cause, failed, _⟩
    · cases unknown.symm.trans looked
    · cases failed.symm.trans looked
  · exact ⟨id, _, run, Store.contains_of_fieldId? looked⟩

theorem accountsNamed_ok {loginName : String} {accounts : List (Int × User)} :
    accountsNamed loginName d = .ok accounts d' ↔ d.connected = true ∧
      d.store.has .users = true ∧
      (d.store.users.select fun u => sameIgnoringCase u.loginName loginName) = accounts ∧
      d' = d := by
  unfold accountsNamed
  rw [Action.orFail_ok, Action.read_ok, Store.usersNamed_ok]
  simp only [and_assoc]

theorem openAccount_ok {loginName : String} {account : Int × User} :
    openAccount loginName d = .ok account d' ↔
      isBlankText loginName = false ∧ d.connected = true ∧ ∃ id s',
        d.store.insertUser ⟨loginName, lockedPassword, true⟩ = .ok (id, s') ∧
          account = (id, ⟨loginName, lockedPassword, true⟩) ∧ d' = { d with store := s' } := by
  unfold openAccount
  cases isBlankText loginName with
  | true => exact ⟨fun h => absurd h Action.throw_ok, fun h => nomatch h.1⟩
  | false =>
      simp only [Bool.false_eq_true, if_false, true_and]
      rw [Action.bind_ok]
      constructor
      · rintro ⟨id, mid, wrote, done⟩
        obtain ⟨connected, s', inserted, rfl⟩ := Action.write_ok.mp (Action.orFail_ok.mp wrote)
        obtain ⟨rfl, rfl⟩ := Action.pure_ok.mp done
        exact ⟨connected, id, s', inserted, rfl, rfl⟩
      · rintro ⟨connected, id, s', inserted, rfl, rfl⟩
        exact ⟨id, _, Action.orFail_ok.mpr (Action.write_ok.mpr ⟨connected, s', inserted, rfl⟩),
          Action.pure_ok.mpr ⟨rfl, rfl⟩⟩

theorem openAccount_cases (loginName : String) (d : Desk) :
    (∃ e, openAccount loginName d = .error e d) ∨
      isBlankText loginName = false ∧ openAccount loginName d =
        .ok (d.store.users.nextId, ⟨loginName, lockedPassword, true⟩)
          { d with store := { d.store with
            users := d.store.users.insert ⟨loginName, lockedPassword, true⟩ } } := by
  cases blank : isBlankText loginName with
  | true =>
      apply Or.inl
      refine ⟨.emptyLoginName, ?_⟩
      rw [openAccount, blank]
      rfl
  | false =>
      rcases Action.write_cases (fun s => s.insertUser ⟨loginName, lockedPassword, true⟩) d with
        ⟨id, s', inserted, wrote⟩ | ⟨e, failed⟩
      · apply Or.inr
        obtain ⟨_, _, rfl, rfl⟩ := Store.insertUser_ok.mp inserted
        refine ⟨rfl, ?_⟩
        rw [openAccount, blank]
        exact Action.bind_of_ok (Action.orFail_ok.mpr wrote)
      · apply Or.inl
        refine ⟨.store e, ?_⟩
        rw [openAccount, blank]
        exact Action.bind_of_error (Action.orFail_of_error failed)

theorem openAccount_touches (loginName : String) : Touches [.users] (openAccount loginName) := by
  unfold openAccount
  split
  next => exact .throw _
  next => exact ((Touches.write fun s a s' => Store.insertUser_frame).orFail _).bind fun id => .pure _

theorem findMember_touches (firstName lastName email : String) :
    Touches [] (findMember firstName lastName email) :=
  (fieldNumber_touches _).bind fun _ => (fieldNumber_touches _).bind fun _ =>
    (Touches.read _).orFail _

theorem findMember_ok {firstName lastName email : String}
    (h : findMember firstName lastName email d = .ok id d') :
    ∃ a b d₁ d₂, fieldNumber ProfileField.firstName.name d = .ok a d₁ ∧
      fieldNumber ProfileField.lastName.name d₁ = .ok b d₂ ∧
      d.store.memberMatching memberRole (trim email) a (trim firstName) b (trim lastName) =
        .ok id := by
  obtain ⟨a, d₁, first, h⟩ := Action.bind_ok.mp h
  obtain ⟨b, d₂, last, h⟩ := Action.bind_ok.mp h
  obtain ⟨_, found, _⟩ := Action.read_ok.mp (Action.orFail_ok.mp h)
  have same := ((fieldNumber_touches _).of_ok first).trans ((fieldNumber_touches _).of_ok last)
  rw [same.store.eq] at found
  exact ⟨a, b, d₁, d₂, first, last, found⟩

theorem findMember_succeeds (h : d.Installed) (firstName lastName email : String) :
    ∃ id d', findMember firstName lastName email d = .ok id d' := by
  obtain ⟨a, d₁, first, _⟩ := fieldNumber_succeeds h ProfileField.firstName_defined
  have h₁ := h.of_frame ((fieldNumber_touches _).of_ok first)
  obtain ⟨b, d₂, last, _⟩ := fieldNumber_succeeds h₁ ProfileField.lastName_defined
  have h₂ := h₁.of_frame ((fieldNumber_touches _).of_ok last)
  obtain ⟨id, found⟩ : ∃ id, d₂.store.memberMatching memberRole (trim email) a (trim firstName) b
      (trim lastName) = .ok id :=
    ⟨_, by
      unfold Store.memberMatching Store.require
      rw [h₂.has, h₂.has, h₂.has, h₂.has]
      rfl⟩
  refine ⟨id, d₂, (Action.bind_of_ok first).trans ((Action.bind_of_ok last).trans ?_)⟩
  exact Action.orFail_ok.mpr (Action.read_ok.mpr ⟨h₂.connected, found, rfl⟩)

theorem membership?_touches (userId : Int) : Touches [] (membership? userId) :=
  (roleNumber_touches _).bind fun _ => (Touches.read _).orFail _

theorem membership?_ok {o : Option (Int × Member)} :
    membership? userId d = .ok o d' ↔ d.connected = true ∧ d.store.has .members = true ∧
      (∃ roleId, d.store.roleId? memberRole = .ok (some roleId) ∧
        d.store.members.first? (Store.isMembership userId roleId) = o) ∧ d' = d := by
  unfold membership?
  rw [Action.bind_ok]
  constructor
  · rintro ⟨roleId, mid, number, read⟩
    obtain ⟨connected, looked, rfl⟩ := roleNumber_ok.mp number
    obtain ⟨_, found, rfl⟩ := Action.read_ok.mp (Action.orFail_ok.mp read)
    obtain ⟨has, first⟩ := Store.member?_ok.mp found
    exact ⟨connected, has, ⟨roleId, looked, first⟩, rfl⟩
  · rintro ⟨connected, has, ⟨roleId, looked, first⟩, rfl⟩
    exact ⟨roleId, d', roleNumber_ok.mpr ⟨connected, looked, rfl⟩, Action.orFail_ok.mpr
      (Action.read_ok.mpr ⟨connected, Store.member?_ok.mpr ⟨has, first⟩, rfl⟩)⟩

theorem membership?_eq (h : d.Installed) (userId : Int) :
    membership? userId d =
      .ok (d.store.members.first? (Store.isMembership userId memberRoleId)) d :=
  membership?_ok.mpr ⟨h.connected, h.has .members, ⟨memberRoleId, h.roleId?, rfl⟩, rfl⟩

theorem extend_touches (userId : Int) (ends : Instant) : Touches [.members] (extend userId ends) :=
  ((roleNumber_touches _).mono (List.nil_subset _)).bind fun _ =>
    (Touches.write fun _ _ _ => Store.setEnd_frame).orFail _

theorem extend_ok {ends : Instant} {n : Nat} (ok : extend userId ends d = .ok n d') :
    ∃ roleId, d.store.roleId? memberRole = .ok (some roleId) ∧
      d' = { d with store := { d.store with members := d.store.withEnd userId roleId ends } } := by
  obtain ⟨roleId, mid, number, wrote⟩ := Action.bind_ok.mp ok
  obtain ⟨_, looked, rfl⟩ := roleNumber_ok.mp number
  obtain ⟨_, s', set, rfl⟩ := Action.write_ok.mp (Action.orFail_ok.mp wrote)
  obtain ⟨_, _, rfl⟩ := Store.setEnd_ok.mp set
  exact ⟨roleId, looked, rfl⟩

theorem extend_eq (h : d.Installed) (userId : Int) (ends : Instant) :
    extend userId ends d =
      .ok (d.store.members.count fun _ => Store.isMembership userId memberRoleId)
        { d with store := { d.store with members := d.store.withEnd userId memberRoleId ends } } :=
  (Action.bind_of_ok (roleNumber_member h)).trans (Action.orFail_ok.mpr (Action.write_ok.mpr
    ⟨h.connected, _, Store.setEnd_ok.mpr ⟨h.has .members, rfl, rfl⟩, rfl⟩))

theorem enrol_touches (userId : Int) (role : String) (begins ends : Instant) :
    Touches [.members] (enrol userId role begins ends) :=
  ((roleNumber_touches _).mono (List.nil_subset _)).bind fun _ =>
    ((Touches.write fun _ _ _ => Store.insertMember_frame).orFail _).bind fun _ => .pure _

theorem enrol_ok {role : String} {begins ends : Instant} {row : Int × Member}
    (ok : enrol userId role begins ends d = .ok row d') :
    ∃ roleId, d.store.roleId? role = .ok (some roleId) ∧
      row = (d.store.members.nextId, ⟨userId, roleId, begins, ends, some approved⟩) ∧
      d' = { d with store := { d.store with members := d.store.members.insert row.2 } } := by
  obtain ⟨roleId, mid, number, rest⟩ := Action.bind_ok.mp ok
  obtain ⟨_, looked, rfl⟩ := roleNumber_ok.mp number
  obtain ⟨id, after, wrote, done⟩ := Action.bind_ok.mp rest
  obtain ⟨_, s', inserted, rfl⟩ := Action.write_ok.mp (Action.orFail_ok.mp wrote)
  obtain ⟨_, _, rfl, rfl⟩ := Store.insertMember_ok.mp inserted
  obtain ⟨rfl, rfl⟩ := Action.pure_ok.mp done
  exact ⟨roleId, looked, rfl, rfl⟩

/-- A new membership in the role of those who pay. -/
def paidMember (userId : Int) (begins ends : Instant) : Member :=
  ⟨userId, memberRoleId, begins, ends, some approved⟩

theorem enrol_eq (h : d.Installed) (user : d.store.users.contains userId = true)
    (begins ends : Instant) :
    enrol userId memberRole begins ends d =
      .ok (d.store.members.nextId, paidMember userId begins ends)
        { d with store := { d.store with
          members := d.store.members.insert (paidMember userId begins ends) } } := by
  refine (Action.bind_of_ok (roleNumber_member h)).trans ((Action.bind_of_ok ?_).trans rfl)
  exact Action.orFail_ok.mpr (Action.write_ok.mpr ⟨h.connected, _, Store.insertMember_ok.mpr
    ⟨h.has .members, ⟨user, Store.contains_of_roleId? h.roleId?⟩, rfl, rfl⟩, rfl⟩)

theorem written_ok {r : Except StoreError Store} {u : Unit} {s' : Store} :
    r.map ((), ·) = .ok (u, s') ↔ r = .ok s' := by
  cases r with
  | error e => exact ⟨fun h => (nomatch h), fun h => (nomatch h)⟩
  | ok s =>
      constructor
      · intro h
        cases h
        rfl
      · intro h
        cases h
        rfl

theorem write_succeeds {f : Store → Except StoreError Store} {s' : Store}
    (connected : d.connected = true) (h : f d.store = .ok s') :
    ((Action.write fun s => (f s).map ((), ·)).orFail RegisterError.store) d =
      .ok () { d with store := s' } :=
  Action.orFail_ok.mpr (Action.write_ok.mpr ⟨connected, s', written_ok.mpr h, rfl⟩)

theorem setValue_touches {t : ValueType} (field : ProfileField t) (userId : Int) (value : t.Value) :
    Touches [.values] (setValue field userId value) := by
  refine ((fieldNumber_touches _).mono (List.nil_subset _)).bind fun fieldId => ?_
  refine ((Touches.read _).orFail _).bind fun o => ?_
  cases o with
  | some row =>
      exact (Touches.write fun _ _ _ h => Store.updateValue_frame (written_ok.mp h)).orFail _
  | none =>
      exact (Touches.write fun _ _ _ h => Store.insertValue_frame (written_ok.mp h)).orFail _

/-- A value of a defined field can be kept for everyone who has an account. -/
theorem setValue_succeeds (h : d.Installed) {t : ValueType} {field : ProfileField t}
    (defined : field.Defined) (user : d.store.users.contains userId = true) (value : t.Value) :
    ∃ d', setValue field userId value d = .ok () d' := by
  obtain ⟨fieldId, mid, number, inUse⟩ := fieldNumber_succeeds h defined
  have frame := (fieldNumber_touches _).of_ok number
  have h' := h.of_frame frame
  rw [← frame.store.eq] at user inUse
  have read : ((Action.read fun s => s.value? userId fieldId).orFail RegisterError.store) mid =
      .ok (mid.store.values.first? fun v => v.userId == userId && v.fieldId == fieldId) mid :=
    Action.orFail_ok.mpr (Action.read_ok.mpr
      ⟨h'.connected, Store.value?_ok.mpr ⟨h'.has .values, rfl⟩, rfl⟩)
  cases found : mid.store.values.first? fun v => v.userId == userId && v.fieldId == fieldId with
  | some row =>
      rw [found] at read
      have wrote := write_succeeds (f := fun s => s.updateValue row.1 (t.encode value)) h'.connected
        (Store.updateValue_ok.mpr ⟨h'.has .values, rfl⟩)
      exact ⟨_, (Action.bind_of_ok number).trans ((Action.bind_of_ok read).trans wrote)⟩
  | none =>
      rw [found] at read
      -- the pair is free, as a row with it would have been found
      have free : ∀ i r, mid.store.values.find? i = some r →
          ¬ (r.userId = userId ∧ r.fieldId = fieldId) := by
        rintro i r at_i ⟨sameUser, sameField⟩
        have apart := Store.Table.first?_eq_none.mp found i r at_i
        simp [sameUser, sameField] at apart
      have wrote := write_succeeds
        (f := fun s => s.insertValue ⟨userId, fieldId, t.encode value⟩) h'.connected
        (Store.insertValue_ok.mpr ⟨h'.has .values, free, ⟨user, inUse⟩, rfl⟩)
      exact ⟨_, (Action.bind_of_ok number).trans ((Action.bind_of_ok read).trans wrote)⟩

end Register

end Dues
