import Dues.Proofs.Purchase.Matching
import Dues.Purchase.Fulfilment

/-! # What a person is provided with

A person who is provided for has an account and a membership until the end of the year that was
paid. Each is either there before, or new and then the last row of its table. Nothing else among the
accounts and members changes.
-/

namespace Dues

open Store (Table TableName)
open Dues.Register
open Dues.Text (trim isBlankText sameIgnoringCase)
open Dues.Time (Instant)

theorem Text.sameIgnoringCase_iff {a b : String} :
    sameIgnoringCase a b = true ↔ foldAscii a = foldAscii b := beq_iff_eq

/-- The account for a login name, and the accounts once it is open. -/
inductive Store.Account (s : Store) (login : String) (userId : Int) : Table User → Prop
  | existing (user : User) (account : s.users.find? userId = some user)
      (named : sameIgnoringCase user.loginName login = true) : s.Account login userId s.users
  | opened (id : userId = s.users.nextId)
      (free : ∀ i user, s.users.find? i = some user →
        sameIgnoringCase user.loginName login = false)
      (filled : isBlankText login = false) :
      s.Account login userId (s.users.insert ⟨login, lockedPassword, true⟩)

/-- The members once a user is paid up until `ends`. -/
inductive Store.PaidUp (s : Store) (userId : Int) (now ends : Instant) : Table Member → Prop
  | extended (isMember : s.IsMember userId) :
      s.PaidUp userId now ends (s.withEnd userId memberRoleId ends)
  | enrolled (new : ¬ s.IsMember userId) :
      s.PaidUp userId now ends (s.members.insert (paidMember userId now ends))

/-- The account and the membership of a person who is provided for. A person who is found for
`known` keeps that account. -/
structure Store.Provided (s s' : Store) (login : String) (known userId : Int)
    (now ends : Instant) : Prop where
  users : (0 < known ∧ userId = known ∧ s'.users = s.users) ∨
    (known ≤ 0 ∧ s.Account login userId s'.users)
  members : s.PaidUp userId now ends s'.members

namespace Store

variable {s s' : Store} {login : String} {userId i : Int} {now ends : Instant} {m : Member}
  {users : Table User} {members : Table Member}

theorem Account.contains (h : s.Account login userId users) : users.contains userId = true := by
  rw [Table.contains_eq_true]
  cases h with
  | existing user account => exact ⟨user, account⟩
  | opened id => exact ⟨_, by rw [Table.find?_insert, if_pos id]⟩

theorem Account.find?_of_some (h : s.Account login userId users) {user : User}
    (account : s.users.find? i = some user) : users.find? i = some user := by
  cases h with
  | existing => exact account
  | opened => exact Table.find?_insert_of_some _ account

theorem Account.rows (h : s.Account login userId users) {user : User}
    (row : users.find? i = some user) : s.users.find? i = some user ∨
      i = userId ∧ user.loginName = login ∧ isBlankText login = false ∧
        ∀ j old, s.users.find? j = some old → sameIgnoringCase old.loginName login = false := by
  cases h with
  | existing => exact .inl row
  | opened id free filled =>
      rw [Table.find?_insert, ← id] at row
      split at row
      next same =>
        cases row
        exact .inr ⟨same, rfl, filled, free⟩
      next => exact .inl row

theorem Account.loginsDiffer (h : s.Account login userId users) (differ : LoginsDiffer s.users) :
    LoginsDiffer users := by
  intro i j u v rowᵢ rowⱼ same
  rw [Text.sameIgnoringCase_iff] at same
  rcases h.rows rowᵢ with oldᵢ | ⟨rfl, named, _, free⟩
  · rcases h.rows rowⱼ with oldⱼ | ⟨rfl, named, _, free⟩
    · exact differ i j u v oldᵢ oldⱼ (Text.sameIgnoringCase_iff.mpr same)
    · have taken := Text.sameIgnoringCase_iff.mpr (named ▸ same)
      rw [free i u oldᵢ] at taken
      cases taken
  · rcases h.rows rowⱼ with oldⱼ | ⟨rfl, _⟩
    · have taken := Text.sameIgnoringCase_iff.mpr (named ▸ same.symm)
      rw [free j v oldⱼ] at taken
      cases taken
    · rfl

theorem PaidUp.congr (h : s'.PaidUp userId now ends members) (same : s'.members = s.members) :
    s.PaidUp userId now ends members := by
  cases h with
  | extended isMember =>
      rw [withEnd, same]
      exact .extended ((isMember_congr same userId).mp isMember)
  | enrolled new =>
      rw [same]
      exact .enrolled (mt (isMember_congr same userId).mpr new)

/-- The row of a member behind payments for `payers`. -/
def paidRow (payers : List Int) (ends : Instant) (m : Member) : Member :=
  if m.roleId = memberRoleId ∧ m.userId ∈ payers then { m with ends } else m

/-- All of `payers` have paid for the time until `ends`, and nobody else has. -/
structure PaidFor (payers : List Int) (ends : Instant) (s s' : Store) : Prop where
  rows : ∀ i m, s.members.find? i = some m → s'.members.find? i = some (paidRow payers ends m)
  enrolled : ∀ i m, s'.members.find? i = some m → s.members.find? i = none →
    m.roleId = memberRoleId ∧ m.userId ∈ payers ∧ m.ends = ends
  members : ∀ u ∈ payers, s'.IsMember u

variable {payers others : List Int}

theorem paidRow_userId : (paidRow payers ends m).userId = m.userId := by
  unfold paidRow
  split <;> rfl

theorem paidRow_roleId : (paidRow payers ends m).roleId = m.roleId := by
  unfold paidRow
  split <;> rfl

theorem paidRow_append : paidRow (payers ++ others) ends m =
    paidRow others ends (paidRow payers ends m) := by
  by_cases role : m.roleId = memberRoleId
  · by_cases first : m.userId ∈ payers
    · by_cases second : m.userId ∈ others <;> simp [paidRow, role, first, second]
    · by_cases second : m.userId ∈ others <;> simp [paidRow, role, first, second]
  · simp [paidRow, role]

namespace PaidFor

theorem refl (same : s'.members = s.members) : PaidFor [] ends s s' where
  rows i m row := by
    rw [same, row, paidRow, if_neg fun h => nomatch h.2]
  enrolled i m row new := by
    rw [same, new] at row
    cases row
  members u mem := nomatch mem

theorem isMember_of_isMember (h : PaidFor payers ends s s') {u : Int} (old : s.IsMember u) :
    s'.IsMember u := by
  obtain ⟨i, m, row, own⟩ := old
  obtain ⟨user, role⟩ := isMembership_eq_true.mp own
  exact ⟨i, _, h.rows i m row, isMembership_eq_true.mpr
    ⟨paidRow_userId.trans user, paidRow_roleId.trans role⟩⟩

theorem trans {s'' : Store} (h : PaidFor payers ends s s') (h' : PaidFor others ends s' s'') :
    PaidFor (payers ++ others) ends s s'' where
  rows i m row := by
    rw [paidRow_append]
    exact h'.rows i _ (h.rows i m row)
  enrolled i m row new := by
    cases between : s'.members.find? i with
    | none =>
        obtain ⟨role, payer, paid⟩ := h'.enrolled i m row between
        exact ⟨role, List.mem_append_right _ payer, paid⟩
    | some old =>
        obtain ⟨role, payer, paid⟩ := h.enrolled i old between new
        cases row.symm.trans (h'.rows i old between)
        refine ⟨paidRow_roleId.trans role, ?_, ?_⟩
        · rw [paidRow_userId]
          exact List.mem_append_left _ payer
        · unfold paidRow
          split
          next => rfl
          next => exact paid
  members u mem := by
    rcases List.mem_append.mp mem with mem | mem
    · exact h'.isMember_of_isMember (h.members u mem)
    · exact h'.members u mem

theorem ends_eq (h : PaidFor payers ends s s') (row : s'.members.find? i = some m)
    (role : m.roleId = memberRoleId) (payer : m.userId ∈ payers) : m.ends = ends := by
  cases before : s.members.find? i with
  | none => exact (h.enrolled i m row before).2.2
  | some old =>
      cases row.symm.trans (h.rows i old before)
      rw [paidRow_roleId] at role
      rw [paidRow_userId] at payer
      rw [paidRow, if_pos ⟨role, payer⟩]

theorem congr {s'' : Store} (h : PaidFor payers ends s s') (same : s''.members = s'.members) :
    PaidFor payers ends s s'' := by
  have both := h.trans (refl same : PaidFor [] ends s' s'')
  rwa [List.append_nil] at both

end PaidFor

theorem find?_withEnd : (s.withEnd userId memberRoleId ends).find? i =
    (s.members.find? i).map (paidRow [userId] ends) := by
  rw [withEnd, Table.find?_update]
  congr 1
  funext m
  simp only [paidRow, isMembership_eq_true, List.mem_singleton, and_comm]

theorem PaidUp.paidFor (h : s.PaidUp userId now ends s'.members) : PaidFor [userId] ends s s' := by
  generalize after : s'.members = t at h
  cases h with
  | extended isMember =>
      obtain ⟨i, m, row, own⟩ := isMember
      obtain ⟨user, role⟩ := isMembership_eq_true.mp own
      refine ⟨fun j old found => ?_, fun j m' found new => ?_, fun u mem => ?_⟩
      · rw [after, find?_withEnd, found, Option.map_some]
      · rw [after, find?_withEnd, new] at found
        cases found
      · obtain rfl := List.mem_singleton.mp mem
        refine ⟨i, paidRow [u] ends m, ?_, isMembership_eq_true.mpr
          ⟨paidRow_userId.trans user, paidRow_roleId.trans role⟩⟩
        rw [after, find?_withEnd, row, Option.map_some]
  | enrolled new =>
      refine ⟨fun j old found => ?_, fun j m' found fresh => ?_, fun u mem => ?_⟩
      · have apart : ¬ (old.roleId = memberRoleId ∧ old.userId ∈ [userId]) := by
          rintro ⟨role, user⟩
          exact new ⟨j, old, found, isMembership_eq_true.mpr ⟨List.mem_singleton.mp user, role⟩⟩
        rw [after, Table.find?_insert_of_some _ found, paidRow, if_neg apart]
      · rw [after, Table.find?_insert, fresh] at found
        split at found
        next =>
          cases found
          exact ⟨rfl, List.mem_singleton_self _, rfl⟩
        next => cases found
      · obtain rfl := List.mem_singleton.mp mem
        refine ⟨s.members.nextId, paidMember u now ends, ?_,
          isMembership_eq_true.mpr ⟨rfl, rfl⟩⟩
        rw [after, Table.find?_insert, if_pos rfl]

end Store

namespace Fulfilment

open Dues.Action (Touches)

variable {d d' : Desk} {userId known : Int}

theorem accountNumber_touches (loginName : String) : Touches [.users] (accountNumber loginName) := by
  refine ((Touches.read _).orFail _).bind fun accounts => ?_
  cases accounts with
  | nil => exact (openAccount_touches _).bind fun _ => .pure _
  | cons account rest => exact .pure _

theorem accountsNamed_eq (h : d.Installed) (loginName : String) :
    accountsNamed loginName d =
      .ok (d.store.users.select fun u => sameIgnoringCase u.loginName loginName) d :=
  accountsNamed_ok.mpr ⟨h.connected, h.has .users, rfl, rfl⟩

theorem accountNumber_cases (loginName : String) (d : Desk) :
    (∃ e, accountNumber loginName d = .error e d) ∨
      ∃ userId users, d.store.Account loginName userId users ∧
        accountNumber loginName d = .ok userId { d with store := { d.store with users } } := by
  rcases Action.read_cases (fun s => s.usersNamed loginName) d with
    ⟨accounts, named, read⟩ | ⟨e, failed, _⟩
  · have found : accountsNamed loginName d = .ok accounts d := Action.orFail_ok.mpr read
    obtain ⟨_, _, chosen, _⟩ := accountsNamed_ok.mp found
    cases accounts with
    | cons account rest =>
        obtain ⟨row, same⟩ := Table.mem_select.mp (chosen ▸ List.mem_cons_self)
        exact .inr ⟨account.1, d.store.users, .existing account.2 row same, Action.bind_of_ok found⟩
    | nil =>
        have free := Table.select_eq_nil.mp chosen
        rcases openAccount_cases loginName d with ⟨e, failed⟩ | ⟨filled, opened⟩
        · exact .inl ⟨e, (Action.bind_of_ok found).trans (Action.bind_of_error failed)⟩
        · exact .inr ⟨_, _, .opened rfl free filled,
            (Action.bind_of_ok found).trans (Action.bind_of_ok opened)⟩
  · exact .inl ⟨_, Action.bind_of_error (Action.orFail_of_error failed)⟩

theorem accountNumber_ok {loginName : String} (ok : accountNumber loginName d = .ok userId d') :
    d.store.Account loginName userId d'.store.users := by
  rcases accountNumber_cases loginName d with ⟨e, failed⟩ | ⟨id, users, account, found⟩
  · cases failed.symm.trans ok
  · cases found.symm.trans ok
    exact account

/-- A login name that is not blank always leads to an account: what no account has up to case, none
has exactly. -/
theorem accountNumber_succeeds (h : d.Installed) {loginName : String}
    (filled : isBlankText loginName = false) :
    ∃ userId d', accountNumber loginName d = .ok userId d' := by
  have named := accountsNamed_eq h loginName
  cases chosen : d.store.users.select fun u => sameIgnoringCase u.loginName loginName with
  | cons account rest =>
      rw [chosen] at named
      exact ⟨account.1, d, Action.bind_of_ok named⟩
  | nil =>
      rw [chosen] at named
      have free : ∀ i u, d.store.users.find? i = some u → u.loginName ≠ loginName := by
        intro i u found same
        have apart := Table.select_eq_nil.mp chosen i u found
        rw [same, sameIgnoringCase, beq_self_eq_true] at apart
        cases apart
      have opened := openAccount_ok.mpr ⟨filled, h.connected, _, _,
        Store.insertUser_ok.mpr ⟨h.has .users, free, rfl, rfl⟩, rfl, rfl⟩
      exact ⟨_, _, (Action.bind_of_ok named).trans (Action.bind_of_ok opened)⟩

theorem describe_touches (userId : Int) (person : Participant) :
    Touches [.values] (describe userId person) := by
  refine (setValue_touches _ _ _).bind fun _ => (setValue_touches _ _ _).bind fun _ => ?_
  split
  next => exact setValue_touches _ _ _
  next => exact .pure _

theorem describe_succeeds (h : d.Installed) (user : d.store.users.contains userId = true)
    (person : Participant) : ∃ d', describe userId person d = .ok () d' := by
  obtain ⟨d₁, first⟩ := setValue_succeeds h ProfileField.firstName_defined user person.firstName
  have frame₁ := (setValue_touches _ _ _).of_ok first
  have h₁ := h.of_frame frame₁
  rw [← frame₁.store.users (by simp)] at user
  obtain ⟨d₂, last⟩ := setValue_succeeds h₁ ProfileField.lastName_defined user person.lastName
  have frame₂ := (setValue_touches _ _ _).of_ok last
  have h₂ := h₁.of_frame frame₂
  rw [← frame₂.store.users (by simp)] at user
  obtain ⟨d₃, email⟩ := setValue_succeeds h₂ ProfileField.email_defined user (trim person.email)
  cases blank : isBlankText person.email with
  | true =>
      refine ⟨d₂, (Action.bind_of_ok first).trans ((Action.bind_of_ok last).trans ?_)⟩
      rw [blank]
      rfl
  | false =>
      refine ⟨d₃, (Action.bind_of_ok first).trans ((Action.bind_of_ok last).trans ?_)⟩
      rw [blank]
      exact email

theorem provide_touches (person : Participant) (known : Int) (loginName : String) (now : Instant)
    (year : Int) : Touches [.users, .members, .values] (provide person known loginName now year) := by
  unfold provide
  dsimp only
  split
  next => exact ((extend_touches _ _).mono (by decide)).bind fun _ => .pure _
  next =>
    refine ((accountNumber_touches _).mono (by decide)).bind fun userId => ?_
    refine ((membership?_touches _).mono (by decide)).bind fun m => ?_
    have described : Touches [.users, .members, .values]
        (describe userId person >>= fun _ => pure userId) :=
      ((describe_touches userId person).mono (by decide)).bind fun _ => .pure userId
    cases m with
    | some row => exact ((extend_touches _ _).mono (by decide)).bind fun _ => described
    | none => exact ((enrol_touches _ _ _ _).mono (by decide)).bind fun _ => described

/-- Renewing the membership of a user or entering a new one, with whatever is done next. -/
theorem membership_then (h : d.Installed) (user : d.store.users.contains userId = true)
    (now ends : Instant) {α : Type} (rest : Action RegisterError α) :
    ∃ members, d.store.PaidUp userId now ends members ∧
      (membership? userId >>= fun
        | some _ => extend userId ends >>= fun _ => rest
        | none => enrol userId memberRole now ends >>= fun _ => rest) d =
          rest { d with store := { d.store with members } } := by
  have looked := membership?_eq h userId
  cases found : d.store.members.first? (Store.isMembership userId memberRoleId) with
  | some row =>
      rw [found] at looked
      obtain ⟨at_row, own⟩ := Table.first?_eq_some found
      exact ⟨_, .extended ⟨row.1, row.2, at_row, own⟩,
        (Action.bind_of_ok looked).trans (Action.bind_of_ok (extend_eq h userId ends))⟩
  | none =>
      rw [found] at looked
      have new : ¬ d.store.IsMember userId := by
        rintro ⟨i, m, row, own⟩
        exact nomatch own.symm.trans (Table.first?_eq_none.mp found i m row)
      exact ⟨_, .enrolled new,
        (Action.bind_of_ok looked).trans (Action.bind_of_ok (enrol_eq h user now ends))⟩

variable {person : Participant} {loginName : String} {now : Instant} {year : Int}

/-- Whoever is known has their memberships extended, and that is all. -/
theorem provide_known (h : d.Installed) (found : 0 < known) :
    provide person known loginName now year d = .ok known { d with store := { d.store with
      members := d.store.withEnd known memberRoleId (Time.MembershipYear.ends year) } } := by
  unfold provide
  rw [if_pos found]
  exact Action.bind_of_ok (extend_eq h _ _)

/-- Whoever has an account by then is paid up, and described last. -/
theorem provide_account {mid : Desk} (unknown : ¬ 0 < known)
    (account : accountNumber loginName d = .ok userId mid) (h : mid.Installed)
    (user : mid.store.users.contains userId = true) :
    ∃ members, mid.store.PaidUp userId now (Time.MembershipYear.ends year) members ∧
      provide person known loginName now year d =
        (describe userId person >>= fun _ => pure userId)
          { mid with store := { mid.store with members } } := by
  obtain ⟨members, paid, rest⟩ := membership_then h user now (Time.MembershipYear.ends year)
    (describe userId person >>= fun _ => pure userId)
  refine ⟨members, paid, ?_⟩
  unfold provide
  rw [if_neg unknown]
  exact (Action.bind_of_ok account).trans rest

theorem provide_of_error {mid : Desk} {e : RegisterError} (unknown : ¬ 0 < known)
    (failed : accountNumber loginName d = .error e mid) :
    provide person known loginName now year d = .error e mid := by
  unfold provide
  rw [if_neg unknown]
  exact Action.bind_of_error failed

theorem provide_ok (h : d.Installed) (isMember : 0 < known → d.store.IsMember known)
    (ok : provide person known loginName now year d = .ok userId d') :
    d.store.Provided d'.store loginName known userId now (Time.MembershipYear.ends year) := by
  by_cases found : 0 < known
  · cases (provide_known h found).symm.trans ok
    exact ⟨.inl ⟨found, rfl, rfl⟩, .extended (isMember found)⟩
  · cases account : accountNumber loginName d with
    | error e mid => cases (provide_of_error found account).symm.trans ok
    | ok id mid =>
        have opened := accountNumber_ok account
        have frame := (accountNumber_touches _).of_ok account
        obtain ⟨members, paid, run⟩ := provide_account found account (h.of_frame frame)
          opened.contains
        obtain ⟨_, _, described, ok⟩ := Action.bind_ok.mp (run.symm.trans ok)
        obtain ⟨rfl, rfl⟩ := Action.pure_ok.mp ok
        have noted := (describe_touches _ _).of_ok described
        refine ⟨.inr ⟨Int.not_lt.mp found, ?_⟩, ?_⟩
        · rw [noted.store.users (by simp)]
          exact opened
        · rw [noted.store.members (by simp)]
          exact paid.congr (frame.store.members (by simp))

theorem provide_succeeds (h : d.Installed) (person : Participant) (known : Int)
    (loginName : String) (now : Instant) (year : Int)
    (filled : known ≤ 0 → isBlankText loginName = false) :
    ∃ userId d', provide person known loginName now year d = .ok userId d' := by
  by_cases found : 0 < known
  · exact ⟨known, _, provide_known h found⟩
  · obtain ⟨id, mid, account⟩ := accountNumber_succeeds h (filled (Int.not_lt.mp found))
    have opened := accountNumber_ok account
    have h₁ := h.of_frame ((accountNumber_touches _).of_ok account)
    obtain ⟨members, paid, run⟩ := provide_account found account h₁ opened.contains
    obtain ⟨d₂, described⟩ := describe_succeeds (h₁.with_people _ members) opened.contains person
    exact ⟨id, d₂, run.trans (Action.bind_of_ok described)⟩

end Fulfilment

end Dues
