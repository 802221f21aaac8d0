import Mathlib.Data.Finset.Dedup
import Mathlib.Data.Finset.Card
import Dues.Proofs.Purchase.Completion
import Dues.Proofs.Purchase.Footprint
import Dues.Proofs.Purchase.WellFormed

/-! # Who is new

A sale says whether its primary person joined or renewed. One search decides about that, among the
members; whether an account is opened and whether anyone is enrolled is decided by two others. They
agree wherever the store is as the definitions of its tables ask for: role names differ, and
memberships belong to accounts. Several accounts may have the same login name but for case, an
associate may come out with the account of the primary person, and whoever is a member may be one
more than once.
-/

namespace Dues

open Dues.Register
open Dues.Text (trim foldAscii sameIgnoringCase)
open Dues.Time (Instant)
open Store (Table TableName)

/-- Those of a list who are not known yet, each of them once. -/
def newcomers {α : Type} [DecidableEq α] (known : List α) : List α → List α
  | [] => []
  | a :: as => if a ∈ known then newcomers known as else a :: newcomers (known ++ [a]) as

section newcomers

variable {α : Type} [DecidableEq α] {known as bs : List α} {a b : α}

theorem newcomers_append : newcomers known (as ++ bs) =
    newcomers known as ++ newcomers (known ++ newcomers known as) bs := by
  induction as generalizing known with
  | nil => rw [newcomers, List.nil_append, List.nil_append, List.append_nil]
  | cons a as ih =>
      rw [List.cons_append, newcomers, newcomers]
      split
      next => exact ih
      next => rw [ih, List.cons_append, List.append_assoc, List.singleton_append]

theorem mem_newcomers : b ∈ newcomers known as ↔ b ∈ as ∧ b ∉ known := by
  induction as generalizing known with
  | nil => simp [newcomers]
  | cons a as ih =>
      rw [newcomers]
      split
      next seen =>
        rw [ih, List.mem_cons]
        refine ⟨fun ⟨mem, new⟩ => ⟨.inr mem, new⟩, fun ⟨mem, new⟩ => ⟨?_, new⟩⟩
        exact mem.resolve_left fun same => new (same ▸ seen)
      next new =>
        rw [List.mem_cons, List.mem_cons, ih, List.mem_append, List.mem_singleton, not_or]
        by_cases same : b = a
        · simp [same, new]
        · simp [same]

theorem nodup_newcomers : (newcomers known as).Nodup := by
  induction as generalizing known with
  | nil => exact List.nodup_nil
  | cons a as ih =>
      rw [newcomers]
      split
      next => exact ih
      next =>
        refine List.nodup_cons.mpr ⟨fun again => ?_, ih⟩
        exact (mem_newcomers.mp again).2 (List.mem_append_right _ List.mem_cons_self)

/-- There are as many newcomers as there are different ones that are not known. -/
theorem length_newcomers : (newcomers known as).length = (as.toFinset \ known.toFinset).card := by
  rw [← List.toFinset_card_of_nodup nodup_newcomers]
  congr 1
  ext b
  simp only [List.mem_toFinset, mem_newcomers, Finset.mem_sdiff]

theorem newcomers_singleton_of_mem (seen : a ∈ known) : newcomers known [a] = [] := if_pos seen

theorem newcomers_singleton_of_notMem (new : a ∉ known) : newcomers known [a] = [a] := if_neg new

end newcomers

/-- What there is to a membership apart from its time. -/
structure Enrolment where
  id : Int
  userId : Int
  roleId : Int
  deriving DecidableEq

namespace Store

variable {s s' s'' : Store} {users users' : List Int} {logins' : List String} {userId roleId : Int}

/-- Whether the memberships belong to accounts, as the definition of the table asks for. -/
def MembersOwned (s : Store) : Prop := ∀ row ∈ s.members.rows, s.users.contains row.2.userId = true

theorem WellFormed.membersOwned (h : s.WellFormed) : s.MembersOwned := fun row mem =>
  Table.contains_eq_true.mpr (h.memberOwners row.1 row.2 (Table.find?_eq_some.mpr mem))

instance (s : Store) (name : String) (userId : Int) : Decidable (s.HoldsRole name userId) :=
  decidable_of_iff _ any_members

def enrolments (s : Store) : List Enrolment :=
  s.members.rows.map fun row => ⟨row.1, row.2.userId, row.2.roleId⟩

/-- The login names that are taken, whatever their case. -/
def logins (s : Store) : List String := s.users.rows.map fun row => foldAscii row.2.loginName

/-- Those who are enrolled in the role of those who pay, as often as they are. -/
def payers (s : Store) : List Int :=
  (s.enrolments.filter fun e => s.roles.rows.any fun role =>
    role.1 == e.roleId && role.2.name == memberRole).map Enrolment.userId

theorem mem_payers : userId ∈ s.payers ↔ s.HoldsRole memberRole userId := by
  simp only [payers, enrolments, List.mem_map, List.mem_filter, any_roles, HoldsRole,
    Table.find?_eq_some]
  constructor
  · rintro ⟨_, ⟨⟨row, mem, rfl⟩, role⟩, rfl⟩
    exact ⟨row.1, row.2, mem, rfl, role⟩
  · rintro ⟨i, m, mem, rfl, role⟩
    exact ⟨_, ⟨⟨(i, m), mem, rfl⟩, role⟩, rfl⟩

/-- How a store may become another one while `users` pay, for whom accounts with the login names
`names` are asked for: whoever is new is enrolled, and an account is opened under each name that is
new. -/
structure Enlists (s : Store) (users : List Int) (names : List String) (s' : Store) : Prop where
  roles : s'.roles = s.roles
  members : ∃ joined, s'.enrolments = s.enrolments ++ joined ∧
    (∀ e ∈ joined, s.RoleNamed memberRole e.roleId) ∧
    joined.map Enrolment.userId = newcomers s.payers users
  accounts : ∃ opened, s'.users.rows = s.users.rows ++ opened ∧
    opened.map (fun row => foldAscii row.2.loginName) = newcomers s.logins (names.map foldAscii)

namespace Enlists

variable {names names' : List String} {login : String}

theorem payers (h : Enlists s users names s') :
    s'.payers = s.payers ++ newcomers s.payers users := by
  obtain ⟨joined, rows, role, joiners⟩ := h.members
  have all : joined.filter (fun e => s.roles.rows.any fun role =>
      role.1 == e.roleId && role.2.name == memberRole) = joined :=
    List.filter_eq_self.mpr fun e mem => any_roles.mpr (role e mem)
  unfold Store.payers at joiners ⊢
  rw [h.roles, rows, List.filter_append, all, List.map_append, joiners]

theorem logins (h : Enlists s users names s') :
    s'.logins = s.logins ++ newcomers s.logins (names.map foldAscii) := by
  obtain ⟨opened, rows, named⟩ := h.accounts
  rw [← named, Store.logins, rows, List.map_append, Store.logins]

theorem of_same (roles : s'.roles = s.roles) (members : s'.enrolments = s.enrolments)
    (accounts : s'.users = s.users) : Enlists s [] [] s' where
  roles := roles
  members := ⟨[], by rw [members, List.append_nil], (fun _ mem => nomatch mem), rfl⟩
  accounts := ⟨[], by rw [accounts, List.append_nil], rfl⟩

theorem of_frame {ts : List TableName} (frame : s.Frame ts s') (accounts : .users ∉ ts)
    (members : .members ∉ ts) : Enlists s [] [] s' :=
  of_same frame.roles (by rw [enrolments, enrolments, frame.members members])
    (frame.users accounts)

theorem trans (h : Enlists s users names s') (h' : Enlists s' users' names' s'') :
    Enlists s (users ++ users') (names ++ names') s'' where
  roles := h'.roles.trans h.roles
  members := by
    obtain ⟨joined, rows, role, joiners⟩ := h.members
    obtain ⟨joined', rows', role', joiners'⟩ := h'.members
    refine ⟨joined ++ joined', by rw [rows', rows, List.append_assoc], fun e mem => ?_, ?_⟩
    · rcases List.mem_append.mp mem with mem | mem
      · exact role e mem
      · have named := role' e mem
        rwa [RoleNamed, h.roles] at named
    · rw [List.map_append, joiners, joiners', h.payers, newcomers_append]
  accounts := by
    obtain ⟨opened, rows, named⟩ := h.accounts
    obtain ⟨opened', rows', named'⟩ := h'.accounts
    refine ⟨opened ++ opened', by rw [rows', rows, List.append_assoc], ?_⟩
    rw [List.map_append, named, named', h.logins, List.map_append, newcomers_append]

theorem extended {ending : Instant} (holds : s.HoldsRole memberRole userId) :
    Enlists s [userId] [] { s with members := s.withEnd userId roleId ending } where
  roles := rfl
  members := by
    refine ⟨[], ?_, (fun _ mem => nomatch mem), ?_⟩
    · rw [List.append_nil]
      simp only [enrolments, withEnd, Table.update, List.map_map]
      refine List.map_congr_left fun row _ => ?_
      simp only [Function.comp_apply]
      split <;> rfl
    · exact (newcomers_singleton_of_mem (mem_payers.mpr holds)).symm
  accounts := ⟨[], (List.append_nil _).symm, rfl⟩

theorem enrolled {m : Member} (role : s.RoleNamed memberRole m.roleId)
    (new : ¬ s.HoldsRole memberRole m.userId) :
    Enlists s [m.userId] [] { s with members := s.members.insert m } where
  roles := rfl
  members := by
    refine ⟨[⟨s.members.nextId, m.userId, m.roleId⟩], ?_, fun e mem => ?_, ?_⟩
    · exact List.map_append
    · rwa [List.mem_singleton.mp mem]
    · exact (newcomers_singleton_of_notMem (mt mem_payers.mp new)).symm
  accounts := ⟨[], (List.append_nil _).symm, rfl⟩

theorem of_account (roles : s'.roles = s.roles) (members : s'.members = s.members)
    (account : s.Account login userId s'.users) : Enlists s [] [login] s' where
  roles := roles
  members := by
    refine ⟨[], ?_, (fun _ mem => nomatch mem), rfl⟩
    rw [enrolments, members, List.append_nil, enrolments]
  accounts := by
    generalize behind : s'.users = accounts at account
    cases account with
    | existing user row named =>
        have taken : foldAscii login ∈ s.logins := List.mem_map.mpr
          ⟨(userId, user), Table.find?_eq_some.mp row, Text.sameIgnoringCase_iff.mp named⟩
        refine ⟨[], (List.append_nil _).symm, ?_⟩
        exact (newcomers_singleton_of_mem taken).symm
    | opened id free =>
        have new : foldAscii login ∉ s.logins := by
          intro taken
          obtain ⟨row, mem, same⟩ := List.mem_map.mp taken
          have apart := free row.1 row.2 (Table.find?_eq_some.mpr mem)
          rw [Text.sameIgnoringCase_iff.mpr same] at apart
          cases apart
        refine ⟨[(s.users.nextId, ⟨login, lockedPassword, true⟩)], rfl, ?_⟩
        exact (newcomers_singleton_of_notMem new).symm

end Enlists

theorem holdsRole_congr {name : String} (roles : s'.roles = s.roles)
    (members : s'.members = s.members) : s'.HoldsRole name userId ↔ s.HoldsRole name userId := by
  unfold HoldsRole RoleNamed
  rw [roles, members]

theorem Account.new {login : String} {accounts : Table User}
    (account : s.Account login userId accounts) (owned : s.MembersOwned)
    (free : ∀ u user, s.users.find? u = some user →
      sameIgnoringCase user.loginName login = true → ¬ s.HoldsRole memberRole u) :
    ¬ s.HoldsRole memberRole userId := by
  cases account with
  | existing user row named => exact free userId user row named
  | opened id =>
      rintro ⟨i, m, row, rfl, _⟩
      obtain ⟨user, taken⟩ :=
        Table.contains_eq_true.mp (owned (i, m) (Table.find?_eq_some.mp row))
      dsimp only at taken
      rw [id, Table.find?_nextId] at taken
      cases taken

end Store

namespace Fulfilment

variable {d d' : Desk} {sale : Sale} {found : Matches} {now : Instant} {withAssociate : Bool}
  {known userId year : Int} {person : Participant} {loginName : String}

theorem membership_enlists (differ : d.store.RoleNamesDiffer) {ending : Instant} {α : Type}
    {rest : Action RegisterError α} {a : α}
    (ok : (membership? userId >>= fun
      | some _ => extend userId ending >>= fun _ => rest
      | none => enrol userId memberRole now ending >>= fun _ => rest) d = .ok a d') :
    ∃ mid, d.store.Enlists [userId] [] mid.store ∧ rest mid = .ok a d' := by
  obtain ⟨o, d₁, looked, ok⟩ := Action.bind_ok.mp ok
  obtain ⟨_, _, ⟨roleId, number, first⟩, rfl⟩ := membership?_ok.mp looked
  have role := Store.roleNamed_of_roleId? number
  cases o with
  | some row =>
      obtain ⟨n, mid, extended, done⟩ := Action.bind_ok.mp ok
      obtain ⟨_, _, rfl⟩ := extend_ok extended
      obtain ⟨at_row, own⟩ := Table.first?_eq_some first
      obtain ⟨user, same⟩ := Store.isMembership_eq_true.mp own
      exact ⟨_, .extended ⟨row.1, row.2, at_row, user, same ▸ role⟩, done⟩
  | none =>
      obtain ⟨row, mid, enrolled, done⟩ := Action.bind_ok.mp ok
      obtain ⟨roleId', number', rfl, rfl⟩ := enrol_ok enrolled
      cases number.symm.trans number'
      have new : ¬ d₁.store.HoldsRole memberRole userId := by
        rintro ⟨i, m, at_row, user, named⟩
        have apart := Table.first?_eq_none.mp first i m at_row
        rw [Store.isMembership_eq_true.mpr ⟨user, differ.eq named role⟩] at apart
        cases apart
      exact ⟨_, .enrolled (m := ⟨userId, roleId, now, ending, some approved⟩) role new, done⟩

/-- Providing for a person enlists the user that comes out. An account is asked for where nobody was
found. -/
theorem provide_enlists (differ : d.store.RoleNamesDiffer) (isMember : KnownMember d.store known)
    (nonneg : 0 ≤ known) (ok : provide person known loginName now year d = .ok userId d') :
    d.store.Enlists [userId] (if known = 0 then [loginName] else []) d'.store := by
  unfold provide at ok
  dsimp only at ok
  split at ok
  next positive =>
    obtain ⟨n, mid, extended, ok⟩ := Action.bind_ok.mp ok
    obtain ⟨rfl, rfl⟩ := Action.pure_ok.mp ok
    obtain ⟨_, _, rfl⟩ := extend_ok extended
    rw [if_neg (Int.ne_of_gt positive)]
    exact .extended (isMember positive).2
  next unknown =>
    obtain ⟨id, d₁, numbered, ok⟩ := Action.bind_ok.mp ok
    have frame := ((accountNumber_touches _).of_ok numbered).store
    have account : d.store.Enlists [] [loginName] d₁.store :=
      .of_account frame.roles (frame.members (by decide)) (accountNumber_ok numbered)
    obtain ⟨d₂, enlists, ok⟩ := membership_enlists (differ.congr frame.roles) ok
    obtain ⟨_, d₃, described, ok⟩ := Action.bind_ok.mp ok
    obtain ⟨rfl, rfl⟩ := Action.pure_ok.mp ok
    have noted : d₂.store.Enlists [] [] d₃.store :=
      .of_frame ((describe_touches _ _).of_ok described).store (by decide) (by decide)
    rw [if_pos (Int.le_antisymm (Int.not_lt.mp unknown) nonneg)]
    exact (account.trans enlists).trans noted

/-- Where nobody was found, no member has the login name that the account is asked for. So there is
no membership behind it. -/
theorem provide_new (owned : d.store.MembersOwned)
    (free : ∀ u user, d.store.users.find? u = some user →
      sameIgnoringCase user.loginName loginName = true → ¬ d.store.HoldsRole memberRole u)
    (ok : provide person 0 loginName now year d = .ok userId d') :
    ¬ d.store.HoldsRole memberRole userId ∧ ∃ later,
      accountNumber loginName d = .ok userId later ∧ membership? userId later = .ok none later := by
  unfold provide at ok
  rw [if_neg (Int.lt_irrefl 0)] at ok
  obtain ⟨id, later, numbered, ok⟩ := Action.bind_ok.mp ok
  have frame := ((accountNumber_touches _).of_ok numbered).store
  have new := (accountNumber_ok numbered).new owned free
  rw [← Store.holdsRole_congr frame.roles (frame.members (by decide))] at new
  obtain ⟨o, mid, looked, ok⟩ := Action.bind_ok.mp ok
  obtain ⟨_, _, ⟨roleId, number, first⟩, rfl⟩ := membership?_ok.mp looked
  cases o with
  | none =>
      obtain ⟨_, _, _, ok⟩ := Action.bind_ok.mp ok
      obtain ⟨_, _, _, ok⟩ := Action.bind_ok.mp ok
      obtain ⟨rfl, rfl⟩ := Action.pure_ok.mp ok
      rw [Store.holdsRole_congr frame.roles (frame.members (by decide))] at new
      exact ⟨new, mid, numbered, looked⟩
  | some row =>
      obtain ⟨at_row, own⟩ := Table.first?_eq_some first
      obtain ⟨user, same⟩ := Store.isMembership_eq_true.mp own
      exact absurd ⟨row.1, row.2, at_row, user, same ▸ Store.roleNamed_of_roleId? number⟩ new

theorem findMember_free {firstName lastName email : String}
    (ok : findMember firstName lastName email d = .ok 0 d') :
    ∀ u user, d.store.users.find? u = some user →
      sameIgnoringCase user.loginName (trim email) = true → ¬ d.store.HoldsRole memberRole u := by
  obtain ⟨a, b, _, _, _, _, matching⟩ := findMember_ok ok
  rcases Store.memberMatching_ok matching with ⟨_, free⟩ | ⟨⟨user, row⟩, _⟩
  · exact free
  · exact absurd (Table.id_pos row) (Int.lt_irrefl 0)

theorem findMember_nonneg {firstName lastName email : String}
    (ok : findMember firstName lastName email d = .ok userId d') : 0 ≤ userId := by
  obtain ⟨a, b, _, _, _, _, matching⟩ := findMember_ok ok
  rcases Store.memberMatching_ok matching with ⟨rfl, _⟩ | ⟨⟨user, row⟩, _⟩
  · exact Int.le_refl 0
  · exact Int.le_of_lt (Table.id_pos row)

theorem findMatches_nonneg (ok : findMatches sale d = .ok found d') :
    0 ≤ found.primary ∧ 0 ≤ found.associate := by
  obtain ⟨_, first, second⟩ := findMatches_steps ok
  refine ⟨findMember_nonneg first, ?_⟩
  rcases second with ⟨_, second⟩ | ⟨_, nobody, _⟩
  · exact findMember_nonneg second
  · exact Int.le_of_eq nobody.symm

end Fulfilment

/-- The login names of those in a household who were not found. Accounts are asked for under these
names. -/
def Household.strangers (sale : Sale) (found : Matches) : List String :=
  (if found.primary = 0 then [trim sale.primary.email] else []) ++
  (if 0 < sale.associate.userId ∧ found.associate = 0 then [Fulfilment.associateLogin sale] else [])

namespace Fulfilment

theorem provideAll_enlists (differ : d.store.RoleNamesDiffer) {result : Sale}
    (ok : provideAll sale now withAssociate d = .ok result d') :
    ∃ found mid, findMatches sale d = .ok found mid ∧
      d.store.Enlists (Household.users result) (Household.strangers result found) d'.store := by
  obtain ⟨found, primaryId, associateId, d₁, d₂, looked, first, second, rfl⟩ := provideAll_steps ok
  refine ⟨found, d₁, looked, ?_⟩
  obtain ⟨nonneg, nonneg'⟩ := findMatches_nonneg looked
  obtain ⟨same, known, known'⟩ := findMatches_known looked
  rw [← same] at differ known known' ⊢
  have primary := provide_enlists differ known nonneg first
  rw [users_provided]
  have names : Household.strangers (provided sale found primaryId associateId) found =
      (if found.primary = 0 then [trim sale.primary.email] else []) ++
        (if 0 < associateId ∧ found.associate = 0 then [associateLogin sale] else []) := rfl
  rw [names]
  rcases second with ⟨_, second⟩ | ⟨_, rfl, rfl⟩
  · obtain ⟨pays, _⟩ := provide_entitles differ known first
    have associate := provide_enlists (pays.differ differ) (known'.paysUntil pays) nonneg' second
    obtain ⟨positive, _⟩ := provide_confined second
    simp only [positive, if_true, true_and]
    exact primary.trans associate
  · simp only [Int.lt_irrefl, if_false, false_and, List.append_nil]
    exact primary

/-- What a sale says about its primary person is so: whoever renews was a member before, and whoever
joins was not. In the latter case there is no membership behind the account that they get. -/
theorem provideAll_kind (owned : d.store.MembersOwned) {result : Sale}
    (ok : provideAll sale now withAssociate d = .ok result d') :
    ∃ found mid, findMatches sale d = .ok found mid ∧
      (result.kind = .renewal ↔ d.store.HoldsRole memberRole result.primary.userId) ∧
      (found.primary = 0 → ∃ later,
        accountNumber (trim result.primary.email) mid = .ok result.primary.userId later ∧
          membership? result.primary.userId later = .ok none later) := by
  obtain ⟨found, primaryId, associateId, d₁, d₂, looked, first, _, rfl⟩ := provideAll_steps ok
  refine ⟨found, d₁, looked, ?_⟩
  obtain ⟨same, known, _⟩ := findMatches_known looked
  have kind : (provided sale found primaryId associateId).kind = .renewal ↔ 0 < found.primary := by
    simp [provided, Matches.isRenewal]
  have user : (provided sale found primaryId associateId).primary.userId = primaryId := rfl
  rw [kind, user]
  rcases Int.lt_or_eq_of_le (findMatches_nonneg looked).1 with positive | nobody
  · unfold provide at first
    rw [if_pos positive] at first
    obtain ⟨_, _, _, done⟩ := Action.bind_ok.mp first
    obtain ⟨rfl, _⟩ := Action.pure_ok.mp done
    exact ⟨⟨fun _ => (known positive).2, fun _ => positive⟩,
      fun nobody => absurd nobody (Int.ne_of_gt positive)⟩
  · obtain ⟨_, searched, _⟩ := findMatches_steps looked
    rw [← nobody] at first searched
    have free := findMember_free searched
    rw [← same] at owned free ⊢
    obtain ⟨new, behind⟩ := provide_new owned free first
    exact ⟨⟨fun positive => by omega, fun holds => absurd holds new⟩, fun _ => behind⟩

end Fulfilment

/-- What a household that has paid adds to a store: the memberships that are new and the accounts
that are new, and how many of each there are. The sale says of its primary person what became of
them. -/
structure Store.Headcount (sale : Sale) (found : Matches) (joined : List Enrolment)
    (opened : List (Int × User)) (s s' : Store) : Prop where
  memberships : s'.enrolments = s.enrolments ++ joined
  role : ∀ e ∈ joined, s.RoleNamed memberRole e.roleId
  accounts : s'.users.rows = s.users.rows ++ opened
  joins : sale.kind = .newMember ↔ ∃ e ∈ joined, e.userId = sale.primary.userId
  renews : sale.kind = .renewal ↔ s.HoldsRole memberRole sale.primary.userId
  /-- One for each user of the household who was no member. -/
  members : joined.length =
    ((Household.users sale).toFinset.filter fun u => ¬ s.HoldsRole memberRole u).card
  /-- One for each login name, whatever its case, that was asked for and that nobody had. -/
  logins : opened.length =
    (((Household.strangers sale found).map foldAscii).toFinset \ s.logins.toFinset).card

theorem Store.Enlists.headcount {s s' : Store} {sale : Sale} {found : Matches}
    (h : s.Enlists (Household.users sale) (Household.strangers sale found) s')
    (renews : sale.kind = .renewal ↔ s.HoldsRole memberRole sale.primary.userId) :
    ∃ joined opened, s.Headcount sale found joined opened s' := by
  obtain ⟨joined, memberships, role, joiners⟩ := h.members
  obtain ⟨opened, accounts, named⟩ := h.accounts
  refine ⟨joined, opened, memberships, role, accounts, ?_, renews, ?_, ?_⟩
  · have new : sale.kind = .newMember ↔ ¬ sale.kind = .renewal := by
      cases sale.kind <;> decide
    have primary : sale.primary.userId ∈ Household.users sale := List.mem_cons_self
    rw [new, renews, ← List.mem_map (f := Enrolment.userId), joiners, mem_newcomers, mem_payers]
    exact ⟨fun none => ⟨primary, none⟩, fun both => both.2⟩
  · rw [← List.length_map Enrolment.userId, joiners, length_newcomers]
    congr 1
    ext u
    simp only [Finset.mem_sdiff, Finset.mem_filter, List.mem_toFinset, mem_payers]
  · rw [← length_newcomers, ← named, List.length_map]

/-- What a sale says of its primary person is what has happened to them. It says that they joined
just where they are enrolled by this settlement, and that they renewed just where they were a member
before. Of its household, those are enrolled who were no members, each once; and of those whom the
search did not find, each one with a login name of their own gets an account, unless there is one
with that name. Whoever is not found as a member, but has an account or gets one, has no membership
behind it. -/
theorem Checkout.kind_tells_what_happened (settings : Settings) (now : Instant) (saleId : Int)
    (paymentId : String) (d d' : Desk) (sale : Sale) (differ : d.store.RoleNamesDiffer)
    (owned : d.store.MembersOwned)
    (settled : settle settings now saleId paymentId d = .ok (.fulfilled sale) d') :
    ∃ found mid joined opened, findMatches sale d = .ok found mid ∧
      d.store.Headcount sale found joined opened d'.store ∧
      (found.primary = 0 → ∃ later,
        Fulfilment.accountNumber (trim sale.primary.email) mid = .ok sale.primary.userId later ∧
          membership? sale.primary.userId later = .ok none later) := by
  have outcome := settle_settled settings now saleId paymentId d
  rw [settled] at outcome
  cases outcome with
  | fulfilled _ between _ fulfil frame =>
      obtain ⟨entry, result, behind, _, _, all, shown, rfl⟩ := Fulfilment.fulfil_ok fulfil
      obtain ⟨found, mid, looked, enlists⟩ := Fulfilment.provideAll_enlists differ all
      obtain ⟨_, _, looked', renews, fresh⟩ := Fulfilment.provideAll_kind owned all
      cases looked.symm.trans looked'
      -- who is looked for is in the entry as it is in the sale that is shown
      have shown_looked : findMatches sale d = .ok found mid := by
        obtain ⟨_, _, _, rfl⟩ := Fulfilment.provideAll_provided all
        rw [shown]
        exact looked
      have users : Household.users result = Household.users sale := by rw [shown]; rfl
      have strangers : Household.strangers result found = Household.strangers sale found := by
        rw [shown]; rfl
      have kind : result.kind = sale.kind := by rw [shown]
      have primary : result.primary = sale.primary := by rw [shown]
      rw [users, strangers] at enlists
      rw [kind, primary] at renews
      rw [primary] at fresh
      -- behind that come the entry in the book and the notes, which enlist nobody
      have closed : ∀ sales, behind.store.Enlists [] [] { behind.store with sales } :=
        fun sales => .of_same rfl rfl rfl
      have all := (enlists.trans (closed _)).trans
        (.of_frame frame.store (by decide) (by decide))
      simp only [List.append_nil] at all
      obtain ⟨joined, opened, count⟩ := all.headcount renews
      exact ⟨found, mid, joined, opened, shown_looked, count, fresh⟩

/-- A couple joins at a desk that has served nobody but them, one with a login name that is made
up. -/
theorem Checkout.couple_that_joins_is_counted :
    let form : Site.MembershipForm :=
      { firstName := "Ada", lastName := "Lovelace", email := "ada@example.org"
        associateFirstName := "William", associateLastName := "King" }
    let desk := Desk.initial.after [.sampleStart 1757930400 form]
    desk.store.RoleNamesDiffer ∧ desk.store.MembersOwned ∧ ∃ sale d',
      settle .sample (.ofSeconds 1757934000 0) 1 "session-1" desk = .ok (.fulfilled sale) d' ∧
      sale.kind = .newMember ∧ sale.associate.isPresent = true ∧
      ∃ found mid joined opened, findMatches sale desk = .ok found mid ∧
        desk.store.Headcount sale found joined opened d'.store ∧
        (found.primary = 0 → ∃ later,
          Fulfilment.accountNumber (trim sale.primary.email) mid = .ok sale.primary.userId later ∧
            membership? sale.primary.userId later = .ok none later) := by
  intro form desk
  have kept : desk.WellKept := Desk.initial_wellKept.after _
  have differ := kept.installed.roleNamesDiffer
  have owned := kept.store.membersOwned
  let visit := Visit.settles .sample (.ofSeconds 1757934000 0) 1 "session-1"
  have told : ((visit.serve desk).1.fulfilled?.any fun sale =>
      sale.kind == .newMember && sale.associate.isPresent) = true := by decide +kernel
  obtain ⟨sale, told, joins⟩ := (Option.any_eq_true _ _).mp told
  obtain ⟨saleId, number, settled⟩ := Visit.settle_of_told (Answer.fulfilled?_eq_some.mp told)
  obtain rfl : 1 = saleId := Option.some.inj number
  simp only [Bool.and_eq_true, beq_iff_eq] at joins
  exact ⟨differ, owned, sale, _, settled, joins.1, joins.2,
    kind_tells_what_happened _ _ _ _ desk _ sale differ owned settled⟩

end Dues
