import Dues.Proofs.Purchase.Extension

/-! # Success means entitled

Whoever is told that a sale has been fulfilled has what was paid for: an account, and a membership
that covers the year of the sale. Some stores are older than the rule that nobody is a member twice,
so nothing is assumed about the members here. Every membership that a person has in the role of
those who pay ends as paid then. All that is needed of the store is what its definition says, that
no two roles share a name.
-/

namespace Dues

open Store (Table TableName)
open Dues.Register
open Dues.Time (Instant)
open Dues.Time.MembershipYear (ends covers covers_ends)

theorem Desk.Installed.roleNamesDiffer {d : Desk} (h : d.Installed) : d.store.RoleNamesDiffer := by
  have differ : Store.initial.RoleNamesDiffer := by decide +kernel
  exact differ.congr h.roles

namespace Store

variable {s s' s'' : Store} {name : String} {userId roleId year : Int} {ending now : Instant}

/-- A user with an account and a membership, all of whose memberships in the role of those who pay
end with `year` and cover it. -/
structure Entitled (s : Store) (userId year : Int) : Prop where
  account : ∃ user, s.users.find? userId = some user
  member : s.HoldsRole memberRole userId
  paid : ∀ i m, s.members.find? i = some m → m.userId = userId → s.RoleNamed memberRole m.roleId →
    m.ends = ends year ∧ covers m.ends year = true

/-- How a store may become another one while persons pay for the time until `ending`: accounts and
memberships stay, and a membership that changed or is new ends as paid. -/
structure PaysUntil (ending : Instant) (s s' : Store) : Prop where
  roles : s'.roles = s.roles
  accounts : ∀ i user, s.users.find? i = some user → s'.users.find? i = some user
  stays : ∀ i m, s.members.find? i = some m →
    ∃ m', s'.members.find? i = some m' ∧ m'.userId = m.userId ∧ m'.roleId = m.roleId
  rows : ∀ i m, s'.members.find? i = some m → m.ends = ending ∨ s.members.find? i = some m

namespace PaysUntil

theorem of_members (roles : s'.roles = s.roles) (members : s'.members = s.members)
    (accounts : ∀ i user, s.users.find? i = some user → s'.users.find? i = some user) :
    PaysUntil ending s s' := by
  refine ⟨roles, accounts, fun i m row => ?_, fun i m row => ?_⟩
  · exact ⟨m, by rwa [members], rfl, rfl⟩
  · rw [members] at row
    exact .inr row

theorem of_frame {ts : List TableName} (frame : s.Frame ts s') (users : .users ∉ ts)
    (members : .members ∉ ts) : PaysUntil ending s s' := by
  apply of_members frame.roles (frame.members members)
  intro i user row
  rwa [frame.users users]

theorem trans (h : PaysUntil ending s s') (h' : PaysUntil ending s' s'') :
    PaysUntil ending s s'' where
  roles := h'.roles.trans h.roles
  accounts i user row := h'.accounts i user (h.accounts i user row)
  stays i m row := by
    obtain ⟨m', row', user, role⟩ := h.stays i m row
    obtain ⟨m'', row'', user', role'⟩ := h'.stays i m' row'
    exact ⟨m'', row'', user'.trans user, role'.trans role⟩
  rows i m row := by
    cases h'.rows i m row with
    | inl paid => exact .inl paid
    | inr old => exact h.rows i m old

theorem roleNamed_iff (h : PaysUntil ending s s') :
    s'.RoleNamed name roleId ↔ s.RoleNamed name roleId := by
  unfold RoleNamed
  rw [h.roles]

theorem differ (h : PaysUntil ending s s') (differ : s.RoleNamesDiffer) : s'.RoleNamesDiffer :=
  differ.congr h.roles

theorem holdsRole (h : PaysUntil ending s s') (holds : s.HoldsRole name userId) :
    s'.HoldsRole name userId := by
  obtain ⟨i, m, row, user, role⟩ := holds
  obtain ⟨m', row', user', role'⟩ := h.stays i m row
  refine ⟨i, m', row', user'.trans user, ?_⟩
  rw [role', h.roleNamed_iff]
  exact role

theorem account (h : PaysUntil ending s s') (account : ∃ user, s.users.find? userId = some user) :
    ∃ user, s'.users.find? userId = some user := by
  obtain ⟨user, row⟩ := account
  exact ⟨user, h.accounts userId user row⟩

theorem entitled (h : PaysUntil (ends year) s s') (entitled : s.Entitled userId year) :
    s'.Entitled userId year where
  account := h.account entitled.account
  member := h.holdsRole entitled.member
  paid i m row user role := by
    cases h.rows i m row with
    | inl paid =>
        constructor
        · exact paid
        · rw [paid]
          exact covers_ends year
    | inr old => exact entitled.paid i m old user (h.roleNamed_iff.mp role)

end PaysUntil

theorem find?_withEnd_of_role {i : Int} : (s.withEnd userId roleId ending).find? i =
    (s.members.find? i).map fun m =>
      if isMembership userId roleId m then { m with ends := ending } else m := by
  rw [withEnd, Table.find?_update]

theorem paysUntil_withEnd :
    PaysUntil ending s { s with members := s.withEnd userId roleId ending } where
  roles := rfl
  accounts i user row := row
  stays i m row := by
    refine ⟨_, by rw [find?_withEnd_of_role, row, Option.map_some], ?_⟩
    split
    next => exact ⟨rfl, rfl⟩
    next => exact ⟨rfl, rfl⟩
  rows i m row := by
    rw [find?_withEnd_of_role] at row
    obtain ⟨old, found, rfl⟩ := Option.map_eq_some_iff.mp row
    split
    next => exact .inl rfl
    next => exact .inr found

theorem paysUntil_insert {m : Member} (paid : m.ends = ending) :
    PaysUntil ending s { s with members := s.members.insert m } where
  roles := rfl
  accounts i user row := row
  stays i old row := ⟨old, Table.find?_insert_of_some m row, rfl, rfl⟩
  rows i m' row := by
    rw [Table.find?_insert] at row
    split at row
    next =>
      cases row
      exact .inl paid
    next => exact .inr row

theorem entitled_withEnd (differ : s.RoleNamesDiffer) (role : s.RoleNamed memberRole roleId)
    (account : ∃ user, s.users.find? userId = some user) (holds : s.HoldsRole memberRole userId) :
    Entitled { s with members := s.withEnd userId roleId (ends year) } userId year where
  account := account
  member := paysUntil_withEnd.holdsRole holds
  paid i m row user named := by
    have own : m.roleId = roleId := differ.eq named role
    have ending : m.ends = ends year := by
      rw [find?_withEnd_of_role] at row
      obtain ⟨old, found, changed⟩ := Option.map_eq_some_iff.mp row
      split at changed
      next =>
        cases changed
        rfl
      next other =>
        cases changed
        exact absurd (isMembership_eq_true.mpr ⟨user, own⟩) other
    exact ⟨ending, ending ▸ covers_ends year⟩

theorem entitled_insert (differ : s.RoleNamesDiffer) (role : s.RoleNamed memberRole roleId)
    (account : ∃ user, s.users.find? userId = some user)
    (new : s.members.first? (isMembership userId roleId) = none) (mark : Option Int) :
    Entitled { s with members := s.members.insert ⟨userId, roleId, now, ends year, mark⟩ }
      userId year where
  account := account
  member := ⟨_, _, (Table.find?_insert _).trans (if_pos rfl), rfl, role⟩
  paid i m row user named := by
    rw [Table.find?_insert] at row
    split at row
    next =>
      cases row
      exact ⟨rfl, covers_ends year⟩
    next =>
      have own : m.roleId = roleId := differ.eq named role
      have apart := Table.first?_eq_none.mp new i m row
      rw [isMembership_eq_true.mpr ⟨user, own⟩] at apart
      cases apart

end Store

namespace Fulfilment

open Dues.Action (Touches)

variable {d d' : Desk} {sale : Sale} {found : Matches} {now : Instant} {withAssociate : Bool}
  {known userId year : Int} {person : Participant} {loginName : String}

/-- Someone who has been found, if anyone has. -/
def KnownMember (s : Store) (userId : Int) : Prop :=
  0 < userId → (∃ user, s.users.find? userId = some user) ∧ s.HoldsRole memberRole userId

theorem knownMember_of_findMember {firstName lastName email : String}
    (ok : findMember firstName lastName email d = .ok userId d') :
    KnownMember d.store userId := by
  intro positive
  obtain ⟨a, b, _, _, _, _, matching⟩ := findMember_ok ok
  rcases Store.memberMatching_ok matching with ⟨unknown, _⟩ | member
  · omega
  · exact member

theorem KnownMember.paysUntil {s s' : Store} {ending : Instant} (h : KnownMember s userId)
    (pays : s.PaysUntil ending s') : KnownMember s' userId := by
  intro positive
  obtain ⟨account, holds⟩ := h positive
  exact ⟨pays.account account, pays.holdsRole holds⟩

theorem extend_entitles (differ : d.store.RoleNamesDiffer) {n : Nat}
    (account : ∃ user, d.store.users.find? userId = some user)
    (holds : d.store.HoldsRole memberRole userId) (ok : extend userId (ends year) d = .ok n d') :
    d.store.PaysUntil (ends year) d'.store ∧ d'.store.Entitled userId year := by
  obtain ⟨roleId, looked, rfl⟩ := extend_ok ok
  have role := Store.roleNamed_of_roleId? looked
  exact ⟨Store.paysUntil_withEnd, Store.entitled_withEnd differ role account holds⟩

/-- A person who is provided for is entitled, and whoever was entitled for the year before stays
so. -/
theorem provide_entitles (differ : d.store.RoleNamesDiffer) (isMember : KnownMember d.store known)
    (ok : provide person known loginName now year d = .ok userId d') :
    d.store.PaysUntil (ends year) d'.store ∧ d'.store.Entitled userId year := by
  unfold provide at ok
  dsimp only at ok
  split at ok
  next positive =>
    obtain ⟨n, mid, extended, ok⟩ := Action.bind_ok.mp ok
    obtain ⟨rfl, rfl⟩ := Action.pure_ok.mp ok
    obtain ⟨account, holds⟩ := isMember positive
    exact extend_entitles differ account holds extended
  next =>
    obtain ⟨id, d₁, numbered, ok⟩ := Action.bind_ok.mp ok
    have opened := accountNumber_ok numbered
    have frame := ((accountNumber_touches _).of_ok numbered).store
    have pays₁ : d.store.PaysUntil (ends year) d₁.store :=
      .of_members frame.roles (frame.members (by simp)) fun i user => opened.find?_of_some
    have account := Store.Table.contains_eq_true.mp opened.contains
    have differ₁ := pays₁.differ differ
    obtain ⟨o, d₂, looked, ok⟩ := Action.bind_ok.mp ok
    obtain ⟨_, _, ⟨roleId, number, first⟩, rfl⟩ := membership?_ok.mp looked
    have role := Store.roleNamed_of_roleId? number
    -- whichever way the membership is paid for, only values change behind it
    have behind : ∀ {d₃ : Desk}, d₂.store.PaysUntil (ends year) d₃.store →
        d₃.store.Entitled id year →
        (describe id person >>= fun _ => pure id) d₃ = .ok userId d' →
        d.store.PaysUntil (ends year) d'.store ∧ d'.store.Entitled userId year := by
      intro d₃ pays entitled rest
      obtain ⟨_, d₄, described, done⟩ := Action.bind_ok.mp rest
      obtain ⟨rfl, rfl⟩ := Action.pure_ok.mp done
      have noted : d₃.store.PaysUntil (ends year) d₄.store :=
        .of_frame ((describe_touches _ _).of_ok described).store (by simp) (by simp)
      exact ⟨(pays₁.trans pays).trans noted, noted.entitled entitled⟩
    cases o with
    | some row =>
        obtain ⟨n, d₃, extended, rest⟩ := Action.bind_ok.mp ok
        obtain ⟨found, own⟩ := Store.Table.first?_eq_some first
        obtain ⟨user, same⟩ := Store.isMembership_eq_true.mp own
        have holds : d₂.store.HoldsRole memberRole id := ⟨row.1, row.2, found, user, same ▸ role⟩
        obtain ⟨pays, entitled⟩ := extend_entitles differ₁ account holds extended
        exact behind pays entitled rest
    | none =>
        obtain ⟨row, d₃, enrolled, rest⟩ := Action.bind_ok.mp ok
        obtain ⟨roleId', number', rfl, rfl⟩ := enrol_ok enrolled
        cases number.symm.trans number'
        exact behind (Store.paysUntil_insert (m := ⟨id, roleId, now, ends year, some approved⟩) rfl)
          (Store.entitled_insert differ₁ role account first _) rest

theorem findMatches_known (ok : findMatches sale d = .ok found d') :
    d'.store = d.store ∧ KnownMember d.store found.primary ∧
      KnownMember d.store found.associate := by
  have same := ((findMatches_touches sale).of_ok ok).store.eq
  obtain ⟨mid, first, second⟩ := findMatches_steps ok
  refine ⟨same, knownMember_of_findMember first, ?_⟩
  rcases second with ⟨_, second⟩ | ⟨_, nobody, _⟩
  · have known := knownMember_of_findMember second
    rwa [((findMember_touches _ _ _).of_ok first).store.eq] at known
  · intro positive
    omega

theorem provideAll_entitles (differ : d.store.RoleNamesDiffer) {result : Sale}
    (ok : provideAll sale now withAssociate d = .ok result d') :
    d'.store.Entitled result.primary.userId result.year ∧
      (result.associate.userId ≠ 0 → d'.store.Entitled result.associate.userId result.year) ∧
      (withAssociate = true → result.associate.isPresent = true →
        result.associate.userId ≠ 0) := by
  obtain ⟨found, primaryId, associateId, d₁, d₂, looked, first, second, rfl⟩ := provideAll_steps ok
  obtain ⟨same, known, known'⟩ := findMatches_known looked
  rw [← same] at differ known known'
  obtain ⟨pays, primary⟩ := provide_entitles differ known first
  rcases second with ⟨_, second⟩ | ⟨alone, nobody, rfl⟩
  · obtain ⟨pays', associate⟩ :=
      provide_entitles (pays.differ differ) (known'.paysUntil pays) second
    refine ⟨pays'.entitled primary, fun _ => associate, fun _ _ nobody => ?_⟩
    obtain ⟨user, row⟩ := associate.account
    have positive := Store.Table.id_pos row
    dsimp only [provided] at nobody
    omega
  · refine ⟨primary, fun counted => absurd nobody counted, fun enabled present => ?_⟩
    exact nomatch alone.symm.trans (Bool.and_eq_true_iff.mpr ⟨enabled, present⟩)

variable {saleId : Int} {paymentId : String}

theorem fulfil_entitles (differ : d.store.RoleNamesDiffer)
    (ok : fulfil saleId paymentId now withAssociate d = .ok (.fulfilled sale) d') :
    d'.store.Entitled sale.primary.userId sale.year ∧
      (sale.associate.userId ≠ 0 → d'.store.Entitled sale.associate.userId sale.year) ∧
      (withAssociate = true → sale.associate.isPresent = true → sale.associate.userId ≠ 0) := by
  obtain ⟨entry, result, mid, _, _, all, rfl, rfl⟩ := fulfil_ok ok
  obtain ⟨primary, associate, counted⟩ := provideAll_entitles differ all
  have closed : ∀ sales, mid.store.PaysUntil (ends result.year) { mid.store with sales } := by
    intro sales
    exact .of_members rfl rfl fun _ _ row => row
  refine ⟨(closed _).entitled primary, fun named => ?_, counted⟩
  exact (closed _).entitled (associate named)

end Fulfilment

namespace Desk

/-- Whoever is told that a sale has been fulfilled is entitled to its year, at whatever desk. The
user of its primary person exists and is a member, and all of the user's memberships in the role of
those who pay end with the year and cover it. The same holds of its associate, who has a user
wherever associates count at that time. -/
theorem fulfilled_sale_entitles (d : Desk) (differ : d.store.RoleNamesDiffer) (v : Visit)
    (sale : Sale) (told : (v.serve d).1 = .settled (.fulfilled sale)) :
    (v.serve d).2.store.Entitled sale.primary.userId sale.year ∧
      (sale.associate.userId ≠ 0 →
        (v.serve d).2.store.Entitled sale.associate.userId sale.year) ∧
      (v.settings.otherMemberTypes = true → sale.associate.isPresent = true →
        sale.associate.userId ≠ 0) := by
  obtain ⟨mid, fulfil, frame⟩ := Visit.serve_completes (Visit.completes_of_told told)
  obtain ⟨primary, associate, counted⟩ := Fulfilment.fulfil_entitles differ fulfil
  have noted : mid.store.PaysUntil (ends sale.year) (v.serve d).2.store :=
    .of_frame frame.store (by simp) (by simp)
  exact ⟨noted.entitled primary, fun named => noted.entitled (associate named), counted⟩

/-- A store from before the rule that nobody is a member twice: Ada has a second membership, which
ended long ago. -/
def withLegacyMember (d : Desk) : Desk :=
  { d with store := { d.store with
    members := d.store.members.insert
      ⟨1, memberRoleId, .ofSeconds 0 0, ends 1999, some approved⟩ } }

/-- Ada renews, with an associate who is new. -/
theorem legacy_member_is_entitled :
    let ada : Site.MembershipForm :=
      { firstName := "Ada", lastName := "Lovelace", email := "ada@example.org" }
    let couple := { ada with associateFirstName := "William", associateLastName := "King" }
    let desk := (initial.after [.sampleStart 1726394400 ada,
      .sampleReturn 1726398000 1]).withLegacyMember.after [.sampleStart 1757930400 couple]
    let back := Visit.sampleReturn 1757934000 2
    ∃ sale, (back.serve desk).1 = .settled (.fulfilled sale) ∧
      (back.serve desk).2.store.Entitled sale.primary.userId sale.year ∧
      (sale.associate.userId ≠ 0 →
        (back.serve desk).2.store.Entitled sale.associate.userId sale.year) ∧
      sale.associate.userId ≠ 0 := by
  intro ada couple desk back
  have told : ((back.serve desk).1.fulfilled?.any fun sale =>
      sale.associate.isPresent) = true := by decide +kernel
  obtain ⟨sale, told, present⟩ := (Option.any_eq_true _ _).mp told
  have answer := Answer.fulfilled?_eq_some.mp told
  obtain ⟨primary, associate, counted⟩ :=
    fulfilled_sale_entitles desk (by decide +kernel) back sale answer
  exact ⟨sale, answer, primary, associate, counted rfl present⟩

end Desk

end Dues
