import Dues.Proofs.Purchase.Extension

/-! # Households of two

Both persons of a sale are looked for before either is provided for, and each on their own. They
end up as one user only where they were found as one, or where the login name that is made up of the
associate's names is the one that the first person has.
-/

namespace Dues

open Dues.Fulfilment (Provides loginOfNames associateLogin)
open Dues.Text (trim sameIgnoringCase)
open Dues.Time (Instant)
open Dues.Time.MembershipYear (ends)

/-- What holds of the accounts between any two visits: login names differ by more than case, and
everyone with an account is a member. -/
structure Store.Sound (s : Store) : Prop where
  logins : LoginsDiffer s.users
  members : ∀ i u, s.users.find? i = some u → s.IsMember i

namespace Store

variable {s s' : Store} {login : String} {known userId : Int} {now ending : Instant}

theorem Sound.congr (h : s.Sound) (users : s'.users = s.users) (members : s'.members = s.members) :
    s'.Sound := by
  refine ⟨users ▸ h.logins, fun i u => ?_⟩
  · rw [users, isMember_congr members]
    exact h.members i u

/-- An account is opened only under a login name that nobody has, and gets a membership at once. -/
theorem Provided.sound (h : s.Provided s' login known userId now ending) (sound : s.Sound) :
    s'.Sound := by
  have paid := h.members.paidFor
  have stays : ∀ i u, s.users.find? i = some u → s'.IsMember i := fun i u row =>
    paid.isMember_of_isMember (sound.members i u row)
  have unchanged : s'.users = s.users → s'.Sound := by
    intro same
    refine ⟨fun i j u v => ?_, fun i u row => stays i u (same ▸ row)⟩
    rw [same]
    exact sound.logins i j u v
  rcases h.users with ⟨_, _, same⟩ | ⟨_, account⟩
  · exact unchanged same
  · refine ⟨account.loginsDiffer sound.logins, fun i u row => ?_⟩
    rcases account.rows row with old | ⟨rfl, _⟩
    · exact stays i u old
    · exact paid.members i List.mem_cons_self

theorem Account.same_iff {users : Table User} (h : s.Account login userId users) (sound : s.Sound)
    {i : Int} {user : User} (row : s.users.find? i = some user) :
    i = userId ↔ sameIgnoringCase user.loginName login = true := by
  cases h with
  | existing u account named =>
      constructor
      · rintro rfl
        cases row.symm.trans account
        exact named
      · intro same
        rw [Text.sameIgnoringCase_iff] at same named
        exact sound.logins i userId user u row account
          (Text.sameIgnoringCase_iff.mpr (same.trans named.symm))
  | opened id free =>
      have earlier := Table.id_lt_nextId row
      rw [free i user row]
      exact ⟨fun same => by omega, fun h => nomatch h⟩

theorem Found.free_of_sound {s : Store} (h : s.Found login userId) (sound : s.Sound)
    (unknown : userId ≤ 0) {i : Int} {u : User} (row : s.users.find? i = some u) :
    sameIgnoringCase u.loginName login = false := by
  cases h with
  | nobody _ free =>
      exact Bool.eq_false_iff.mpr fun same => free i u row same (sound.members i u row)
  | member known => omega

end Store

theorem Household.associate_mem_users {sale : Sale} (counted : 0 < sale.associate.userId) :
    sale.associate.userId ∈ users sale := by
  unfold users
  rw [if_pos counted]
  exact List.mem_cons_of_mem _ List.mem_cons_self

/-- The persons of a sale are taken for one: they are found as the same member, or the associate,
who is not found and gives no email of their own, gets a login name that the first one has. -/
def Household.TakenForOne (found : Matches) (sale : Sale) (after : Store) : Prop :=
  (0 < found.primary ∧ found.associate = found.primary) ∨
    (found.associate = 0 ∧ sale.associateEmail = "" ∧
      ∃ user, after.users.find? sale.primary.userId = some user ∧
        sameIgnoringCase user.loginName
          (loginOfNames sale.associate.firstName sale.associate.lastName) = true)

namespace Fulfilment

variable {s between s' : Store} {sale : Sale} {found : Matches} {now : Instant}
  {primaryId associateId : Int}

/-- An email of the associate's own is trimmed, and is not the first person's. -/
theorem associateEmail_cases (sale : Sale) : sale.associateEmail = "" ∨
    (trim sale.associateEmail = sale.associateEmail ∧
      sameIgnoringCase (trim sale.primary.email) sale.associateEmail = false) := by
  unfold Sale.associateEmail
  dsimp only
  split
  next => exact .inl rfl
  next own =>
    refine .inr ⟨Text.trim_trim _, Bool.eq_false_iff.mpr fun same => own ?_⟩
    exact Text.sameIgnoringCase_iff.mpr (Text.sameIgnoringCase_iff.mp same).symm

/-- The first person has the account that was found, or a new one behind all others under the email
that was given. -/
theorem Provides.primary_cases (h : Provides s between s' sale found now true primaryId associateId)
    (sound : s.Sound) :
    (0 < found.primary ∧ primaryId = found.primary ∧ between.users = s.users ∧
      ∃ user, s.users.find? primaryId = some user) ∨
    (found.primary ≤ 0 ∧ primaryId = s.users.nextId ∧ between.users =
      s.users.insert ⟨trim sale.primary.email, Register.lockedPassword, true⟩) := by
  rcases h.primary.users with ⟨known, rfl, same⟩ | ⟨unknown, account⟩
  · cases h.asFound.primary with
    | nobody unknown => omega
    | member _ hasAccount => exact .inl ⟨known, rfl, same, hasAccount⟩
  · generalize after : between.users = users at account
    cases account with
    | opened id free => exact .inr ⟨unknown, id, rfl⟩
    | existing user row named =>
        rw [h.asFound.primary.free_of_sound sound unknown row] at named
        cases named

theorem Provides.primary_account
    (h : Provides s between s' sale found now true primaryId associateId) (sound : s.Sound) :
    ∃ user, between.users.find? primaryId = some user := by
  rcases h.primary_cases sound with ⟨_, _, same, row⟩ | ⟨_, id, opened⟩
  · rwa [same]
  · exact ⟨_, by rw [opened, Store.Table.find?_insert, if_pos id]⟩

/-- An associate with an email of their own, who is not found, gets a new account: nobody has that
email as login name, the first person included. -/
theorem Provides.associate_opened
    (h : Provides s between s' sale found now true primaryId associateId) (sound : s.Sound)
    (present : sale.associate.isPresent = true) (unknown : found.associate ≤ 0)
    (own : sale.associateEmail ≠ "") {i : Int} {u : User}
    (row : between.users.find? i = some u) :
    sameIgnoringCase u.loginName (associateLogin sale) = false := by
  obtain ⟨trimmed, apart⟩ := (associateEmail_cases sale).resolve_left own
  have login : associateLogin sale = sale.associateEmail := by
    rw [associateLogin, if_neg (mt String.isEmpty_iff.mp own)]
  have free : ∀ {i u}, s.users.find? i = some u →
      sameIgnoringCase u.loginName sale.associateEmail = false := fun old =>
    trimmed ▸ (h.asFound.associate present).free_of_sound sound unknown old
  rw [login]
  rcases h.primary_cases sound with ⟨_, _, same, _⟩ | ⟨_, _, opened⟩
  · exact free (same ▸ row)
  · rw [opened, Store.Table.find?_insert] at row
    split at row
    next =>
      cases row
      exact apart
    next => exact free row

/-- The two persons become one user just where they are taken for one. -/
theorem Provides.same_iff (h : Provides s between s' sale found now true primaryId associateId)
    (sound : s.Sound) (present : sale.associate.isPresent = true) (closed : Sale)
    (primary : closed.primary.userId = primaryId) (email : closed.associateEmail = sale.associateEmail)
    (names : closed.associate.firstName = sale.associate.firstName ∧
      closed.associate.lastName = sale.associate.lastName) :
    primaryId = associateId ↔ Household.TakenForOne found closed s' := by
  obtain ⟨user, account⟩ := h.primary_account sound
  unfold Household.TakenForOne
  rw [primary, email, names.1, names.2]
  have second := h.associate (by rw [present]; rfl)
  rcases second.users with ⟨known, rfl, same⟩ | ⟨unknown, opened⟩
  · -- the associate was a member before
    have old : found.associate < s.users.nextId := by
      cases h.asFound.associate present with
      | nobody unknown => omega
      | member _ hasAccount =>
          obtain ⟨u, row⟩ := hasAccount
          exact Store.Table.id_lt_nextId row
    rcases h.primary_cases sound with ⟨positive, rfl, _⟩ | ⟨_, id, _⟩ <;> omega
  · have nobody : found.associate = 0 := by
      cases h.asFound.associate present with
      | nobody unknown => exact unknown
      | member known => omega
    have same := opened.same_iff (h.primary.sound sound) account
    by_cases own : sale.associateEmail = ""
    · have login : associateLogin sale =
          loginOfNames sale.associate.firstName sale.associate.lastName := by
        rw [associateLogin, own, if_pos (by simp)]
      have after := opened.find?_of_some account
      rw [same, login]
      constructor
      · exact fun named => .inr ⟨nobody, own, user, after, named⟩
      · rintro (⟨positive, _⟩ | ⟨_, _, user', row, named⟩)
        · omega
        · cases after.symm.trans row
          exact named
    · have free := h.associate_opened sound present unknown own account
      refine ⟨fun one => (nomatch free.symm.trans (same.mp one)), ?_⟩
      rintro (⟨positive, _⟩ | ⟨_, blank, _⟩)
      · omega
      · exact absurd blank own

end Fulfilment

namespace Visit

theorem serve_sound {d : Desk} (h : d.Installed) (sound : d.store.Sound) (v : Visit) :
    (v.serve d).2.store.Sound := by
  have effect := v.serve_effect d
  generalize v.serve d = r at effect
  cases effect with
  | idle answer d' frame => rwa [frame.store.eq]
  | enters answer d' order desk =>
      subst desk
      exact sound.congr rfl rfl
  | fulfils sale completes mid d' fulfil frame =>
      obtain ⟨entry, found, between, primaryId, associateId, _, _, provides⟩ :=
        Fulfilment.fulfil_provides h fulfil
      have first := provides.primary.sound sound
      have both : mid.store.Sound := by
        cases counts : v.settings.otherMemberTypes && entry.associate.isPresent with
        | true => exact (provides.associate counts).sound first
        | false =>
            obtain ⟨_, users, members⟩ := provides.alone counts
            exact first.congr users members
      exact both.congr (frame.store.users (by simp)) (frame.store.members (by simp))

end Visit

namespace Desk

theorem sound_after (visits : List Visit) : (initial.after visits).store.Sound := by
  have nobody : ∀ i u, initial.store.users.find? i ≠ some u := by
    intro i u row
    have empty := initial.store.users.find?_of_empty (i := i) (by decide +kernel)
    cases row.symm.trans empty
  refine (after_induction (P := fun d => d.Installed ∧ d.store.Sound) visits
    ⟨initial_installed, ⟨fun i _ u _ row => absurd row (nobody i u),
      fun i u row => absurd row (nobody i u)⟩⟩ ?_).2
  exact fun d v _ h => ⟨h.1.of_frame (v.serve_frame d), v.serve_sound h.1 h.2⟩

/-- When a household of two has been provided for, both persons are paid up for the year of their
sale. They are two users unless they were taken for one. -/
theorem household_of_two (visits : List Visit) (v : Visit) (sale : Sale)
    (enabled : v.settings.otherMemberTypes = true) (present : sale.associate.isPresent = true)
    (told : (v.serve (initial.after visits)).1 = .settled (.fulfilled sale)) :
    (initial.after (visits ++ [v])).store.Covers sale.primary.userId sale.year ∧
      (initial.after (visits ++ [v])).store.Covers sale.associate.userId sale.year ∧
      ∃ found mid, findMatches sale (initial.after visits) = .ok found mid ∧
        (sale.primary.userId = sale.associate.userId ↔
          Household.TakenForOne found sale (initial.after (visits ++ [v])).store) := by
  have installed := initial_installed.after visits
  have sound := sound_after visits
  rw [after_append]
  generalize initial.after visits = d at told installed sound ⊢
  change (v.serve d).2.store.Covers _ _ ∧ (v.serve d).2.store.Covers _ _ ∧ ∃ found mid, _ ∧
    (_ ↔ Household.TakenForOne found sale (v.serve d).2.store)
  have completes := Visit.completes_of_told told
  have paid := Visit.serve_paidFor installed completes
  obtain ⟨mid, fulfil, frame⟩ := Visit.serve_completes completes
  obtain ⟨entry, found, between, primaryId, associateId, looked, rfl, provides⟩ :=
    Fulfilment.fulfil_provides installed fulfil
  rw [enabled] at provides
  have second := provides.associate (by rw [Bool.true_and]; exact present)
  have same := provides.same_iff sound present
    (Fulfilment.provided entry found primaryId associateId) rfl rfl ⟨rfl, rfl⟩
  refine ⟨paid.covers List.mem_cons_self,
    paid.covers (Household.associate_mem_users (Fulfilment.userId_pos second)), found,
    looked.choose, looked.choose_spec, ?_⟩
  unfold Household.TakenForOne at same ⊢
  rw [frame.store.users (by simp)]
  exact same

/-- A couple that shares an email joins. -/
theorem household_of_two_sharing_email :
    let form : Site.MembershipForm :=
      { firstName := "Pierre", lastName := "Curie", email := "curie@example.org"
        associateFirstName := "Marie", associateLastName := "Curie"
        associateEmail := "Curie@example.org" }
    let back := Visit.sampleReturn 1757934000 1
    let after := initial.after ([.sampleStart 1757930400 form] ++ [back])
    ∃ sale, after.store.Covers sale.primary.userId sale.year ∧
      after.store.Covers sale.associate.userId sale.year ∧
      ∃ found mid, findMatches sale (initial.after [.sampleStart 1757930400 form]) = .ok found mid ∧
        (sale.primary.userId = sale.associate.userId ↔
          Household.TakenForOne found sale after.store) := by
  intro form back after
  have told : ((back.serve (initial.after [.sampleStart 1757930400 form])).1.fulfilled?.any
      (·.associate.isPresent)) = true := by decide +kernel
  obtain ⟨sale, told, present⟩ := (Option.any_eq_true _ _).mp told
  exact ⟨sale, household_of_two _ back sale rfl present (Answer.fulfilled?_eq_some.mp told)⟩

/-- Father and son have the same names, and emails of their own. They join, and renew a year later. -/
def namesakes : List Visit :=
  let form : Site.MembershipForm :=
    { firstName := "John", lastName := "Smith", email := "john@example.org"
      associateFirstName := "John", associateLastName := "Smith"
      associateEmail := "junior@example.org" }
  [.sampleStart 1726394400 form, .sampleReturn 1726398000 1, .sampleStart 1757930400 form,
    .sampleReturn 1757934000 2]

/-- Renewing takes both for the father, and the son is not paid up for the year. -/
theorem namesakes_are_taken_for_one :
    (∀ v ∈ namesakes, v.Admissible) ∧
    (∃ sale, .settled (.fulfilled sale) ∈ initial.answers namesakes ∧ sale.year = 2025 ∧
      sale.associate.isPresent = true ∧ sale.primary.userId = sale.associate.userId) ∧
    (initial.after (namesakes.take 2)).store.Covers 2 2024 ∧
    ¬ (initial.after namesakes).store.Covers 2 2025 := by
  refine ⟨?_, ?_, by decide +kernel, by decide +kernel⟩
  · simp only [namesakes, List.forall_mem_cons]
    exact ⟨Visit.admissible_sampleStart (by decide +kernel) (by decide +kernel),
      Visit.admissible_sampleReturn (by decide +kernel),
      Visit.admissible_sampleStart (by decide +kernel) (by decide +kernel),
      Visit.admissible_sampleReturn (by decide +kernel), List.forall_mem_nil _⟩
  · have told : ((initial.answers namesakes).any fun answer => answer.fulfilled?.any fun sale =>
        sale.year = 2025 && sale.associate.isPresent &&
          sale.primary.userId == sale.associate.userId) = true := by decide +kernel
    obtain ⟨answer, mem, told⟩ := List.any_eq_true.mp told
    obtain ⟨sale, told, same⟩ := (Option.any_eq_true _ _).mp told
    obtain rfl := Answer.fulfilled?_eq_some.mp told
    simp only [Bool.and_eq_true, decide_eq_true_eq, beq_iff_eq] at same
    exact ⟨sale, mem, same.1.1, same.1.2, same.2⟩

end Desk

end Dues
