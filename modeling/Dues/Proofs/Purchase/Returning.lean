import Dues.Proofs.Purchase.Ownership

/-! # Customers who come again

Whoever has joined once is found ever after. The account that a first sale is recorded for has the
customer's email as its login name, no visit takes away accounts, login names or memberships, and a
member is found by login name before anything is opened. Names do not matter for any of this.
-/

namespace Dues

open Dues.Text (trim sameIgnoringCase)
open Dues.Time (Instant)

namespace Store

variable {s s' s'' : Store} {login : String} {userId i : Int} {now ends : Instant}

/-- Nobody loses an account or its login name, or the membership. -/
structure Retains (s s' : Store) : Prop where
  accounts : ∀ i user, s.users.find? i = some user → s'.users.find? i = some user
  members : ∀ userId, s.IsMember userId → s'.IsMember userId

namespace Retains

theorem of_same (users : s'.users = s.users) (members : s'.members = s.members) :
    s.Retains s' where
  accounts i user row := by rwa [users]
  members u isMember := (isMember_congr members u).mpr isMember

theorem trans (h : s.Retains s') (h' : s'.Retains s'') : s.Retains s'' where
  accounts i user row := h'.accounts i user (h.accounts i user row)
  members u isMember := h'.members u (h.members u isMember)

end Retains

namespace Owner

variable {person other : Participant}

theorem retained (h : s.Owner person userId) (retains : s.Retains s') : s'.Owner person userId := by
  obtain ⟨user, row, same⟩ := h.login
  exact ⟨⟨user, retains.accounts userId user row, same⟩, retains.members userId h.isMember⟩

theorem of_sameEmail (h : s.Owner person userId)
    (same : sameIgnoringCase (trim other.email) (trim person.email) = true) :
    s.Owner other userId := by
  obtain ⟨user, row, named⟩ := h.login
  rw [Text.sameIgnoringCase_iff] at named same
  exact ⟨⟨user, row, Text.sameIgnoringCase_iff.mpr (named.trans same.symm)⟩, h.isMember⟩

end Owner

/-- Whoever owns the email that a person is looked for by, the person is found. -/
theorem Found.known {person : Participant} {found : Int} (h : s.Found (trim person.email) found)
    (owner : s.Owner person userId) : 0 < found := by
  cases h with
  | member known => exact known
  | nobody _ free =>
      obtain ⟨user, row, same⟩ := owner.login
      exact absurd owner.isMember (free userId user row same)

theorem Account.named {users : Table User} (h : s.Account login userId users) :
    ∃ user, users.find? userId = some user ∧ sameIgnoringCase user.loginName login = true := by
  cases h with
  | existing user account named => exact ⟨user, account, named⟩
  | opened id =>
      refine ⟨⟨login, Register.lockedPassword, true⟩, ?_, Text.sameIgnoringCase_iff.mpr rfl⟩
      rw [Table.find?_insert, if_pos id]

/-- Paying enters a row only for someone who was no member. -/
theorem PaidUp.enters {members : Table Member} (h : s.PaidUp userId now ends members) {m : Member}
    (row : members.find? i = some m) (new : s.members.find? i = none) :
    m.userId = userId ∧ ¬ s.IsMember userId := by
  cases h with
  | extended isMember =>
      rw [find?_withEnd, new] at row
      cases row
  | enrolled stranger =>
      rw [Table.find?_insert, new] at row
      split at row
      next =>
        cases row
        exact ⟨rfl, stranger⟩
      next => cases row

theorem Provided.retains {known : Int} (h : s.Provided s' login known userId now ends) :
    s.Retains s' where
  accounts i user row := by
    rcases h.users with ⟨_, _, same⟩ | ⟨_, account⟩
    · rwa [same]
    · exact account.find?_of_some row
  members u isMember := h.members.paidFor.isMember_of_isMember isMember

theorem Provided.opens {known : Int} (h : s.Provided s' login known userId now ends) {user : User}
    (row : s'.users.find? i = some user) (new : s.users.find? i = none) : i = userId := by
  rcases h.users with ⟨_, _, same⟩ | ⟨_, account⟩
  · rw [same, new] at row
    cases row
  · rcases account.rows row with old | ⟨same, _⟩
    · cases new.symm.trans old
    · exact same

end Store

namespace Fulfilment

variable {s between s' : Store} {sale : Sale} {found : Matches} {now : Instant}
  {withAssociate : Bool} {primaryId associateId i : Int}

namespace Provides

theorem retains_first
    (h : Provides s between s' sale found now withAssociate primaryId associateId) :
    between.Retains s' := by
  cases counts : withAssociate && sale.associate.isPresent with
  | true => exact (h.associate counts).retains
  | false =>
      obtain ⟨_, users, members⟩ := h.alone counts
      exact .of_same users members

theorem retains (h : Provides s between s' sale found now withAssociate primaryId associateId) :
    s.Retains s' := h.primary.retains.trans h.retains_first

theorem owner (h : Provides s between s' sale found now withAssociate primaryId associateId)
    (unknown : ¬ 0 < found.primary) : s'.Owner sale.primary primaryId := by
  rcases h.primary.users with ⟨known, _⟩ | ⟨_, account⟩
  · exact absurd known unknown
  · have isMember := h.primary.members.paidFor.members primaryId (List.mem_singleton_self _)
    exact Store.Owner.retained ⟨account.named, isMember⟩ h.retains_first

theorem opens (h : Provides s between s' sale found now withAssociate primaryId associateId)
    (known : 0 < found.primary) {user : User} (row : s'.users.find? i = some user)
    (new : s.users.find? i = none) : i = associateId := by
  have first : between.users = s.users := by
    rcases h.primary.users with ⟨_, _, same⟩ | ⟨unknown, _⟩
    · exact same
    · omega
  rw [← first] at new
  cases counts : withAssociate && sale.associate.isPresent with
  | true => exact (h.associate counts).opens row new
  | false =>
      obtain ⟨_, users, _⟩ := h.alone counts
      rw [users, new] at row
      cases row

theorem enters (h : Provides s between s' sale found now withAssociate primaryId associateId)
    (isMember : s.IsMember primaryId) {m : Member} (row : s'.members.find? i = some m)
    (new : s.members.find? i = none) : m.userId = associateId ∧ m.userId ≠ primaryId := by
  have first : between.members.find? i = none := by
    refine Option.eq_none_iff_forall_ne_some.mpr fun old enters => ?_
    exact (h.primary.members.enters enters new).2 isMember
  cases counts : withAssociate && sale.associate.isPresent with
  | true =>
      obtain ⟨rfl, stranger⟩ := (h.associate counts).members.enters row first
      refine ⟨rfl, ?_⟩
      rintro rfl
      exact stranger (h.primary.retains.members _ isMember)
  | false =>
      obtain ⟨_, _, members⟩ := h.alone counts
      rw [members, first] at row
      cases row

end Provides

end Fulfilment

namespace Visit

variable {d : Desk}

/-- No visit takes anything away from the persons on the register. -/
theorem serve_retains (h : d.Installed) (v : Visit) : d.store.Retains (v.serve d).2.store := by
  have effect := v.serve_effect d
  generalize v.serve d = r at effect
  cases effect with
  | idle answer d' frame =>
      exact .of_same (frame.store.users (by simp)) (frame.store.members (by simp))
  | enters answer d' order desk =>
      subst desk
      exact .of_same rfl rfl
  | fulfils sale completes mid d' fulfil frame =>
      obtain ⟨_, _, _, _, _, _, _, provides⟩ := Fulfilment.fulfil_provides h fulfil
      exact provides.retains.trans
        (.of_same (frame.store.users (by simp)) (frame.store.members (by simp)))

/-- A visit that records a new member makes them the owner of their email. -/
theorem serve_joins (h : d.Installed) {v : Visit} {sale : Sale}
    (completes : v.completes d = some sale) (new : sale.kind = .newMember) :
    (v.serve d).2.store.Owner sale.primary sale.primary.userId := by
  obtain ⟨mid, fulfil, frame⟩ := serve_completes completes
  obtain ⟨entry, found, between, primaryId, associateId, _, rfl, provides⟩ :=
    Fulfilment.fulfil_provides h fulfil
  have unknown : ¬ 0 < found.primary := by
    intro known
    rw [Fulfilment.provided, Matches.isRenewal, if_pos (decide_eq_true known)] at new
    cases new
  have owner := provides.owner unknown
  have noted : mid.store.Retains (v.serve d).2.store :=
    .of_same (frame.store.users (by simp)) (frame.store.members (by simp))
  exact Store.Owner.retained ⟨owner.login, owner.isMember⟩ noted

/-- A visit that completes a sale for the owner of an email renews a membership. The account and the
membership that it is recorded for were there before, and what is new is the associate's. -/
structure Renews (v : Visit) (d : Desk) (sale : Sale) : Prop where
  kind : sale.kind = .renewal
  row : (v.serve d).2.store.sales.find? sale.id = some sale.record
  account : ∃ user, d.store.users.find? sale.primary.userId = some user
  isMember : d.store.IsMember sale.primary.userId
  opened : ∀ i user, (v.serve d).2.store.users.find? i = some user →
    d.store.users.find? i = none → i = sale.associate.userId ∧ i ≠ sale.primary.userId
  enrolled : ∀ i m, (v.serve d).2.store.members.find? i = some m →
    d.store.members.find? i = none →
      m.userId = sale.associate.userId ∧ m.userId ≠ sale.primary.userId

theorem serve_renews (h : d.Installed) {v : Visit} {sale : Sale}
    (completes : v.completes d = some sale) {userId : Int}
    (owner : d.store.Owner sale.primary userId) : v.Renews d sale := by
  obtain ⟨mid, fulfil, frame⟩ := serve_completes completes
  have row := Fulfilment.fulfil_row fulfil
  obtain ⟨entry, found, between, primaryId, associateId, _, rfl, provides⟩ :=
    Fulfilment.fulfil_provides h fulfil
  have asked : d.store.Owner entry.primary userId := ⟨owner.login, owner.isMember⟩
  have known := provides.asFound.primary.known asked
  obtain ⟨hasAccount, isMember⟩ : (∃ user, d.store.users.find? found.primary = some user) ∧
      d.store.IsMember found.primary := by
    cases provides.asFound.primary with
    | nobody unknown => omega
    | member _ hasAccount isMember => exact ⟨hasAccount, isMember⟩
  have same : primaryId = found.primary := by
    rcases provides.primary.users with ⟨_, same, _⟩ | ⟨unknown, _⟩
    · exact same
    · omega
  rw [← same] at hasAccount isMember
  refine ⟨?_, ?_, hasAccount, isMember, fun i user opened new => ?_, fun i m entered new => ?_⟩
  · rw [Fulfilment.provided, Matches.isRenewal, if_pos (decide_eq_true known)]
  · rw [frame.store.sales (by simp)]
    exact row
  · rw [frame.store.users (by simp)] at opened
    refine ⟨provides.opens known opened new, ?_⟩
    rintro rfl
    obtain ⟨user, account⟩ := hasAccount
    cases new.symm.trans account
  · rw [frame.store.members (by simp)] at entered
    exact provides.enters isMember entered new

end Visit

namespace Desk

theorem Installed.after_retains {d : Desk} (h : d.Installed) (visits : List Visit) :
    d.store.Retains (d.after visits).store := by
  induction visits generalizing d with
  | nil => exact .of_same rfl rfl
  | cons v visits ih =>
      exact (v.serve_retains h).trans (ih (h.of_frame (v.serve_frame d)))

/-- Nobody joins twice. Once a sale has been recorded for a new member, every sale under the same
email that is completed later is a renewal, be there blanks around the email or letters of the other
case, and whatever was completed in between. It opens no account and enters no membership for
whoever it is recorded for: both were there before, and all that is new belongs to the associate. -/
theorem nobody_joins_twice (before between : List Visit) (v w : Visit) (first sale : Sale)
    (joined : v.completes (initial.after before) = some first) (new : first.kind = .newMember)
    (completes : w.completes (initial.after (before ++ v :: between)) = some sale)
    (same : sameIgnoringCase (trim sale.primary.email) (trim first.primary.email) = true) :
    w.Renews (initial.after (before ++ v :: between)) sale := by
  have installed := initial_installed.after before
  have installed' := installed.of_frame (v.serve_frame (initial.after before))
  have owner := (Visit.serve_joins installed joined new).retained (installed'.after_retains between)
  rw [after_append, after_cons] at completes ⊢
  exact Visit.serve_renews (installed'.after between) completes (owner.of_sameEmail same)

/-- Ada joins. Then William joins, whose associate takes her names. -/
def adaAndHerNamesake : List Visit :=
  [.sampleStart 1726394400
      { firstName := "Ada", lastName := "Lovelace", email := "ada@example.org" },
    .sampleReturn 1726398000 1,
    .sampleStart 1726394400
      { firstName := "William", lastName := "King", email := "king@example.org"
        associateFirstName := "Ada", associateLastName := "Lovelace" },
    .sampleReturn 1726398000 2]

/-- A year later Ada comes again, under another name, with her email in other letters. -/
theorem ada_renews :
    let before := adaAndHerNamesake.take 1
    let between := adaAndHerNamesake.drop 2 ++ [.sampleStart 1757930400
      { firstName := "Augusta", lastName := "King", email := " ADA@Example.org"
        associateFirstName := "Byron", associateLastName := "King" }]
    ∃ sale, (Visit.sampleReturn 1757934000 3).completes
        (initial.after (before ++ Visit.sampleReturn 1726398000 1 :: between)) = some sale ∧
      sale.primary.userId = 1 ∧
      (Visit.sampleReturn 1757934000 3).Renews
        (initial.after (before ++ Visit.sampleReturn 1726398000 1 :: between)) sale := by
  intro before between
  have joined : ((Visit.sampleReturn 1726398000 1).completes (initial.after before)).any
      (fun first => first.kind == .newMember &&
        first.primary.email == "ada@example.org") = true := by
    decide +kernel
  have again : ((Visit.sampleReturn 1757934000 3).completes
      (initial.after (before ++ Visit.sampleReturn 1726398000 1 :: between))).any (fun sale =>
        sale.primary.userId == 1 && trim sale.primary.email == "ADA@Example.org") = true := by
    decide +kernel
  obtain ⟨first, joined, isNew⟩ := (Option.any_eq_true _ _).mp joined
  obtain ⟨sale, again, known⟩ := (Option.any_eq_true _ _).mp again
  simp only [Bool.and_eq_true, beq_iff_eq] at isNew known
  have same : sameIgnoringCase (trim sale.primary.email) (trim first.primary.email) = true := by
    rw [isNew.2, known.2]
    decide +kernel
  exact ⟨sale, again, known.1,
    nobody_joins_twice before between _ _ first sale joined isNew.1 again same⟩

end Desk

end Dues
