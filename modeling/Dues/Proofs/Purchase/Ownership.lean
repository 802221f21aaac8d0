import Dues.Proofs.Purchase.Extension
import Dues.Proofs.Register.Noting

/-! # Whose payment it is

A person is looked for by email and by both names at once, and of all members who match the one with
the lowest number is taken. So a payment goes to the member who has the payer's email as login name,
unless a member with the same names has joined before them.
-/

namespace Dues

open Dues.Register (memberRole memberRoleId ProfileField findMember fieldNumber)
open Dues.Text (trim sameIgnoringCase)
open Dues.Time (Instant)
open Dues.Time.MembershipYear (ends)

namespace Store

/-- Whether what is kept for a user in the field `name` is `text` up to ASCII case. -/
def IsKnownAs (s : Store) (userId : Int) (name text : String) : Prop :=
  ∃ fieldId, s.fieldId? name = .ok (some fieldId) ∧ s.holdsValue userId fieldId text = true

/-- A member whose login name is the email of a person, up to ASCII case. -/
structure Owner (s : Store) (person : Participant) (userId : Int) : Prop where
  login : ∃ user, s.users.find? userId = some user ∧
    sameIgnoringCase user.loginName (trim person.email) = true
  isMember : s.IsMember userId

/-- A member who has both names of a person, up to ASCII case. -/
structure Namesake (s : Store) (person : Participant) (userId : Int) : Prop where
  account : ∃ user, s.users.find? userId = some user
  isMember : s.IsMember userId
  firstName : s.IsKnownAs userId ProfileField.firstName.name (trim person.firstName)
  lastName : s.IsKnownAs userId ProfileField.lastName.name (trim person.lastName)

theorem isKnownAs_iff {s : Store} {fieldId userId : Int} {name text : String}
    (looked : s.fieldId? name = .ok (some fieldId)) :
    s.IsKnownAs userId name text ↔ s.holdsValue userId fieldId text = true := by
  constructor
  · rintro ⟨other, found, holds⟩
    cases looked.symm.trans found
    exact holds
  · exact fun holds => ⟨fieldId, looked, holds⟩

end Store

namespace Register

variable {d d' : Desk} {userId : Int}

theorem findMember_reads (h : d.Installed) {firstName lastName email : String}
    (ok : findMember firstName lastName email d = .ok userId d') :
    ∃ a b, d.store.fieldId? ProfileField.firstName.name = .ok (some a) ∧
      d.store.fieldId? ProfileField.lastName.name = .ok (some b) ∧
      d.store.memberMatching memberRole (trim email) a (trim firstName) b (trim lastName) =
        .ok userId := by
  obtain ⟨a, b, d₁, d₂, first, last, found⟩ := findMember_ok ok
  have frame := (fieldNumber_touches _).of_ok first
  have lastLooked := fieldNumber_ok (h.of_frame frame) last
  rw [frame.store.eq] at lastLooked
  exact ⟨a, b, fieldNumber_ok h first, lastLooked, found⟩

/-- Whoever is found has the lowest number of all who own the email or have the names. -/
theorem findMember_least (h : d.Installed) {person : Participant}
    (ok : findMember person.firstName person.lastName person.email d = .ok userId d') :
    (userId = 0 ∧ ∀ u, ¬ d.store.Owner person u ∧ ¬ d.store.Namesake person u) ∨
      ((d.store.Owner person userId ∨ d.store.Namesake person userId) ∧
        ∀ u, d.store.Owner person u ∨ d.store.Namesake person u → userId ≤ u) := by
  obtain ⟨a, b, first, last, matching⟩ := findMember_reads h ok
  have matched_iff : ∀ u, d.store.Matched memberRole (trim person.email) a (trim person.firstName) b
      (trim person.lastName) u ↔ d.store.Owner person u ∨ d.store.Namesake person u := by
    intro u
    constructor
    · rintro ⟨⟨user, row, same | ⟨firstName, lastName⟩⟩, role⟩
      · exact .inl ⟨⟨user, row, same⟩, h.holdsRole_iff.mp role⟩
      · exact .inr ⟨⟨user, row⟩, h.holdsRole_iff.mp role,
          (Store.isKnownAs_iff first).mpr firstName, (Store.isKnownAs_iff last).mpr lastName⟩
    · rintro (⟨⟨user, row, same⟩, role⟩ | ⟨⟨user, row⟩, role, firstName, lastName⟩)
      · exact ⟨⟨user, row, .inl same⟩, h.holdsRole_iff.mpr role⟩
      · exact ⟨⟨user, row, .inr ⟨(Store.isKnownAs_iff first).mp firstName,
          (Store.isKnownAs_iff last).mp lastName⟩⟩, h.holdsRole_iff.mpr role⟩
  rcases Store.memberMatching_least matching with ⟨nobody, never⟩ | ⟨matched, least⟩
  · refine .inl ⟨nobody, fun u => ?_⟩
    exact not_or.mp (mt (matched_iff u).mpr (never u))
  · exact .inr ⟨(matched_iff userId).mp matched, fun u either => least u ((matched_iff u).mpr either)⟩

end Register

namespace Fulfilment

variable {d d' : Desk} {saleId : Int} {paymentId : String} {now : Instant} {withAssociate : Bool}
  {sale entry : Sale} {payer : Int}

theorem fulfil_payer (h : d.Installed) {mid : Desk}
    (found : findMember entry.primary.firstName entry.primary.lastName entry.primary.email d =
      .ok payer mid) (known : 0 < payer)
    (entered : d.store.sale? saleId = .ok (some entry))
    (ok : fulfil saleId paymentId now withAssociate d = .ok (.fulfilled sale) d') :
    sale.primary.userId = payer := by
  obtain ⟨entry', result, _, entered', _, all, rfl, _⟩ := fulfil_ok ok
  cases entered.symm.trans entered'
  obtain ⟨matched, _, primaryId, _, ⟨_, looked⟩, rfl, provides⟩ := provideAll_ok h all
  obtain ⟨_, first, _⟩ := findMatches_steps looked
  cases found.symm.trans first
  rcases provides.primary.users with ⟨_, same, _⟩ | ⟨unknown, _⟩
  · exact same
  · exact absurd known (Int.not_lt.mpr unknown)

end Fulfilment

namespace Desk

/-- Where a payment goes. Let one member own the email of the first person on a sale. Whoever is
looked up for that person is the owner, or a member with the same names and a lower number, and
nobody of that kind has a lower number still. So it is the owner just where no namesake was there
before them. If the sale is then fulfilled, it is that user's membership that is extended, to the end
of the year of the sale, and it is recorded for them. -/
theorem payment_goes_to_lowest_match (visits : List Visit) (sale : Sale) (owner : Int)
    (own : (initial.after visits).store.Owner sale.primary owner)
    (only : ∀ other, (initial.after visits).store.Owner sale.primary other → other = owner) :
    ∃ payer mid, findMember sale.primary.firstName sale.primary.lastName sale.primary.email
        (initial.after visits) = .ok payer mid ∧
      payer ≤ owner ∧
      (payer ≠ owner → (initial.after visits).store.Namesake sale.primary payer) ∧
      (∀ other, (initial.after visits).store.Namesake sale.primary other → payer ≤ other) ∧
      (payer = owner ↔
        ∀ other, (initial.after visits).store.Namesake sale.primary other → owner ≤ other) ∧
      ∀ (v : Visit) (done : Sale),
        (initial.after visits).store.sale? done.id = .ok (some sale) →
        (v.serve (initial.after visits)).1 = .settled (.fulfilled done) →
        done.primary.userId = payer ∧
        (v.serve (initial.after visits)).2.store.sales.find? done.id = some done.record ∧
        (v.serve (initial.after visits)).2.store.IsMember payer ∧
        ∀ i m, (v.serve (initial.after visits)).2.store.members.find? i = some m →
          m.userId = payer → m.roleId = memberRoleId → m.ends = ends sale.year := by
  have installed := initial_installed.after visits
  generalize initial.after visits = d at own only installed
  obtain ⟨payer, mid, found⟩ := Register.findMember_succeeds installed sale.primary.firstName
    sale.primary.lastName sale.primary.email
  rcases Register.findMember_least installed found with ⟨_, nobody⟩ | ⟨either, least⟩
  · exact absurd own (nobody owner).1
  · refine ⟨payer, mid, found, least owner (.inl own), fun other => ?_,
      fun other namesake => least other (.inr namesake), ?_, fun v done entered told => ?_⟩
    · exact either.resolve_left fun owns => other (only payer owns)
    · constructor
      · rintro rfl other namesake
        exact least other (.inr namesake)
      · intro later
        rcases either with owns | namesake
        · exact only payer owns
        · exact Int.le_antisymm (least owner (.inl own)) (later payer namesake)
    · have completes := Visit.completes_of_told told
      obtain ⟨after, fulfil, frame⟩ := Visit.serve_completes completes
      have paid := Visit.serve_paidFor installed completes
      have known : 0 < payer := by
        rcases either with ⟨⟨user, row, _⟩, _⟩ | ⟨⟨user, row⟩, _⟩
        · exact Store.Table.id_pos row
        · exact Store.Table.id_pos row
      have recorded := Fulfilment.fulfil_payer installed found known entered fulfil
      have payers : payer ∈ Household.users done := by
        rw [← recorded]
        exact List.mem_cons_self
      refine ⟨recorded, ?_, paid.members payer payers, fun i m row user role => ?_⟩
      · rw [frame.store.sales (by simp)]
        exact Fulfilment.fulfil_row fulfil
      · rw [paid.ends_eq row role (user ▸ payers), (Fulfilment.fulfil_entry fulfil entered).1]

theorem owner_eq_of_all {s : Store} {person : Participant} {owner : Int}
    (all : (s.users.rows.all fun r =>
      !sameIgnoringCase r.2.loginName (trim person.email) || r.1 == owner) = true) {other : Int}
    (owns : s.Owner person other) : other = owner := by
  obtain ⟨user, row, same⟩ := owns.login
  have either := List.all_eq_true.mp all _ (Store.Table.find?_eq_some.mp row)
  dsimp only at either
  rw [same, Bool.not_true, Bool.false_or] at either
  exact beq_iff_eq.mp either

theorem owner_of_any {s : Store} {person : Participant} {owner : Int} (isMember : s.IsMember owner)
    (any : (s.users.find? owner).any (fun user =>
      sameIgnoringCase user.loginName (trim person.email)) = true) : s.Owner person owner := by
  obtain ⟨user, row, same⟩ := (Option.any_eq_true _ _).mp any
  exact ⟨⟨user, row, same⟩, isMember⟩

/-- Father and son have the same names, and emails of their own. They join together, and a year later
the son comes alone. -/
def fatherAndSon : List Visit :=
  [.sampleStart 1726394400
      { firstName := "John", lastName := "Smith", email := "john@example.org"
        associateFirstName := "John", associateLastName := "Smith"
        associateEmail := "junior@example.org" },
    .sampleReturn 1726398000 1,
    .sampleStart 1757930400
      { firstName := "John", lastName := "Smith", email := "Junior@example.org" }]

/-- What the son pays goes to the father, though the email is the son's and nobody else's. -/
theorem son_pays_for_father :
    ∃ sale done : Sale, (initial.after fatherAndSon).store.sale? 2 = .ok (some sale) ∧
      (initial.after fatherAndSon).store.Owner sale.primary 2 ∧
      (∀ other, (initial.after fatherAndSon).store.Owner sale.primary other → other = 2) ∧
      (∃ mid, findMember sale.primary.firstName sale.primary.lastName sale.primary.email
        (initial.after fatherAndSon) = .ok 1 mid) ∧
      ((Visit.sampleReturn 1757934000 2).serve (initial.after fatherAndSon)).1 =
        .settled (.fulfilled done) ∧ done.primary.userId = 1 ∧
      ¬ ((Visit.sampleReturn 1757934000 2).serve (initial.after fatherAndSon)).2.store.Covers 2
        2025 := by
  have entered : ((initial.after fatherAndSon).store.sales.find? 2).any (fun record =>
      (record.sale? 2).any fun sale => sale.primary.firstName == "John" &&
        sale.primary.lastName == "Smith" && sale.primary.email == "Junior@example.org") = true := by
    decide +kernel
  obtain ⟨record, row, entered⟩ := (Option.any_eq_true _ _).mp entered
  obtain ⟨sale, read, names⟩ := (Option.any_eq_true _ _).mp entered
  simp only [Bool.and_eq_true, beq_iff_eq] at names
  obtain ⟨⟨firstName, lastName⟩, email⟩ := names
  have told : ((Visit.sampleReturn 1757934000 2).serve (initial.after fatherAndSon)).1.fulfilled?.any
      (·.primary.userId == 1) = true := by decide +kernel
  obtain ⟨done, told, payer⟩ := (Option.any_eq_true _ _).mp told
  have isMember : (initial.after fatherAndSon).store.IsMember 2 := by
    obtain ⟨i, m, row, own, _⟩ :
        (initial.after fatherAndSon).store.Covers 2 2024 := by decide +kernel
    exact ⟨i, m, row, own⟩
  refine ⟨sale, done, Store.sale?_ok.mpr ⟨by decide +kernel, record, row, read⟩,
    owner_of_any isMember ?_, fun other => owner_eq_of_all ?_, ?_,
    Answer.fulfilled?_eq_some.mp told, beq_iff_eq.mp payer, by decide +kernel⟩
  · rw [email]
    decide +kernel
  · rw [email]
    decide +kernel
  · rw [firstName, lastName, email]
    have first : (match findMember "John" "Smith" "Junior@example.org"
        (initial.after fatherAndSon) with
      | .ok userId _ => userId == 1
      | .error _ _ => false) = true := by decide +kernel
    split at first
    next userId mid found =>
      obtain rfl := beq_iff_eq.mp first
      exact ⟨mid, found⟩
    next => cases first

/-- The father comes alone, and pays for himself. -/
theorem father_pays_for_himself :
    let visits := fatherAndSon.take 2 ++ [.sampleStart 1757930400
      { firstName := "John", lastName := "Smith", email := "john@example.org" }]
    ∃ done, ((Visit.sampleReturn 1757934000 2).serve (initial.after visits)).1 =
      .settled (.fulfilled done) ∧ done.primary.userId = 1 := by
  intro visits
  have entered : ((initial.after visits).store.sales.find? 2).any (fun record =>
      (record.sale? 2).any fun sale => sale.primary.email == "john@example.org") = true := by
    decide +kernel
  obtain ⟨record, row, entered⟩ := (Option.any_eq_true _ _).mp entered
  obtain ⟨sale, read, email⟩ := (Option.any_eq_true _ _).mp entered
  have told : ((Visit.sampleReturn 1757934000 2).serve (initial.after visits)).1.fulfilled?.any
      (·.id == 2) = true := by decide +kernel
  obtain ⟨done, told, number⟩ := (Option.any_eq_true _ _).mp told
  have isMember : (initial.after visits).store.IsMember 1 := by
    obtain ⟨i, m, row, own, _⟩ : (initial.after visits).store.Covers 1 2024 := by decide +kernel
    exact ⟨i, m, row, own⟩
  have any : ((initial.after visits).store.users.find? 1).any (fun user =>
      sameIgnoringCase user.loginName (trim sale.primary.email)) = true := by
    rw [beq_iff_eq.mp email]
    decide +kernel
  have all : ((initial.after visits).store.users.rows.all fun r =>
      !sameIgnoringCase r.2.loginName (trim sale.primary.email) || r.1 == 1) = true := by
    rw [beq_iff_eq.mp email]
    decide +kernel
  have positive : ∀ other, (initial.after visits).store.Namesake sale.primary other → 1 ≤ other := by
    rintro other ⟨⟨user, row⟩, _⟩
    exact Store.Table.id_pos row
  have told := Answer.fulfilled?_eq_some.mp told
  have stored : (initial.after visits).store.sale? done.id = .ok (some sale) := by
    rw [beq_iff_eq.mp number]
    exact Store.sale?_ok.mpr ⟨by decide +kernel, record, row, read⟩
  obtain ⟨payer, mid, _, _, _, _, himself, fulfilled⟩ := payment_goes_to_lowest_match visits sale 1
    (owner_of_any isMember any) fun other => owner_eq_of_all all
  obtain ⟨recorded, _⟩ := fulfilled _ done stored told
  exact ⟨done, told, recorded.trans (himself.mpr positive)⟩

end Desk

end Dues
