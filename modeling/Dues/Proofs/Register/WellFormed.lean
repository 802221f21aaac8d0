import Dues.Proofs.Register.Noting
import Dues.Proofs.Register.Value
import Dues.Proofs.Store.Roles

/-! # Well-formed registers

The definitions of the tables ask for less than the register keeps to: they let login names differ
in case only, and members be members twice. Profile values are texts to them, whatever the type of
the field.
-/

namespace Dues

open Store (Table TableName)
open Register (memberRole memberRoleId ProfileField ValueType)
open Dues.Text (isBlankText sameIgnoringCase)
open Dues.Time (Instant)

namespace Register

/-- A text that is read at type `t`. A flag is written as one digit, though more can be read. -/
def ValueType.Readable (t : ValueType) (text : String) : Prop :=
  (t.decode text).isSome = true ∧ (t = .flag → text = "0" ∨ text = "1")

theorem ValueType.readable_encode {t : ValueType} {value : t.Value} (fits : t.Fits value) :
    t.Readable (t.encode value) := by
  refine ⟨decode_encode_isSome fits, ?_⟩
  rintro rfl
  cases value with
  | true => exact .inr rfl
  | false => exact .inl rfl

/-- All profile fields that anything is noted in. -/
def ProfileField.declared : List (Sigma ProfileField) :=
  [⟨_, firstName⟩, ⟨_, lastName⟩, ⟨_, email⟩, ⟨_, friendOfTheMuseum⟩, ⟨_, giftAid⟩,
    ⟨_, dateLastPaid⟩, ⟨_, lastPayment⟩, ⟨_, donationToSociety⟩, ⟨_, donationToMuseum⟩,
    ⟨_, membersAtAddress⟩, ⟨_, friendsAtAddress⟩]

theorem ProfileField.eq_of_name {f g : Sigma ProfileField} (hf : f ∈ declared) (hg : g ∈ declared)
    (same : f.2.name = g.2.name) : f = g := by
  have names : (declared.map fun f => f.2.name).Nodup := by decide +kernel
  exact List.inj_on_of_nodup_map names hf hg same

end Register

/-- What the register keeps to. -/
structure Store.WellFormed (s : Store) : Prop where
  /-- Login names are not blank, and differ by more than case. -/
  filled : ∀ i u, s.users.find? i = some u → isBlankText u.loginName = false
  logins : LoginsDiffer s.users
  /-- Nobody is a member twice. -/
  members : ∀ i j m n, s.members.find? i = some m → s.members.find? j = some n →
    m.userId = n.userId → s.RoleNamed memberRole m.roleId → s.RoleNamed memberRole n.roleId → i = j
  memberOwners : ∀ i m, s.members.find? i = some m → ∃ user, s.users.find? m.userId = some user
  /-- There is one value for a user and a field. -/
  values : ∀ i j v w, s.values.find? i = some v → s.values.find? j = some w →
    v.userId = w.userId → v.fieldId = w.fieldId → i = j
  valueOwners : ∀ i v, s.values.find? i = some v → ∃ user, s.users.find? v.userId = some user
  /-- The values of a declared field can be read at its type. -/
  readable : ∀ i v, s.values.find? i = some v → ∀ field ∈ ProfileField.declared,
    s.fieldId? field.2.name = .ok (some v.fieldId) → field.1.Readable v.text

namespace Store

variable {s s' : Store} {userId fieldId : Int} {text : String} {values : Table ValueRow}

namespace WellFormed

theorem of_frame {ts : List TableName} (h : s.WellFormed) (frame : s.Frame ts s')
    (users : .users ∉ ts) (members : .members ∉ ts) (values : .values ∉ ts) : s'.WellFormed := by
  have fieldId? := frame.fieldId?
  have roleNamed : ∀ roleId, s'.RoleNamed memberRole roleId ↔ s.RoleNamed memberRole roleId := by
    intro roleId
    unfold RoleNamed
    rw [frame.roles]
  obtain ⟨filled, logins, unique, memberOwners, single, valueOwners, readable⟩ := h
  rw [← frame.users users] at filled logins memberOwners valueOwners
  rw [← frame.members members] at unique memberOwners
  rw [← frame.values values] at single valueOwners readable
  refine ⟨filled, logins, ?_, memberOwners, single, valueOwners, ?_⟩
  · intro i j m n row row' same role role'
    exact unique i j m n row row' same ((roleNamed _).mp role) ((roleNamed _).mp role')
  · intro i v row field declared looked
    exact readable i v row field declared ((fieldId? _).symm.trans looked)

theorem noted (h : s.WellFormed) {field : Sigma ProfileField}
    (declared : field ∈ ProfileField.declared)
    (looked : s.fieldId? field.2.name = .ok (some fieldId)) (fits : field.1.Readable text)
    (noted : s.Noted userId fieldId text values) : WellFormed { s with values } where
  filled := h.filled
  logins := h.logins
  members := h.members
  memberOwners := h.memberOwners
  values i j v w row row' sameUser sameField := by
    rcases noted.keys row with ⟨old, found, user, field⟩ | ⟨new, user, field, _, free⟩
    · rcases noted.keys row' with ⟨old', found', user', field'⟩ | ⟨_, user', field', _, free⟩
      · exact h.values i j old old' found found' (by omega) (by omega)
      · exact absurd ⟨by omega, by omega⟩ (free i old found)
    · rcases noted.keys row' with ⟨old', found', user', field'⟩ | ⟨new', _⟩
      · exact absurd ⟨by omega, by omega⟩ (free j old' found')
      · exact new.trans new'.symm
  valueOwners i v row := by
    rcases noted.keys row with ⟨old, found, user, _⟩ | ⟨_, user, _, account, _⟩
    · rw [← user]
      exact h.valueOwners i old found
    · rw [user]
      exact account
  readable i v row other declared' looked' := by
    rcases noted.texts row with old | ⟨_, own, written⟩
    · exact h.readable i v old other declared' looked'
    · rw [own] at looked'
      cases ProfileField.eq_of_name declared declared' (fieldId?_injective looked looked')
      rw [written]
      exact fits

end WellFormed

end Store

end Dues
