import Dues.Proofs.Purchase.Keeping
import Dues.Proofs.Register.WellFormed

/-! # The register stays well-formed

Every action that a purchase is made of keeps the register well-formed, whether it succeeds or fails
on its way. So it is well-formed after any visits.
-/

namespace Dues

open Store (Table)
open Dues.Register
open Dues.Text (isBlankText trim)
open Dues.Time (Date Instant)

namespace Store

variable {s : Store} {login : String} {userId : Int} {now ends : Instant} {users : Table User}
  {members : Table Member}

namespace WellFormed

theorem account (h : s.WellFormed) (account : s.Account login userId users) :
    WellFormed { s with users } where
  filled i u row := by
    rcases account.rows row with old | ⟨_, named, filled, _⟩
    · exact h.filled i u old
    · rwa [named]
  logins := account.loginsDiffer h.logins
  members := h.members
  memberOwners i m row := by
    obtain ⟨user, found⟩ := h.memberOwners i m row
    exact ⟨user, account.find?_of_some found⟩
  values := h.values
  valueOwners i v row := by
    obtain ⟨user, found⟩ := h.valueOwners i v row
    exact ⟨user, account.find?_of_some found⟩
  readable := h.readable

theorem extended (h : s.WellFormed) (userId : Int) (ends : Instant) :
    WellFormed { s with members := s.withEnd userId memberRoleId ends } := by
  have rows : ∀ {i m}, (s.withEnd userId memberRoleId ends).find? i = some m →
      ∃ old, s.members.find? i = some old ∧ m.userId = old.userId ∧ m.roleId = old.roleId := by
    intro i m row
    rw [find?_withEnd] at row
    obtain ⟨old, found, rfl⟩ := Option.map_eq_some_iff.mp row
    exact ⟨old, found, paidRow_userId, paidRow_roleId⟩
  obtain ⟨filled, logins, members, memberOwners, values, valueOwners, readable⟩ := h
  refine ⟨filled, logins, ?_, ?_, values, valueOwners, readable⟩
  · intro i j m n row row' same role role'
    obtain ⟨old, found, user, number⟩ := rows row
    obtain ⟨old', found', user', number'⟩ := rows row'
    rw [number] at role
    rw [number'] at role'
    exact members i j old old' found found' (by omega) role role'
  · intro i m row
    obtain ⟨old, found, user, _⟩ := rows row
    rw [user]
    exact memberOwners i old found

theorem paidUp (h : s.WellFormed) (roles : ∀ {r}, s.RoleNamed memberRole r ↔ r = memberRoleId)
    (user : s.users.contains userId = true) (paid : s.PaidUp userId now ends members) :
    WellFormed { s with members } := by
  cases paid with
  | extended => exact h.extended userId ends
  | enrolled new =>
      have apart : ∀ {i m}, s.members.find? i = some m → s.RoleNamed memberRole m.roleId →
          m.userId ≠ userId := by
        intro i m row role same
        exact new ⟨i, m, row, isMembership_eq_true.mpr ⟨same, roles.mp role⟩⟩
      obtain ⟨filled, logins, members, memberOwners, values, valueOwners, readable⟩ := h
      refine ⟨filled, logins, ?_, ?_, values, valueOwners, readable⟩
      · intro i j m n row row' same role role'
        rw [Table.find?_insert] at row row'
        split at row <;> split at row'
        next left right => exact left.trans right.symm
        next =>
          cases row
          exact absurd same.symm (apart row' role')
        next =>
          cases row'
          exact absurd same (apart row role)
        next => exact members i j m n row row' same role role'
      · intro i m row
        rw [Table.find?_insert] at row
        split at row
        next =>
          cases row
          exact Table.contains_eq_true.mp user
        next => exact memberOwners i m row

end WellFormed

end Store

/-- An installed desk with a well-formed register. -/
structure Desk.WellKept (d : Desk) : Prop where
  installed : d.Installed
  store : d.store.WellFormed

namespace Desk.WellKept

open Store (TableName)

variable {d d' : Desk} {ts : List TableName}

theorem of_frame (h : d.WellKept) (frame : d.Frame ts d') (users : .users ∉ ts)
    (members : .members ∉ ts) (values : .values ∉ ts) : d'.WellKept :=
  ⟨h.installed.of_frame frame, h.store.of_frame frame.store users members values⟩

theorem with_people (h : d.WellKept) {users : Table User} {members : Table Member}
    (wellFormed : Store.WellFormed { d.store with users, members }) :
    Desk.WellKept { d with store := { d.store with users, members } } :=
  ⟨h.installed.with_people users members, wellFormed⟩

theorem apart_from_sales : Desk.ApartFromSales Desk.WellKept := fun _ _ frame before =>
  before.of_frame frame (by decide) (by decide) (by decide)

end Desk.WellKept

open Dues.Action (Keeps)

namespace Register

theorem setValue_wellKept (field : Sigma ProfileField) (declared : field ∈ ProfileField.declared)
    (userId : Int) {value : field.1.Value} (fits : field.1.Fits value) :
    Keeps Desk.WellKept (setValue field.2 userId value) := by
  intro d before
  have touches := setValue_touches field.2 userId value d
  rcases setValue_cases before.installed field.2 userId value with
    ⟨e, d', failed, same⟩ | ⟨fieldId, values, d', set, looked, noted, store⟩
  · rw [failed] at touches ⊢
    refine ⟨before.installed.of_frame touches, ?_⟩
    change d'.store.WellFormed
    rw [same]
    exact before.store
  · rw [set] at touches ⊢
    refine ⟨before.installed.of_frame touches, ?_⟩
    change d'.store.WellFormed
    rw [store]
    exact before.store.noted declared looked (ValueType.readable_encode fits) noted

end Register

namespace Fulfilment

variable {sale : Sale} {now : Instant}

theorem describe_wellKept (userId : Int) (person : Participant) :
    Keeps Desk.WellKept (describe userId person) := by
  refine (setValue_wellKept ⟨_, .firstName⟩ (by decide) userId trivial).bind fun _ => ?_
  refine (setValue_wellKept ⟨_, .lastName⟩ (by decide) userId trivial).bind fun _ => ?_
  split
  next => exact setValue_wellKept ⟨_, .email⟩ (by decide) userId trivial
  next => exact .pure _

theorem provide_wellKept (person : Participant) (known : Int) (loginName : String) (now : Instant)
    (year : Int) : Keeps Desk.WellKept (provide person known loginName now year) := by
  intro d before
  by_cases found : 0 < known
  · rw [provide_known before.installed found]
    exact before.with_people (before.store.extended known _)
  · rcases accountNumber_cases loginName d with ⟨e, failed⟩ | ⟨userId, users, account, run⟩
    · rw [provide_of_error found failed]
      exact before
    · have opened := before.with_people (before.store.account account)
      obtain ⟨members, paid, run⟩ := provide_account found run opened.installed account.contains
      have enrolled := opened.store.paidUp opened.installed.roleNamed_iff account.contains paid
      rw [run]
      exact ((describe_wellKept userId person).bind fun _ => .pure _) _ (opened.with_people enrolled)

end Fulfilment

namespace Household

/-- A note in a declared field, with a value that it has room for. -/
def Note.Proper (n : Note) : Prop := ⟨n.type, n.field⟩ ∈ ProfileField.declared ∧ n.type.Fits n.value

theorem note_wellKept {n : Note} (proper : n.Proper) :
    Keeps Desk.WellKept (setValue n.field n.userId n.value) :=
  setValue_wellKept ⟨n.type, n.field⟩ proper.1 n.userId proper.2

theorem users_length (sale : Sale) : (users sale).length ≤ 2 := by
  unfold users
  split <;> simp

theorem friends_le (sale : Sale) : friends sale ≤ 2 := by
  unfold friends
  split <;> split <;> simp

theorem fits_of_le_two {n : Nat} (h : n ≤ 2) : ValueType.integer.Fits (n : Int) := by
  change Text.fitsSigned 32 n = true
  simp only [Text.fitsSigned, Nat.pow_eq, decide_eq_true_eq]
  omega

theorem addressNotes_proper (sale : Sale) (today : Date) :
    ∀ n ∈ addressNotes sale today, n.Proper := by
  intro n mem
  obtain ⟨userId, _, mem⟩ := List.mem_flatMap.mp mem
  simp only [List.mem_cons, List.not_mem_nil, or_false] at mem
  rcases mem with rfl | rfl | rfl
  · exact ⟨by simp [ProfileField.declared], trivial⟩
  · exact ⟨by simp [ProfileField.declared], fits_of_le_two (users_length sale)⟩
  · exact ⟨by simp [ProfileField.declared], fits_of_le_two (friends_le sale)⟩

theorem paymentNotes_proper (settings : Settings) (sale : Sale) (total : Money.Decimal) :
    ∀ n ∈ paymentNotes settings sale total, n.Proper := by
  intro n mem
  simp only [paymentNotes, List.mem_append, List.mem_cons, List.not_mem_nil, or_false,
    List.mem_ite_nil_right] at mem
  rcases mem with ((rfl | rfl) | ⟨_, rfl⟩) | rfl | rfl | rfl <;>
    exact ⟨by simp [ProfileField.declared], trivial⟩

theorem record_wellKept (settings : Settings) (sale : Sale) (now : Instant) :
    Keeps Desk.WellKept (record settings sale now) :=
  record_preserves Desk.WellKept.apart_from_sales settings sale now
    (fun today n mem => note_wellKept (addressNotes_proper sale today n mem))
    fun total n mem => note_wellKept (paymentNotes_proper settings sale total n mem)

end Household

theorem Visit.serve_wellKept {d : Desk} (h : d.WellKept) (v : Visit) : (v.serve d).2.WellKept :=
  v.serve_preserves Desk.WellKept.apart_from_sales Fulfilment.provide_wellKept
    Household.record_wellKept h

namespace Desk

theorem initial_wellKept : initial.WellKept := by
  have users : ∀ i, initial.store.users.find? i = none := fun i =>
    Table.find?_of_empty (by decide +kernel)
  have members : ∀ i, initial.store.members.find? i = none := fun i =>
    Table.find?_of_empty (by decide +kernel)
  have values : ∀ i, initial.store.values.find? i = none := fun i =>
    Table.find?_of_empty (by decide +kernel)
  refine ⟨initial_installed, ?_, ?_, ?_, ?_, ?_, ?_, ?_⟩
  · exact fun i u row => nomatch row.symm.trans (users i)
  · exact fun i j u v row => nomatch row.symm.trans (users i)
  · exact fun i j m n row => nomatch row.symm.trans (members i)
  · exact fun i m row => nomatch row.symm.trans (members i)
  · exact fun i j v w row => nomatch row.symm.trans (values i)
  · exact fun i v row => nomatch row.symm.trans (values i)
  · exact fun i v row => nomatch row.symm.trans (values i)

theorem WellKept.after {d : Desk} (h : d.WellKept) (visits : List Visit) :
    (d.after visits).WellKept :=
  after_induction visits h fun _ v _ before => Visit.serve_wellKept before v

/-- Whatever visits a new installation has served, and whether they came to their ends, its register
is well-formed. -/
theorem register_stays_well_formed (visits : List Visit) :
    (initial.after visits).store.WellFormed := (initial_wellKept.after visits).store

end Desk

end Dues
