import Dues.Proofs.Register.Basic
import Dues.Proofs.Store.Roles
import Dues.Purchase.Matching

/-! # Who is found

A person who is found is a member. A person who is not found has no member's login name.
-/

namespace Dues

open Dues.Register (memberRole memberRoleId findMember)
open Dues.Text (trim sameIgnoringCase)

namespace Store

variable {s : Store} {name : String} {userId : Int}

/-- A user whom a search for a member may give: one with an account, and with the role, who has the
login name or both values. -/
structure Matched (s : Store) (name login : String) (a : Int) (first : String) (b : Int)
    (last : String) (userId : Int) : Prop where
  chosen : ∃ user, s.users.find? userId = some user ∧
    (sameIgnoringCase user.loginName login = true ∨
      s.holdsValue userId a first = true ∧ s.holdsValue userId b last = true)
  role : s.HoldsRole name userId

variable {login first last : String} {a b : Int}

/-- A search gives the match with the lowest number, or the 0 that stands for nobody. -/
theorem memberMatching_least (ok : s.memberMatching name login a first b last = .ok userId) :
    (userId = 0 ∧ ∀ u, ¬ s.Matched name login a first b last u) ∨
      (s.Matched name login a first b last userId ∧
        ∀ u, s.Matched name login a first b last u → userId ≤ u) := by
  unfold memberMatching at ok
  iterate 4 replace ok := (require_bind.mp ok).2
  have chosen := pure_ok.mp ok
  clear ok
  generalize hl : (s.users.rows.filter _).map (·.1) = ids at chosen
  have mem_ids : ∀ u, u ∈ ids ↔ s.Matched name login a first b last u := by
    intro u
    rw [← hl, List.mem_map]
    simp only [List.mem_filter, Bool.and_eq_true, Bool.or_eq_true, Prod.exists,
      exists_and_right, exists_eq_right, any_members]
    constructor
    · rintro ⟨user, row, role, chosen⟩
      exact ⟨⟨user, Table.find?_eq_some.mpr row, chosen⟩, role⟩
    · rintro ⟨⟨user, row, chosen⟩, role⟩
      exact ⟨user, Table.find?_eq_some.mp row, role, chosen⟩
  cases low : ids.min? with
  | none =>
      rw [low] at chosen
      refine .inl ⟨chosen.symm, fun u matched => ?_⟩
      have mem := (mem_ids u).mpr matched
      rw [List.min?_eq_none_iff.mp low] at mem
      cases mem
  | some u =>
      rw [low] at chosen
      obtain rfl : u = userId := chosen
      obtain ⟨mem, least⟩ := List.min?_eq_some_iff.mp low
      exact .inr ⟨(mem_ids u).mp mem, fun w matched => least w ((mem_ids w).mpr matched)⟩

/-- The search for a member gives one with an account, or the 0 that stands for nobody, and then no
member has the login name. -/
theorem memberMatching_ok (ok : s.memberMatching name login a first b last = .ok userId) :
    (userId = 0 ∧ ∀ u user, s.users.find? u = some user →
      sameIgnoringCase user.loginName login = true → ¬ s.HoldsRole name u) ∨
    ((∃ user, s.users.find? userId = some user) ∧ s.HoldsRole name userId) := by
  rcases memberMatching_least ok with ⟨nobody, never⟩ | ⟨matched, _⟩
  · exact .inl ⟨nobody, fun u user row same role => never u ⟨⟨user, row, .inl same⟩, role⟩⟩
  · obtain ⟨⟨user, row, _⟩, role⟩ := matched
    exact .inr ⟨⟨user, row⟩, role⟩

end Store

/-- Whether a user has the role of those who pay. -/
def Store.IsMember (s : Store) (userId : Int) : Prop :=
  ∃ i m, s.members.find? i = some m ∧ Store.isMembership userId memberRoleId m = true

theorem Store.isMembership_eq_true {userId roleId : Int} {m : Member} :
    Store.isMembership userId roleId m = true ↔ m.userId = userId ∧ m.roleId = roleId := by
  simp [Store.isMembership]

theorem Store.isMember_congr {s s' : Store} (same : s'.members = s.members) (userId : Int) :
    s'.IsMember userId ↔ s.IsMember userId := by
  unfold IsMember
  rw [same]

/-- A user who is found for a login name, or the 0 that stands for nobody. -/
inductive Store.Found (s : Store) (login : String) (userId : Int) : Prop
  | nobody (unknown : userId = 0)
      (free : ∀ u user, s.users.find? u = some user →
        sameIgnoringCase user.loginName login = true → ¬ s.IsMember u)
  | member (known : 0 < userId) (hasAccount : ∃ user, s.users.find? userId = some user)
      (isMember : s.IsMember userId)

namespace Desk.Installed

variable {d : Desk}

theorem roleNamed_iff (h : d.Installed) {roleId : Int} :
    d.store.RoleNamed memberRole roleId ↔ roleId = memberRoleId := by
  rw [← Store.any_roles, h.isMemberRole, beq_iff_eq]

theorem holdsRole_iff (h : d.Installed) {userId : Int} :
    d.store.HoldsRole memberRole userId ↔ d.store.IsMember userId := by
  simp only [Store.HoldsRole, Store.IsMember, Store.isMembership_eq_true, h.roleNamed_iff]

theorem found (h : d.Installed) {login firstName lastName : String} {a b userId : Int}
    (ok : d.store.memberMatching memberRole login a firstName b lastName = .ok userId) :
    d.store.Found login userId := by
  rcases Store.memberMatching_ok ok with ⟨unknown, free⟩ | ⟨⟨user, account⟩, holds⟩
  · apply Store.Found.nobody unknown
    intro u user account same isMember
    exact free u user account same (h.holdsRole_iff.mpr isMember)
  · exact .member (Store.Table.id_pos account) ⟨user, account⟩ (h.holdsRole_iff.mp holds)

theorem found_of_findMember (h : d.Installed) {firstName lastName email : String} {userId : Int}
    {d' : Desk} (ok : findMember firstName lastName email d = .ok userId d') :
    d.store.Found (trim email) userId := by
  obtain ⟨a, b, _, _, _, _, matching⟩ := Register.findMember_ok ok
  exact h.found matching

end Desk.Installed

end Dues
