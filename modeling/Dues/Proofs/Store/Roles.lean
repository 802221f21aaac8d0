import Mathlib.Data.List.Nodup
import Dues.Proofs.Store.Basic

/-! # Who holds a role

Members belong to a role by its number, and whoever looks for them asks by its name. As role names
differ, the two come to the same.
-/

namespace Dues.Store

variable {s : Store} {name : String} {roleId userId : Int}

/-- Whether a role has the name `name`. -/
def RoleNamed (s : Store) (name : String) (roleId : Int) : Prop :=
  ∃ role, s.roles.find? roleId = some role ∧ role.name = name

/-- Whether a user is a member of a role with the name `name`. -/
def HoldsRole (s : Store) (name : String) (userId : Int) : Prop :=
  ∃ i m, s.members.find? i = some m ∧ m.userId = userId ∧ s.RoleNamed name m.roleId

theorem any_roles : (s.roles.rows.any fun r => r.1 == roleId && r.2.name == name) = true ↔
    s.RoleNamed name roleId := by
  rw [Table.any_rows]
  constructor
  · rintro ⟨i, role, row, chosen⟩
    obtain ⟨rfl, named⟩ : i = roleId ∧ role.name = name := by simpa using chosen
    exact ⟨role, row, named⟩
  · rintro ⟨role, row, named⟩
    exact ⟨roleId, role, row, by simp [named]⟩

theorem any_members : (s.members.rows.any fun m => m.2.userId == userId &&
    s.roles.rows.any fun r => r.1 == m.2.roleId && r.2.name == name) = true ↔
      s.HoldsRole name userId := by
  rw [Table.any_rows]
  simp only [Bool.and_eq_true, beq_iff_eq, any_roles]
  exact Iff.rfl

/-- Role names differ, as the definition of the table asks for. -/
def RoleNamesDiffer (s : Store) : Prop := (s.roles.rows.map fun r => r.2.name).Nodup

instance (s : Store) : Decidable s.RoleNamesDiffer := inferInstanceAs (Decidable (List.Nodup _))

theorem RoleNamesDiffer.congr (differ : s.RoleNamesDiffer) {s' : Store} (same : s'.roles = s.roles) :
    s'.RoleNamesDiffer := by
  unfold RoleNamesDiffer
  rwa [same]

theorem RoleNamesDiffer.eq (differ : s.RoleNamesDiffer) {i j : Int} (first : s.RoleNamed name i)
    (second : s.RoleNamed name j) : i = j := by
  obtain ⟨role, row, named⟩ := first
  obtain ⟨role', row', named'⟩ := second
  have same := List.inj_on_of_nodup_map differ (Table.find?_eq_some.mp row)
    (Table.find?_eq_some.mp row') (named.trans named'.symm)
  exact congrArg Prod.fst same

theorem roleNamed_of_roleId? (h : s.roleId? name = .ok (some roleId)) : s.RoleNamed name roleId := by
  obtain ⟨⟨_, role⟩, found, rfl⟩ := Option.map_eq_some_iff.mp (roleId?_ok.mp h).2
  obtain ⟨row, named⟩ := Table.first?_eq_some found
  exact ⟨role, row, beq_iff_eq.mp named⟩

end Dues.Store
