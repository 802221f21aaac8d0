import Dues.Proofs.Register.Frame
import Dues.Proofs.Store.Basic
import Dues.Register.Basic
import Dues.Store.Upgrade

/-! # Installed desks

No action on members or sales changes the definitions, the roles or the profile fields. So every
desk that started from a new installation can be reached, has every table, and knows the role and
the fields that fulfilment asks for.
-/

namespace Dues

open Store (TableName)
open Register (memberRole ProfileField ValueType)

/-- The number of the role of those who pay. -/
def Register.memberRoleId : Int := 2

/-- The connected desk of a new installation. -/
def Desk.initial : Desk := { store := Store.initial }

structure Desk.Installed (d : Desk) : Prop where
  connected : d.connected = true
  catalog : d.store.catalog = Store.initial.catalog
  roles : d.store.roles = Store.initial.roles
  fields : d.store.fields = Store.initial.fields
  /-- What was looked up before is what would be found now. -/
  known : ∀ f ∈ d.fieldIds, d.store.fieldId? f.1 = .ok (some f.2)

namespace Store

theorem initial_has (t : TableName) : initial.has t = true := by
  cases t <;> decide +kernel

theorem initial_roleId? : initial.roleId? memberRole = .ok (some Register.memberRoleId) :=
  roleId?_ok.mpr ⟨initial_has .roles, by decide +kernel⟩

theorem initial_roles_rows :
    initial.roles.rows.map (fun r => (r.1, r.2.name)) = [(1, "Administrator"), (2, "Member")] := by
  decide +kernel

end Store

namespace Desk

theorem initial_installed : initial.Installed := ⟨rfl, rfl, rfl, rfl, fun _ mem => nomatch mem⟩

theorem Installed.of_frame {ts : List TableName} {d d' : Desk} (h : d.Installed)
    (frame : d.Frame ts d') : d'.Installed where
  connected := frame.connected.trans h.connected
  catalog := frame.store.catalog.trans h.catalog
  roles := frame.store.roles.trans h.roles
  fields := frame.store.fields.trans h.fields
  known f mem := by
    rw [frame.store.fieldId?]
    rcases frame.known f mem with mem | looked
    · exact h.known f mem
    · exact looked

namespace Installed

variable {d : Desk}

theorem with_people (h : d.Installed) (users : Store.Table User) (members : Store.Table Member) :
    Installed { d with store := { d.store with users, members } } :=
  ⟨h.connected, h.catalog, h.roles, h.fields, h.known⟩

theorem has (h : d.Installed) (t : TableName) : d.store.has t = true := by
  unfold Store.has
  rw [h.catalog]
  exact Store.initial_has t

theorem roleId? (h : d.Installed) :
    d.store.roleId? memberRole = .ok (some Register.memberRoleId) := by
  unfold Store.roleId? Store.require
  rw [h.has, h.roles]
  exact Store.initial_roleId?

theorem fieldId? (h : d.Installed) (name : String) :
    d.store.fieldId? name = Store.initial.fieldId? name := by
  unfold Store.fieldId? Store.require
  rw [h.has, h.fields, Store.initial_has]

theorem isMemberRole (h : d.Installed) (roleId : Int) :
    (d.store.roles.rows.any fun r => r.1 == roleId && r.2.name == memberRole) =
      (roleId == Register.memberRoleId) := by
  have names : (d.store.roles.rows.map fun r => (r.1, r.2.name)).any
      (fun r => r.1 == roleId && r.2 == memberRole) = (roleId == Register.memberRoleId) := by
    rw [h.roles, Store.initial_roles_rows, Bool.eq_iff_iff]
    simpa [memberRole, Register.memberRoleId] using eq_comm
  rw [← names, List.any_map]
  rfl

end Installed

end Desk

namespace Register.ProfileField

/-- A profile field that every installation has. -/
def Defined {t : ValueType} (field : ProfileField t) : Prop :=
  ∃ id, Store.initial.fieldId? field.name = .ok (some id)

theorem firstName_defined : firstName.Defined :=
  ⟨1, Store.fieldId?_ok.mpr ⟨Store.initial_has .fields, by decide +kernel⟩⟩

theorem lastName_defined : lastName.Defined :=
  ⟨2, Store.fieldId?_ok.mpr ⟨Store.initial_has .fields, by decide +kernel⟩⟩

theorem email_defined : email.Defined :=
  ⟨3, Store.fieldId?_ok.mpr ⟨Store.initial_has .fields, by decide +kernel⟩⟩

theorem lastPayment_defined : lastPayment.Defined :=
  ⟨9, Store.fieldId?_ok.mpr ⟨Store.initial_has .fields, by decide +kernel⟩⟩

end Register.ProfileField

end Dues
