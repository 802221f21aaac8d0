import Dues.Register.Desk
import Dues.Register.Error
import Dues.Register.Value

/-! # The register

Accounts, memberships and profile values of the society's members.
-/

namespace Dues.Register

open Dues.Text (trim isBlankText)
open Dues.Time (Instant)

/-- The role of everyone who pays for a membership. -/
def memberRole : String := "Member"

/-- A password that no one can log in with, until the member sets their own. -/
def lockedPassword : String := "*LK*"

/-- The mark of an approved membership. -/
def approved : Int := 1

/-- Opens an account that nobody can log in to yet. -/
def openAccount (loginName : String) : Action RegisterError (Int × User) := do
  if isBlankText loginName then
    throw .emptyLoginName
  else
    let user : User := ⟨loginName, lockedPassword, true⟩
    let id ← (Action.write fun s => s.insertUser user).orFail .store
    return (id, user)

/-- The accounts with a login name, in the order in which they were opened. -/
def accountsNamed (loginName : String) : Action RegisterError (List (Int × User)) :=
  (Action.read fun s => s.usersNamed loginName).orFail .store

def roleNumber (name : String) : Action RegisterError Int := do
  match ← (Action.read fun s => s.roleId? name).orFail .store with
  | some id => return id
  | none => throw (.unknownRole name)

/-- The number of a profile field. Once looked up it is known for good. -/
def fieldNumber (name : String) : Action RegisterError Int := do
  match (← get).fieldIds.lookup name with
  | some id => return id
  | none =>
      match ← (Action.read fun s => s.fieldId? name).orFail .store with
      | some id =>
          modify fun desk => { desk with fieldIds := (name, id) :: desk.fieldIds }
          return id
      | none => throw (.unknownField name)

/-- The member who has `email` as login name, or both names. 0 means that there is none. -/
def findMember (firstName lastName email : String) : Action RegisterError Int := do
  let firstNameId ← fieldNumber ProfileField.firstName.name
  let lastNameId ← fieldNumber ProfileField.lastName.name
  (Action.read fun s =>
    s.memberMatching memberRole (trim email) firstNameId (trim firstName) lastNameId
      (trim lastName)).orFail .store

/-- Makes a user a member of a role. -/
def enrol (userId : Int) (role : String) (begins ends : Instant) :
    Action RegisterError (Int × Member) := do
  let roleId ← roleNumber role
  let m : Member := ⟨userId, roleId, begins, ends, some approved⟩
  let id ← (Action.write fun s => s.insertMember m).orFail .store
  return (id, m)

/-- A user's membership in the role of those who pay. -/
def membership? (userId : Int) : Action RegisterError (Option (Int × Member)) := do
  let roleId ← roleNumber memberRole
  (Action.read fun s => s.member? userId roleId).orFail .store

def membership (userId : Int) : Action RegisterError (Int × Member) := do
  match ← membership? userId with
  | some m => return m
  | none => throw (.memberNotFound userId)

/-- Sets the end of a user's membership; how many records of it there are. -/
def extend (userId : Int) (ends : Instant) : Action RegisterError Nat := do
  let roleId ← roleNumber memberRole
  (Action.write fun s => s.setEnd userId roleId ends).orFail .store

/-- Keeps a profile value, in the place of the one that was there. -/
def setValue {t : ValueType} (field : ProfileField t) (userId : Int) (value : t.Value) :
    Action RegisterError Unit := do
  let fieldId ← fieldNumber field.name
  let text := t.encode value
  match ← (Action.read fun s => s.value? userId fieldId).orFail .store with
  | some (id, _) => (Action.write fun s => (s.updateValue id text).map ((), ·)).orFail .store
  | none =>
      (Action.write fun s => (s.insertValue ⟨userId, fieldId, text⟩).map ((), ·)).orFail .store

/-- A profile value, none if it was never set. -/
def value? {t : ValueType} (field : ProfileField t) (userId : Int) :
    Action RegisterError (Option t.Value) := do
  let fieldId ← fieldNumber field.name
  match ← (Action.read fun s => s.value? userId fieldId).orFail .store with
  | none => return none
  | some (_, row) =>
      match t.decode row.text with
      | some value => return some value
      | none => throw (.invalidValue field.name row.text)

/-- A profile value, the zero of its type if it was never set. -/
def valueOrZero {t : ValueType} (field : ProfileField t) (userId : Int) :
    Action RegisterError t.Value := do
  return (← value? field userId).getD t.zero

def roleExists (name : String) : Action RegisterError Bool := do
  return (← (Action.read fun s => s.roleId? name).orFail .store).isSome

def removeField (name : String) : Action RegisterError Nat :=
  (Action.write fun s => s.deleteField name).orFail .store

def removeRole (name : String) : Action RegisterError Nat :=
  (Action.write fun s => s.deleteRole name).orFail .store

def removeUser (userId : Int) : Action RegisterError Nat :=
  (Action.write fun s => s.deleteUser userId).orFail .store

end Dues.Register
