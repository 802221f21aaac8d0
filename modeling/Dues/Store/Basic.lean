import Dues.Sale.Record
import Dues.Store.Definition
import Dues.Store.Table
import Dues.Text.Fold
import Dues.Text.Number
import Dues.Time.Instant

/-! # The store

The tables that the society keeps: who has an account, who is a member of what and until when, what
is known about them, and the sales. Writing checks what the table definitions promise: unique
names, and references that lead somewhere.
-/

namespace Dues

open Dues.Store (Table TableName TableDefinition)
open Dues.Time (Instant)

structure Role where
  uuid : String
  name : String
  deriving DecidableEq

structure User where
  loginName : String
  password : String
  valid : Bool
  deriving DecidableEq

/-- A user's membership in a role. -/
structure Member where
  userId : Int
  roleId : Int
  begins : Instant
  ends : Instant
  approved : Option Int
  deriving DecidableEq

inductive FieldKind where
  | text
  | email
  | phone
  | number
  | decimal
  | date
  | checkbox
  deriving Repr, DecidableEq

/-- The definition of a profile field. -/
structure FieldRow where
  uuid : String
  internalName : String
  name : String
  kind : FieldKind
  deriving DecidableEq

/-- The value of one profile field for one user. -/
structure ValueRow where
  userId : Int
  fieldId : Int
  text : String
  deriving DecidableEq

inductive StoreError where
  /-- The connection is closed. -/
  | closed
  | missingTable (table : TableName)
  | tableExists (table : TableName)
  | uniqueViolation (table : TableName) (column : String)
  | foreignKeyViolation
  /-- A stored value does not fit the type that it is read as. -/
  | unreadable (table : TableName)
  | other (text : String)
  deriving DecidableEq

namespace StoreError

/-- The text of a broken promise, none for other errors. -/
def violation : StoreError → Option String
  | .uniqueViolation table column =>
      some ("UNIQUE constraint failed: " ++ table.text ++ "." ++ column)
  | .foreignKeyViolation => some "FOREIGN KEY constraint failed"
  | _ => none

def message (e : StoreError) : String :=
  match e with
  | .closed => "the connection is closed"
  | .missingTable table => "no such table: " ++ table.text
  | .tableExists table => "table " ++ table.text ++ " already exists"
  | .unreadable table => "a row of " ++ table.text ++ " cannot be read"
  | .other text => "Custom Error: " ++ text
  | _ => e.violation.getD ""

end StoreError

structure Store where
  /-- The tables that exist, in the order in which they were made. -/
  catalog : List TableDefinition := []
  /-- The names of the upgrades that made them. -/
  upgrades : List String := []
  roles : Table Role := {}
  users : Table User := {}
  members : Table Member := {}
  fields : Table FieldRow := {}
  values : Table ValueRow := {}
  sales : Table SaleRecord := {}

namespace Store

def has (s : Store) (table : TableName) : Bool := s.catalog.any fun d => d.name == table

/-- Access to a table is refused where there is none. -/
def require (s : Store) (table : TableName) : Except StoreError Unit :=
  if s.has table then .ok () else .error (.missingTable table)

/-- Users and members have public identifiers of 36 characters besides their numbers. The row number
is spelled out in it, so no two rows share one. -/
def publicId (id : Int) : String :=
  let digits := Nat.toDigits 16 id.natAbs
  String.ofList ("00000000-0000-4000-8000-".toList ++
    List.replicate (12 - digits.length) '0' ++ digits)

def roleId? (s : Store) (name : String) : Except StoreError (Option Int) := do
  s.require .roles
  return (s.roles.first? fun r => r.name == name).map (·.1)

def fieldId? (s : Store) (internalName : String) : Except StoreError (Option Int) := do
  s.require .fields
  return (s.fields.first? fun f => f.internalName == internalName).map (·.1)

/-- Login names must differ, be it in case only. -/
def insertUser (s : Store) (user : User) : Except StoreError (Int × Store) := do
  s.require .users
  if s.users.rows.any fun r => r.2.loginName == user.loginName then
    throw (.uniqueViolation .users "usr_login_name")
  return (s.users.nextId, { s with users := s.users.insert user })

/-- The users whose login name is `name` up to ASCII case. -/
def usersNamed (s : Store) (name : String) : Except StoreError (List (Int × User)) := do
  s.require .users
  return s.users.select fun u => Text.sameIgnoringCase u.loginName name

def insertMember (s : Store) (m : Member) : Except StoreError (Int × Store) := do
  s.require .members
  if s.users.contains m.userId && s.roles.contains m.roleId then
    return (s.members.nextId, { s with members := s.members.insert m })
  else throw .foreignKeyViolation

def member? (s : Store) (userId roleId : Int) : Except StoreError (Option (Int × Member)) := do
  s.require .members
  return s.members.first? fun m => m.userId == userId && m.roleId == roleId

/-- Sets the end of each membership of a user in a role; how many there were. -/
def setEnd (s : Store) (userId roleId : Int) (ends : Instant) :
    Except StoreError (Nat × Store) := do
  s.require .members
  let chosen := fun (_ : Int) (m : Member) => m.userId == userId && m.roleId == roleId
  return (s.members.count chosen,
    { s with members := s.members.update chosen fun m => { m with ends } })

/-- Whether a value of the field is kept for the user, and is `text` up to ASCII case. -/
def holdsValue (s : Store) (userId fieldId : Int) (text : String) : Bool :=
  s.values.rows.any fun r =>
    r.2.userId == userId && r.2.fieldId == fieldId && Text.sameIgnoringCase r.2.text text

/-- The user with the lowest number who is a member of the role and has the login name or both
values, 0 if there is none. -/
def memberMatching (s : Store) (role login : String) (firstNameId : Int) (firstName : String)
    (lastNameId : Int) (lastName : String) : Except StoreError Int := do
  s.require .users
  s.require .members
  s.require .roles
  s.require .values
  let isMember := fun (userId : Int) => s.members.rows.any fun m =>
    m.2.userId == userId && s.roles.rows.any fun r => r.1 == m.2.roleId && r.2.name == role
  let matching := s.users.rows.filter fun u =>
    isMember u.1 &&
      (Text.sameIgnoringCase u.2.loginName login ||
        s.holdsValue u.1 firstNameId firstName && s.holdsValue u.1 lastNameId lastName)
  return ((matching.map (·.1)).min?).getD 0

def value? (s : Store) (userId fieldId : Int) : Except StoreError (Option (Int × ValueRow)) := do
  s.require .values
  return s.values.first? fun v => v.userId == userId && v.fieldId == fieldId

def updateValue (s : Store) (id : Int) (text : String) : Except StoreError Store := do
  s.require .values
  return { s with values := s.values.update (fun i _ => i == id) fun v => { v with text } }

def insertValue (s : Store) (v : ValueRow) : Except StoreError Store := do
  s.require .values
  if s.values.rows.any fun r => r.2.userId == v.userId && r.2.fieldId == v.fieldId then
    throw (.uniqueViolation .values "usd_usr_id, adm_user_data.usd_usf_id")
  else if s.users.contains v.userId && s.fields.contains v.fieldId then
    return { s with values := s.values.insert v }
  else throw .foreignKeyViolation

/-- Removes user accounts with their memberships and values; how many accounts there were. -/
def deleteUser (s : Store) (id : Int) : Except StoreError (Nat × Store) := do
  s.require .users
  return (s.users.count fun i _ => i == id,
    { s with
      users := s.users.delete fun i _ => i == id
      members := s.members.delete fun _ m => m.userId == id
      values := s.values.delete fun _ v => v.userId == id })

/-- Removes profile fields with their values. -/
def deleteField (s : Store) (internalName : String) : Except StoreError (Nat × Store) := do
  s.require .fields
  let chosen := fun (f : FieldRow) => f.internalName == internalName
  let ids := (s.fields.select chosen).map (·.1)
  return (ids.length,
    { s with
      fields := s.fields.delete fun _ f => chosen f
      values := s.values.delete fun _ v => ids.contains v.fieldId })

/-- A role that has members stays. -/
def deleteRole (s : Store) (name : String) : Except StoreError (Nat × Store) := do
  s.require .roles
  let chosen := fun (r : Role) => r.name == name
  let ids := (s.roles.select chosen).map (·.1)
  if s.members.rows.any fun m => ids.contains m.2.roleId then throw .foreignKeyViolation
  return (ids.length, { s with roles := s.roles.delete fun _ r => chosen r })

def insertSale (s : Store) (sale : SaleRecord) : Except StoreError (Int × Store) := do
  s.require .sales
  return (s.sales.nextId, { s with sales := s.sales.insert sale })

def sale? (s : Store) (id : Int) : Except StoreError (Option Sale) := do
  s.require .sales
  match s.sales.find? id with
  | none => return none
  | some record =>
      match record.sale? id with
      | some sale => return some sale
      | none => throw (.unreadable .sales)

/-- Overwrites the sales with this number; how many there were. -/
def updateSale (s : Store) (id : Int) (sale : SaleRecord) : Except StoreError (Nat × Store) := do
  s.require .sales
  return (s.sales.count fun i _ => i == id,
    { s with sales := s.sales.update (fun i _ => i == id) fun _ => sale })

def deleteSale (s : Store) (id : Int) : Except StoreError (Nat × Store) := do
  s.require .sales
  return (s.sales.count fun i _ => i == id,
    { s with sales := s.sales.delete fun i _ => i == id })

end Store

end Dues
