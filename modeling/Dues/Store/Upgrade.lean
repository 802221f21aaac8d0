import Dues.Store.Basic

/-! # Upgrades

The tables are made one after the other by named upgrades, each of which can be taken back. Some
fill their table with the rows that every installation starts from.
-/

namespace Dues

open Store (TableName TableDefinition)

namespace Store

def clear (s : Store) : TableName → Store
  | .roles => { s with roles := {} }
  | .users => { s with users := {} }
  | .members => { s with members := {} }
  | .fields => { s with fields := {} }
  | .values => { s with values := {} }
  | .sales => { s with sales := {} }

/-- Makes an empty table. -/
def createTable (s : Store) (d : TableDefinition) : Except StoreError Store :=
  if s.has d.name then .error (.tableExists d.name)
  else .ok { s.clear d.name with catalog := s.catalog ++ [d] }

/-- Removes what refers to the rows of a table that is about to go. A role that has members keeps its
table from going. -/
def releaseTable (s : Store) : TableName → Except StoreError Store
  | .roles =>
      if s.has .members && s.members.rows.any fun m => s.roles.contains m.2.roleId then
        .error .foreignKeyViolation
      else .ok s
  | .users =>
      .ok { s with
        members := s.members.delete fun _ m => s.users.contains m.userId
        values := s.values.delete fun _ v => s.users.contains v.userId }
  | .fields => .ok { s with values := s.values.delete fun _ v => s.fields.contains v.fieldId }
  | _ => .ok s

/-- Removes a table with its rows; numbering starts anew when it is made again. -/
def dropTable (s : Store) (table : TableName) : Except StoreError Store := do
  s.require table
  let s ← s.releaseTable table
  return { s.clear table with catalog := s.catalog.filter fun d => d.name != table }

end Store

structure Upgrade where
  name : String
  table : TableDefinition
  /-- Fills the new table. -/
  seed : Store → Store := id

namespace Upgrade

def roles : List Role :=
  [⟨"4b0a8c58-5e0c-4a53-9c5b-0b1f5b1e6d01", "Administrator"⟩,
    ⟨"4b0a8c58-5e0c-4a53-9c5b-0b1f5b1e6d02", "Member"⟩]

/-- The fields that membership processing knows, by internal name, shown name and kind. -/
def fields : List (String × String × FieldKind) :=
  [("FIRST_NAME", "First name", .text),
    ("LAST_NAME", "Last name", .text),
    ("EMAIL", "E-mail", .email),
    ("STREET", "Street", .text),
    ("POSTCODE", "Postcode", .text),
    ("FRIEND_OF_THE_MUSEUM", "Friend of the museum", .checkbox),
    ("GIFT_AID", "Gift aid", .checkbox),
    ("DATE_LAST_PAID", "Date last paid", .date),
    ("VALUE_OF_LAST_PAYMENT", "Value of last payment", .decimal),
    ("VALUE_OF_DONATION_TO_LDLHS", "Value of donation to the society", .decimal),
    ("VALUE_OF_DONATION_TO_THE_MUSEUM", "Value of donation to the museum", .decimal),
    ("MEMBERS_AT_ADDRESS", "Members at address", .number),
    ("NUMBER_OF_FRIENDS_OF_THE_MUSEUM_AT_THIS_ADDRESS", "Friends of the museum at this address",
      .number),
    ("PERMISSION_TO_SEND_EMAILS", "Permission to send e-mails", .checkbox),
    ("DATA_PROTECTION_PERMISSION", "Data protection permission", .checkbox)]

/-- The identifier of the `n`-th field. -/
def fieldUuid (n : Nat) : String :=
  let digits := Nat.toDigits 16 n
  String.ofList ("7d3f6a2e-1c4b-4e8a-9f10-".toList ++ List.replicate (12 - digits.length) '0' ++
    digits)

def fieldRows : List FieldRow :=
  fields.zipIdx.map fun ((internalName, name, kind), i) =>
    ⟨fieldUuid (i + 1), internalName, name, kind⟩

def seedRoles (s : Store) : Store := { s with roles := roles.foldl (·.insert ·) s.roles }

def seedFields (s : Store) : Store := { s with fields := fieldRows.foldl (·.insert ·) s.fields }

/-- Every upgrade, in the order in which they build on each other. -/
def all : List Upgrade :=
  [{ name := "m20240101_000001_create_roles_table", table := .roles, seed := seedRoles },
    { name := "m20240101_000002_create_users_table", table := .users },
    { name := "m20240101_000003_create_members_table", table := .members },
    { name := "m20240101_000004_create_user_fields_table", table := .fields, seed := seedFields },
    { name := "m20240101_000005_create_user_data_table", table := .values },
    { name := "m20240101_000006_create_membership_sales_table", table := .sales }]

def apply (s : Store) (u : Upgrade) : Except StoreError Store := do
  let s ← s.createTable u.table
  let s := u.seed s
  return { s with upgrades := s.upgrades ++ [u.name] }

def revert (s : Store) (u : Upgrade) : Except StoreError Store := do
  let s ← s.dropTable u.table.name
  return { s with upgrades := s.upgrades.filter (· != u.name) }

end Upgrade

/-- Steps limit how many upgrades are applied or taken back; without them it is all. -/
inductive UpgradeCommand where
  | up (steps : Option Nat)
  | down (steps : Option Nat)
  /-- Removes every table and applies all upgrades. -/
  | fresh
  /-- Takes all upgrades back and applies them again. -/
  | refresh
  /-- Takes all upgrades back. -/
  | reset
  | status
  deriving Repr, DecidableEq

structure UpgradeStatus where
  applied : List String
  pending : Nat
  deriving Repr, DecidableEq

namespace Store

def applied (s : Store) : List Upgrade := Upgrade.all.filter fun u => s.upgrades.contains u.name

def pending (s : Store) : List Upgrade := Upgrade.all.filter fun u => !s.upgrades.contains u.name

def upgradeStatus (s : Store) : UpgradeStatus := ⟨s.applied.map (·.name), s.pending.length⟩

/-- At most `steps` elements. -/
def upTo {α : Type} (steps : Option Nat) (l : List α) : List α :=
  match steps with
  | none => l
  | some n => l.take n

def up (s : Store) (steps : Option Nat) : Except StoreError Store :=
  (upTo steps s.pending).foldlM Upgrade.apply s

def down (s : Store) (steps : Option Nat) : Except StoreError Store :=
  (upTo steps s.applied.reverse).foldlM Upgrade.revert s

def upgrade (s : Store) : UpgradeCommand → Except StoreError Store
  | .up steps => s.up steps
  | .down steps => s.down steps
  | .fresh => Store.up {} none
  | .refresh => do (← s.down none).up none
  | .reset => s.down none
  | .status => .ok s

/-- The store that an installation starts from: every table is there and nobody has an account. -/
def initial : Store :=
  match Store.up {} none with
  | .ok s => s
  | .error _ => {}

end Store

end Dues
