/-! # Table definitions

What the database records about its tables: columns with their defaults, references to other tables
and indexes.
-/

namespace Dues.Store

inductive TableName where
  | roles
  | users
  | members
  | fields
  | values
  | sales
  deriving Repr, DecidableEq

def TableName.text : TableName → String
  | .roles => "adm_roles"
  | .users => "adm_users"
  | .members => "adm_members"
  | .fields => "adm_user_fields"
  | .values => "adm_user_data"
  | .sales => "membership_sales"

structure Column where
  name : String
  notNull : Bool := true
  /-- The default as it stands in the definition. -/
  default : Option String := none
  primaryKey : Bool := false
  deriving Repr, DecidableEq

/-- What happens to a row when the row that it refers to changes or goes away. -/
inductive ReferenceAction where
  | cascade
  | restrict
  deriving Repr, DecidableEq

def ReferenceAction.text : ReferenceAction → String
  | .cascade => "CASCADE"
  | .restrict => "RESTRICT"

structure ForeignKey where
  column : String
  table : TableName
  key : String
  onUpdate : ReferenceAction
  onDelete : ReferenceAction
  deriving Repr, DecidableEq

def ForeignKey.text (k : ForeignKey) : String :=
  k.column ++ " -> " ++ k.table.text ++ "." ++ k.key ++ " update " ++ k.onUpdate.text ++
    " delete " ++ k.onDelete.text

structure Index where
  name : String
  columns : List String
  unique : Bool := false
  deriving Repr, DecidableEq

structure TableDefinition where
  name : TableName
  columns : List Column
  foreignKeys : List ForeignKey := []
  indexes : List Index := []
  deriving Repr, DecidableEq

namespace TableDefinition

def key (name : String) : Column := ⟨name, true, none, true⟩
def required (name : String) : Column := ⟨name, true, none, false⟩
def optional (name : String) : Column := ⟨name, false, none, false⟩
def defaulting (name value : String) : Column := ⟨name, true, some value, false⟩
def textual (name : String) : Column := defaulting name "''"
def amount (name : String) : Column := defaulting name "0"
def tickbox (name : String) : Column := defaulting name "FALSE"

/-- The index that a unique column brings along. -/
def uniqueColumn (name : String) : Index := ⟨name ++ "_key", [name], true⟩

def roles : TableDefinition where
  name := .roles
  columns := [key "rol_id", required "rol_uuid", required "rol_name"]
  indexes := [uniqueColumn "rol_uuid", uniqueColumn "rol_name"]

def users : TableDefinition where
  name := .users
  columns :=
    [key "usr_id", required "usr_uuid", required "usr_login_name", required "usr_password",
      defaulting "usr_valid" "TRUE"]
  indexes := [uniqueColumn "usr_uuid", uniqueColumn "usr_login_name"]

def members : TableDefinition where
  name := .members
  columns :=
    [key "mem_id", required "mem_uuid", required "mem_usr_id", required "mem_rol_id",
      required "mem_begin", required "mem_end", optional "mem_approved"]
  foreignKeys :=
    [⟨"mem_rol_id", .roles, "rol_id", .cascade, .restrict⟩,
      ⟨"mem_usr_id", .users, "usr_id", .cascade, .cascade⟩]
  indexes :=
    [uniqueColumn "mem_uuid", ⟨"idx_adm_members_usr_rol", ["mem_usr_id", "mem_rol_id"], false⟩]

def fields : TableDefinition where
  name := .fields
  columns :=
    [key "usf_id", required "usf_uuid", required "usf_name_intern", required "usf_name",
      required "usf_type"]
  indexes := [uniqueColumn "usf_uuid", uniqueColumn "usf_name_intern"]

def values : TableDefinition where
  name := .values
  columns :=
    [key "usd_id", required "usd_usr_id", required "usd_usf_id", required "usd_value"]
  foreignKeys :=
    [⟨"usd_usf_id", .fields, "usf_id", .cascade, .cascade⟩,
      ⟨"usd_usr_id", .users, "usr_id", .cascade, .cascade⟩]
  indexes := [⟨"idx_adm_user_data_usr_usf", ["usd_usr_id", "usd_usf_id"], true⟩]

/-- The columns of the `n`-th person on a sale. -/
def person (n : String) : List Column :=
  [optional ("usr" ++ n ++ "_id"), textual ("usr" ++ n ++ "_first_name"),
    textual ("usr" ++ n ++ "_last_name"), textual ("usr" ++ n ++ "_email"),
    amount ("usr" ++ n ++ "_fee"), tickbox ("usr" ++ n ++ "_friend"),
    amount ("usr" ++ n ++ "_friend_fee")]

def sales : TableDefinition where
  name := .sales
  columns :=
    [key "id", textual "payment_service", defaulting "status" "'Pending'", textual "payment_id",
      defaulting "transaction_type" "'NewMember'", required "membership_year"] ++
    person "1" ++ person "2" ++
    [amount "donation_to_society", amount "donation_to_museum", tickbox "giftaid"]
  indexes := [⟨"idx_membership_sales_payment_id", ["payment_id"], false⟩]

end TableDefinition

end Dues.Store
