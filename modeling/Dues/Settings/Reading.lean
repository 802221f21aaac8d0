import Dues.Address.Network
import Dues.Settings.Basic
import Dues.Settings.Environment
import Dues.Settings.Toml

/-! # Reading settings

Settings come from a file, and from the environment where that says otherwise. Values are taken as
what they are: a number is no text, and a text no number, fees excepted. The first value that does
not fit is reported, in the order of the keys.
-/

namespace Dues.Settings

open Dues.Money (Decimal)
open Dues.Text (sameIgnoringCase)

inductive SettingsErrorKind where
  /-- The file is not written properly, or a text does not name what it should. -/
  | unreadable
  | wrongType
  | wrongValue
  | wrongLength
  | missing (key : String)
  deriving Repr, DecidableEq

structure SettingsError where
  kind : SettingsErrorKind
  path : List String := []
  deriving Repr, DecidableEq

abbrev Read (α : Type) : Type := Except SettingsError α

def fail {α : Type} (kind : SettingsErrorKind) : Read α := .error ⟨kind, []⟩

/-- Puts a key in front of the path of an error. -/
def under {α : Type} (key : String) : Read α → Read α
  | .ok a => .ok a
  | .error e => .error { e with path := key :: e.path }

def asText : Value → Read String
  | .text s => .ok s
  | _ => fail .wrongType

def asBool : Value → Read Bool
  | .bool b => .ok b
  | _ => fail .wrongType

/-- Fees may be numbers or texts. -/
def asFee : Value → Read Decimal
  | .integer n => orWrong (Decimal.of? n 0)
  | .float (.finite b) => orWrong (Money.Shortest.toDecimal? b)
  | .float _ => fail .wrongValue
  | .text s => orWrong (Decimal.ofText? s)
  | _ => fail .wrongType
where
  orWrong : Option Decimal → Read Decimal
    | some d => .ok d
    | none => fail .wrongValue

def levels : List (String × LogLevel) :=
  [("off", .off), ("error", .error), ("warn", .warn), ("info", .info), ("debug", .debug),
    ("trace", .trace)]

/-- Digits with at most a plus sign. -/
def levelNumber? (cs : List Char) : Option Nat :=
  Text.readNat? (match cs with | '+' :: rest => rest | _ => cs)

/-- A level by its name in any case, or by its number from 0 on. -/
def levelNamed? (s : String) : Option LogLevel :=
  if s.isEmpty then some .error
  else
    match (levelNumber? s.toList).bind fun n => levels[n]? with
    | some (_, level) => some level
    | none => (levels.find? fun l => sameIgnoringCase l.1 s).map (·.2)

def asLevel (value : Value) : Read LogLevel := do
  match levelNamed? (← asText value) with
  | some level => return level
  | none => fail .unreadable

/-- The level in the table for logging, or in the first place of a list. -/
def asLogging : Value → Read LogLevel
  | .table entries =>
      match entries.lookup "level" with
      | some value => under "level" (asLevel value)
      | none => fail (.missing "level")
  | .array [] => fail .wrongLength
  | .array (value :: _) => under "0" (asLevel value)
  | _ => fail .wrongType

/-- The settings found so far. -/
structure Draft where
  organisationName : Option String := none
  http : Bool := false
  runUser : Option String := none
  tlsCertificateFile : Option String := none
  tlsCertificateKeyFile : Option String := none
  siteUrl : Option String := none
  otherMemberTypes : Bool := false
  giftAid : Bool := false
  emailForQuestions : Option String := none
  emailForFailures : Option String := none
  ordinaryFee : Option Decimal := none
  associateFee : Option Decimal := none
  friendFee : Option Decimal := none
  paymentService : Option String := none
  logDirectory : Option String := none
  logLeader : Option String := none
  logLevel : Option LogLevel := none

/-- Takes one value into the draft. Keys that mean nothing are passed over. -/
def Draft.take (d : Draft) (key : String) (value : Value) : Read Draft :=
  match key with
  | "organisation_name" => do return { d with organisationName := some (← asText value) }
  | "http" => do return { d with http := ← asBool value }
  | "run_user" => do return { d with runUser := some (← asText value) }
  | "tls_certificate_file" => do return { d with tlsCertificateFile := some (← asText value) }
  | "tls_certificate_key_file" => do
      return { d with tlsCertificateKeyFile := some (← asText value) }
  | "site_url" => do return { d with siteUrl := some (← asText value) }
  | "enable_other_member_types" => do return { d with otherMemberTypes := ← asBool value }
  | "enable_giftaid" => do return { d with giftAid := ← asBool value }
  | "email_address_for_questions" => do return { d with emailForQuestions := some (← asText value) }
  | "email_address_for_failures" => do return { d with emailForFailures := some (← asText value) }
  | "ordinary_member_fee" => do return { d with ordinaryFee := some (← asFee value) }
  | "associate_member_fee" => do return { d with associateFee := some (← asFee value) }
  | "friend_fee" => do return { d with friendFee := some (← asFee value) }
  | "payment_service" => do return { d with paymentService := some (← asText value) }
  | "log_dir" => do return { d with logDirectory := some (← asText value) }
  | "log_leader" => do return { d with logLeader := some (← asText value) }
  | "logging" => do return { d with logLevel := some (← asLogging value) }
  | _ => .ok d

def Draft.takeEntry (d : Draft) (entry : String × Value) : Read Draft :=
  under entry.1 (d.take entry.1 entry.2)

def required {α : Type} (key : String) : Option α → Read α
  | some a => .ok a
  | none => fail (.missing key)

/-- Settings that may be left out have a default. -/
def Draft.settings (d : Draft) : Read Settings := do
  return {
    organisationName := ← required "organisation_name" d.organisationName
    http := d.http
    runUser := d.runUser
    tlsCertificateFile := d.tlsCertificateFile
    tlsCertificateKeyFile := d.tlsCertificateKeyFile
    siteUrl := d.siteUrl.getD "http://localhost:8080"
    otherMemberTypes := d.otherMemberTypes
    giftAid := d.giftAid
    emailForQuestions := ← required "email_address_for_questions" d.emailForQuestions
    emailForFailures := ← required "email_address_for_failures" d.emailForFailures
    ordinaryFee := ← required "ordinary_member_fee" d.ordinaryFee
    associateFee := d.associateFee.getD Decimal.zero
    friendFee := d.friendFee.getD Decimal.zero
    paymentService := d.paymentService.getD "Stripe"
    logDirectory := d.logDirectory
    logLeader := d.logLeader.getD "membership"
    logLevel := d.logLevel.getD .warn }

/-- The entries of a table in order of their keys. -/
def sortedEntries : Value → List (String × Value)
  | .table entries => entries.mergeSort fun a b => decide (a.1 ≤ b.1)
  | _ => []

/-- Settings from the text of a file, if there is one, and from environment variables. -/
def read (file : Option String) (vars : List (String × String)) : Read Settings := do
  let fromFile ← match file with
    | none => .ok (.table [])
    | some text =>
        match Toml.read? text with
        | some value => .ok value
        | none => fail .unreadable
  let fromVariables := Environment.table true vars
  let value := Value.overlay (Environment.depth vars) fromFile fromVariables
  let draft ← (sortedEntries value).foldlM Draft.takeEntry {}
  draft.settings

/-- What only the environment may say. -/
structure Secrets where
  databaseUrl : String
  paymentKey : Option String
  /-- Where the server listens. -/
  address : Address.Endpoint

def defaultAddress : Address.Endpoint := .v4 ⟨127, 0, 0, 1⟩ 8080

def asEndpoint (value : Value) : Read Address.Endpoint := do
  match Address.Endpoint.read? (← asText value).toList with
  | some endpoint => return endpoint
  | none => fail .unreadable

/-- Reads the value of a key, if there is one. -/
def optionalEntry {α : Type} (read : Value → Read α) (key : String)
    (entries : List (String × Value)) : Read (Option α) :=
  match entries.lookup key with
  | none => .ok none
  | some value => under key (do return some (← read value))

def Secrets.read (vars : List (String × String)) : Read Secrets := do
  let entries := sortedEntries (Environment.table false vars)
  let address ← optionalEntry asEndpoint "address" entries
  let databaseUrl ← optionalEntry asText "database_url" entries
  let paymentKey ← optionalEntry asText "payment_key" entries
  return {
    databaseUrl := ← required "database_url" databaseUrl
    paymentKey
    address := address.getD defaultAddress }

end Dues.Settings
