import Dues.Register.Basic
import Dues.Sale.Basic
import Dues.Settings.Basic
import Dues.Time.London

/-! # Household records

What the register notes about a household that has paid. Each note is made for itself: one that
cannot be made is left out, and the others are made all the same.
-/

namespace Dues.Household

open Dues.Money (Decimal)
open Dues.Register
open Dues.Time (Date Instant)

/-- A value to be noted for a user. -/
structure Note where
  type : ValueType
  field : ProfileField type
  userId : Int
  value : type.Value

/-- The accounts of the persons on a fulfilled sale. -/
def users (sale : Sale) : List Int :=
  sale.primary.userId :: if 0 < sale.associate.userId then [sale.associate.userId] else []

/-- How many of them are friends of the museum. -/
def friends (sale : Sale) : Nat :=
  (if sale.primary.friend then 1 else 0) +
    (if 0 < sale.associate.userId && sale.associate.friend then 1 else 0)

def addressNotes (sale : Sale) (today : Date) : List Note :=
  (users sale).flatMap fun userId =>
    [⟨.date, .dateLastPaid, userId, today⟩,
      ⟨.integer, .membersAtAddress, userId, ((users sale).length : Int)⟩,
      ⟨.integer, .friendsAtAddress, userId, (friends sale : Int)⟩]

def paymentNotes (settings : Settings) (sale : Sale) (total : Decimal) : List Note :=
  [⟨.decimal, .lastPayment, sale.primary.userId, total⟩,
    ⟨.flag, .friendOfTheMuseum, sale.primary.userId, sale.primary.friend⟩] ++
  (if 0 < sale.associate.userId then
    [⟨.flag, .friendOfTheMuseum, sale.associate.userId, sale.associate.friend⟩]
  else []) ++
  [⟨.decimal, .donationToSociety, sale.primary.userId, sale.donationToSociety⟩,
    ⟨.decimal, .donationToMuseum, sale.primary.userId, sale.donationToMuseum⟩,
    ⟨.flag, .giftAid, sale.primary.userId, settings.giftAid && sale.giftAid⟩]

/-- Makes a note if that can be done. -/
def note {ε : Type} (n : Note) : Action ε Unit := fun desk =>
  match setValue n.field n.userId n.value desk with
  | .ok _ after => .ok () after
  | .error _ after => .ok () after

def orFault {ε α : Type} : Except ε α → Action ε α
  | .ok a => pure a
  | .error e => throw e

/-- Makes all notes about a fulfilled sale. Nothing but a fault keeps it from the end. -/
def record (settings : Settings) (sale : Sale) (now : Instant) : Action Fault Unit := do
  let today ← orFault (Time.London.today now)
  (addressNotes sale today).forM note
  let total ← orFault sale.total
  (paymentNotes settings sale total).forM note

/-- Makes the notes in a transaction of their own. They are left out where the connection has gone
by then. -/
def keep (settings : Settings) (sale : Sale) (now : Instant) : Action Fault Unit := fun desk =>
  match ((record settings sale now).orFail some).transaction none desk with
  | .ok _ after => .ok () after
  | .error none after => .ok () after
  | .error (some fault) after => .error fault after

end Dues.Household
