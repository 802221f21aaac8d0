import Dues.Fault
import Dues.Money.Arithmetic
import Dues.Text.Blank
import Dues.Text.Fold

/-! # Sales

A sale is one customer's business with the society, from the form that was sent in to the membership
that was provided. It names one or two persons; the second one is an associate of the first.
-/

namespace Dues

open Dues.Money (Decimal)
open Dues.Text (trim sameIgnoringCase)

inductive SaleStatus where
  | pending
  | complete
  | cancelled
  deriving Repr, DecidableEq

/-- Whether the first person was a member already. -/
inductive SaleKind where
  | newMember
  | renewal
  deriving Repr, DecidableEq

/-- A person as a sale knows them. -/
structure Participant where
  /-- The user account, 0 until the sale is fulfilled. -/
  userId : Int := 0
  firstName : String := ""
  lastName : String := ""
  email : String := ""
  fee : Decimal := Decimal.zero
  friend : Bool := false
  friendFee : Decimal := Decimal.zero
  deriving DecidableEq

/-- An associate who was left out has no first name. -/
def Participant.isPresent (p : Participant) : Bool := !p.firstName.isEmpty

structure Sale where
  /-- The row of the sale, 0 until it has one. -/
  id : Int := 0
  paymentService : String
  status : SaleStatus := .pending
  /-- The provider's session, empty until the sale is complete. -/
  paymentId : String := ""
  kind : SaleKind := .newMember
  year : Int
  primary : Participant := {}
  associate : Participant := {}
  donationToSociety : Decimal := Decimal.zero
  donationToMuseum : Decimal := Decimal.zero
  giftAid : Bool := false
  deriving DecidableEq

namespace Sale

def amounts (s : Sale) : List Decimal :=
  [s.primary.fee, if s.primary.friend then s.primary.friendFee else Decimal.zero, s.associate.fee,
    s.associate.friendFee, s.donationToSociety, s.donationToMuseum]

/-- What the customer pays. Nothing is charged for a sale with a negative amount in it. -/
def total (s : Sale) : Except Fault Decimal :=
  if s.amounts.any Decimal.isNegative then .ok Decimal.zero else Decimal.sum s.amounts

/-- The associate's email, empty where the first person's is given again. -/
def associateEmail (s : Sale) : String :=
  let email := trim s.associate.email
  if sameIgnoringCase email (trim s.primary.email) then "" else email

end Sale

end Dues
