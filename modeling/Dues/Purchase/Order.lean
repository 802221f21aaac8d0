import Dues.Sale.Basic
import Dues.Settings.Basic
import Dues.Time.MembershipYear

/-! # Orders

What a customer asks for, and the sale that this comes to under the settings of the society.
-/

namespace Dues

open Dues.Money (Decimal)
open Dues.Text (trim isBlankText)
open Dues.Time (Instant)

/-- A person as the form names them. -/
structure Applicant where
  firstName : String := ""
  lastName : String := ""
  email : String := ""
  /-- Wants to be a friend of the museum. -/
  friend : Bool := false
  deriving Repr, DecidableEq

structure Order where
  primary : Applicant
  associate : Option Applicant := none
  donationToSociety : Decimal := Decimal.zero
  donationToMuseum : Decimal := Decimal.zero
  giftAid : Bool := false
  deriving DecidableEq

/-- Friends exist only where the section for other member types is enabled. -/
def Applicant.participant (settings : Settings) (fee : Decimal) (a : Applicant) : Participant :=
  let friend := settings.otherMemberTypes && a.friend
  { firstName := trim a.firstName
    lastName := trim a.lastName
    email := trim a.email
    fee
    friend
    friendFee := if friend then settings.friendFee else Decimal.zero }

/-- The associate on a sale, who needs a first name and the section for other member types. -/
def Order.associateParticipant (settings : Settings) (order : Order) : Participant :=
  match order.associate with
  | none => {}
  | some associate =>
      if settings.otherMemberTypes && !isBlankText associate.firstName then
        associate.participant settings settings.associateFee
      else {}

/-- The sale that an order comes to at `now`. -/
def Order.price (settings : Settings) (now : Instant) (order : Order) : Sale where
  paymentService := settings.paymentService
  year := Time.MembershipYear.sold now
  primary := order.primary.participant settings settings.ordinaryFee
  associate := order.associateParticipant settings
  donationToSociety := order.donationToSociety
  donationToMuseum := order.donationToMuseum
  giftAid := settings.giftAid && order.giftAid

end Dues
