import Dues.Sale.Basic
import Dues.Money.Binary64

/-! # Stored sales

The columns of a sale. Amounts are kept as binary fractions, and an account that is not known yet is
a missing reference.
-/

namespace Dues

open Dues.Money (Binary64)

structure ParticipantRecord where
  userRef : Option Int
  firstName : String
  lastName : String
  email : String
  fee : Binary64
  friend : Bool
  friendFee : Binary64
  deriving DecidableEq

structure SaleRecord where
  paymentService : String
  status : SaleStatus
  paymentId : String
  kind : SaleKind
  year : Int
  primary : ParticipantRecord
  associate : ParticipantRecord
  donationToSociety : Binary64
  donationToMuseum : Binary64
  giftAid : Bool
  deriving DecidableEq

def userRef (id : Int) : Option Int := if 0 < id then some id else none

def Participant.record (p : Participant) (ref : Option Int) : ParticipantRecord where
  userRef := ref
  firstName := p.firstName
  lastName := p.lastName
  email := p.email
  fee := .ofDecimal p.fee
  friend := p.friend
  friendFee := .ofDecimal p.friendFee

/-- An associate who was left out has no account. -/
def Sale.record (s : Sale) : SaleRecord where
  paymentService := s.paymentService
  status := s.status
  paymentId := s.paymentId
  kind := s.kind
  year := s.year
  primary := s.primary.record (userRef s.primary.userId)
  associate :=
    s.associate.record (if s.associate.isPresent then userRef s.associate.userId else none)
  donationToSociety := .ofDecimal s.donationToSociety
  donationToMuseum := .ofDecimal s.donationToMuseum
  giftAid := s.giftAid

/-- None where an amount is too large to be read. -/
def ParticipantRecord.participant? (r : ParticipantRecord) : Option Participant := do
  let fee ← r.fee.toDecimal?
  let friendFee ← r.friendFee.toDecimal?
  return {
    userId := r.userRef.getD 0
    firstName := r.firstName
    lastName := r.lastName
    email := r.email
    fee
    friend := r.friend
    friendFee }

def SaleRecord.sale? (id : Int) (r : SaleRecord) : Option Sale := do
  let primary ← r.primary.participant?
  let associate ← r.associate.participant?
  let donationToSociety ← r.donationToSociety.toDecimal?
  let donationToMuseum ← r.donationToMuseum.toDecimal?
  return {
    id
    paymentService := r.paymentService
    status := r.status
    paymentId := r.paymentId
    kind := r.kind
    year := r.year
    primary
    associate
    donationToSociety
    donationToMuseum
    giftAid := r.giftAid }

end Dues
