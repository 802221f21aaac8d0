import Dues.Address.Email
import Dues.Money.Written
import Dues.Purchase.Order

/-! # The membership form

The form as it is sent in: texts for the fields, and a value for each box that is ticked. It is
checked field by field, and each field has one complaint at most.
-/

namespace Dues.Site

open Dues.Money (Decimal)
open Dues.Text (trim isBlankText)

/-- A ticked box comes with a value, whatever that is. -/
structure MembershipForm where
  firstName : String := ""
  lastName : String := ""
  email : String := ""
  friend : Option String := none
  associateFirstName : String := ""
  associateLastName : String := ""
  associateEmail : String := ""
  associateFriend : Option String := none
  donationToSociety : String := ""
  donationToMuseum : String := ""
  giftAid : Option String := none
  deriving Repr, DecidableEq

namespace MembershipForm

/-- The names of the fields as they are sent. -/
def fieldNames : List String :=
  ["first_name", "last_name", "email", "friend", "associate_first_name", "associate_last_name",
    "associate_email", "associate_friend", "donation_to_society", "donation_to_museum", "giftaid"]

/-- The form that a list of pairs fills in. Pairs with other names do not count. -/
def ofPairs (pairs : List (String × String)) : MembershipForm :=
  let field := fun name => (pairs.lookup name).getD ""
  { firstName := field "first_name"
    lastName := field "last_name"
    email := field "email"
    friend := pairs.lookup "friend"
    associateFirstName := field "associate_first_name"
    associateLastName := field "associate_last_name"
    associateEmail := field "associate_email"
    associateFriend := pairs.lookup "associate_friend"
    donationToSociety := field "donation_to_society"
    donationToMuseum := field "donation_to_museum"
    giftAid := pairs.lookup "giftaid" }

end MembershipForm

/-- What is wrong with the value of a field. -/
inductive Complaint where
  | required
  | invalidEmail
  | notANumber
  | negative
  deriving Repr, DecidableEq

namespace Complaint

/-- The check that found it. -/
def code : Complaint → String
  | .required => "required"
  | .invalidEmail => "email"
  | .notANumber => "amount"
  | .negative => "amount"

def message : Complaint → String
  | .required => "required"
  | .invalidEmail => "must be a valid email address"
  | .notANumber => "must be a number"
  | .negative => "must be 0 or greater"

end Complaint

/-- An amount of money. A blank text stands for nothing. -/
def readAmount (s : String) : Except Complaint Decimal :=
  if isBlankText s then .ok Decimal.zero
  else
    match Decimal.ofText? (trim s) with
    | none => .error .notANumber
    | some amount => if amount.isNegative then .error .negative else .ok amount

def checkRequired (s : String) : Option Complaint :=
  if isBlankText s then some .required else none

/-- An email that may be left out. -/
def checkOptionalEmail (s : String) : Option Complaint :=
  if isBlankText s || Address.Email.isValid (trim s) then none else some .invalidEmail

def checkRequiredEmail (s : String) : Option Complaint :=
  checkRequired s <|> checkOptionalEmail s

def checkAmount (s : String) : Option Complaint :=
  match readAmount s with
  | .ok _ => none
  | .error complaint => some complaint

/-- Complaints by the name of the field. -/
abbrev Complaints : Type := List (String × Complaint)

namespace MembershipForm

def checks (form : MembershipForm) : List (String × Option Complaint) :=
  [("first_name", checkRequired form.firstName),
    ("last_name", checkRequired form.lastName),
    ("email", checkRequiredEmail form.email),
    ("associate_email", checkOptionalEmail form.associateEmail),
    ("donation_to_society", checkAmount form.donationToSociety),
    ("donation_to_museum", checkAmount form.donationToMuseum)]

/-- A form without complaints is accepted. -/
def complaints (form : MembershipForm) : Complaints :=
  form.checks.filterMap fun (name, complaint) => complaint.map (name, ·)

/-- An associate is meant only where a first name is given. -/
def associate (form : MembershipForm) : Option Applicant :=
  if isBlankText form.associateFirstName then none
  else some {
    firstName := form.associateFirstName
    lastName := form.associateLastName
    email := form.associateEmail
    friend := form.associateFriend.isSome }

def amountOrZero (s : String) : Decimal :=
  match readAmount s with
  | .ok amount => amount
  | .error _ => Decimal.zero

def order (form : MembershipForm) : Order where
  primary := {
    firstName := form.firstName
    lastName := form.lastName
    email := form.email
    friend := form.friend.isSome }
  associate := form.associate
  donationToSociety := amountOrZero form.donationToSociety
  donationToMuseum := amountOrZero form.donationToMuseum
  giftAid := form.giftAid.isSome

end MembershipForm

end Dues.Site
