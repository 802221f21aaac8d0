import Dues.Purchase.Error
import Dues.Purchase.Matching
import Dues.Text.Lowercase
import Dues.Time.MembershipYear

/-! # Fulfilment

A sale that has been paid for makes its persons members, or extends their memberships, and is
complete then. All of it happens in one transaction. Whoever is no member yet gets an account,
unless there is one with their login name.
-/

namespace Dues

open Dues.Register
open Dues.Text (trim isBlankText)
open Dues.Time (Instant)

inductive Outcome where
  | fulfilled (sale : Sale)
  /-- The sale had been completed before; nothing was written. -/
  | alreadyComplete (sale : Sale)
  deriving DecidableEq

def Outcome.sale : Outcome → Sale
  | .fulfilled sale => sale
  | .alreadyComplete sale => sale

namespace Fulfilment

/-- The words of both names, joined by points, in small letters. -/
def loginOfNames (firstName lastName : String) : String :=
  let words := Text.words (firstName.toList ++ ' ' :: lastName.toList)
  String.ofList (Text.Lowercase.lower (Text.joinWith ['.'] words))

/-- The login name of a new associate: their own email, or one made up of their names. -/
def associateLogin (sale : Sale) : String :=
  if sale.associateEmail.isEmpty then
    loginOfNames sale.associate.firstName sale.associate.lastName
  else sale.associateEmail

def accountNumber (loginName : String) : Action RegisterError Int := do
  match ← accountsNamed loginName with
  | (id, _) :: _ => return id
  | [] => return (← openAccount loginName).1

/-- Writes down what the sale tells about a person. -/
def describe (userId : Int) (person : Participant) : Action RegisterError Unit := do
  setValue ProfileField.firstName userId person.firstName
  setValue ProfileField.lastName userId person.lastName
  if !isBlankText person.email then
    setValue ProfileField.email userId (trim person.email)

/-- Makes a person a member until the end of `year`; the person's account. `known` is the account of
a person who is a member already. -/
def provide (person : Participant) (known : Int) (loginName : String) (now : Instant)
    (year : Int) : Action RegisterError Int := do
  let ends := Time.MembershipYear.ends year
  if 0 < known then
    let _ ← extend known ends
    return known
  else
    let userId ← accountNumber loginName
    match ← membership? userId with
    | some _ =>
        let _ ← extend userId ends
    | none =>
        let _ ← enrol userId memberRole now ends
    describe userId person
    return userId

def failing (operation : String) (saleId : Int) (e : RegisterError) : StepError :=
  ⟨operation, saleId, .register e⟩

def providePrimary (sale : Sale) (found : Matches) (now : Instant) : Action StepError Int :=
  if !found.isRenewal && isBlankText sale.primary.email then
    throw ⟨"provision primary member", sale.id, .missingEmail⟩
  else
    (provide sale.primary found.primary (trim sale.primary.email) now sale.year).orFail
      (failing "provision primary member" sale.id)

/-- Associates count only where the section for other member types is enabled. -/
def provideAssociate (sale : Sale) (found : Matches) (now : Instant) (withAssociate : Bool) :
    Action StepError Int :=
  if withAssociate && sale.associate.isPresent then
    (provide sale.associate found.associate (associateLogin sale) now sale.year).orFail
      (failing "provision associate member" sale.id)
  else return 0

/-- The sale with the accounts of its persons, who are members now. -/
def provideAll (sale : Sale) (now : Instant) (withAssociate : Bool) : Action StepError Sale := do
  let found ← (findMatches sale).orFail (failing "resolve members" sale.id)
  let primaryId ← providePrimary sale found now
  let associateId ← provideAssociate sale found now withAssociate
  return { sale with
    kind := if found.isRenewal then .renewal else .newMember
    primary := { sale.primary with userId := primaryId }
    associate := { sale.associate with userId := associateId } }

/-- Fulfils the sale `saleId`, paid for in session `paymentId`, unless that has been done. -/
def fulfil (saleId : Int) (paymentId : String) (now : Instant) (withAssociate : Bool) :
    Action StepError Outcome := do
  let sale ← (SaleBook.find saleId).orFail fun e => ⟨"fetch sale", saleId, .sale e⟩
  if sale.status = .complete then
    return .alreadyComplete sale
  else
    let provided ← provideAll sale now withAssociate
    let sale := { provided with status := .complete, paymentId }
    (SaleBook.replace sale).orFail fun e => ⟨"update sale", saleId, .sale e⟩
    return .fulfilled sale

end Fulfilment

end Dues
