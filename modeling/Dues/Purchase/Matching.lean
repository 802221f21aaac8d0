import Dues.Register.Basic
import Dues.Sale.Basic

/-! # Who is a member already

The persons on a sale are looked for among the members, by email or by both names. An associate who
gives the first person's email is looked for by names only.
-/

namespace Dues

open Dues.Register (RegisterError findMember)

/-- The accounts of the persons on a sale, 0 for a person who is no member. -/
structure Matches where
  primary : Int
  associate : Int
  deriving Repr, DecidableEq

def Matches.isRenewal (m : Matches) : Bool := 0 < m.primary

def findMatches (sale : Sale) : Action RegisterError Matches := do
  let primary ← findMember sale.primary.firstName sale.primary.lastName sale.primary.email
  let associate ←
    if sale.associate.isPresent then
      findMember sale.associate.firstName sale.associate.lastName sale.associateEmail
    else pure 0
  return ⟨primary, associate⟩

end Dues
