import Dues.Money.Written
import Dues.Time.Written

/-! # Profile values

Values of profile fields are kept as text. Each type of value has one written form; reading takes
somewhat more than that, as the texts may have been edited by hand.
-/

namespace Dues.Register

open Dues.Text (trimChars)
open Dues.Time (Date Moment)
open Dues.Money (Decimal)

inductive ValueType where
  | text
  | flag
  | integer
  | decimal
  | date
  | moment
  deriving Repr, DecidableEq

namespace ValueType

@[reducible]
def Value : ValueType → Type
  | .text => String
  | .flag => Bool
  | .integer => Int
  | .decimal => Decimal
  | .date => Date
  | .moment => Moment

/-- The value of a field that was never set. -/
def zero : (t : ValueType) → t.Value
  | .text => ""
  | .flag => false
  | .integer => (0 : Int)
  | .decimal => Decimal.zero
  | .date => Date.epoch
  | .moment => Moment.epoch

def encode : (t : ValueType) → t.Value → String
  | .text, s => s
  | .flag, b => if b then "1" else "0"
  | .integer, (n : Int) => String.ofList (Text.digitsOfInt n)
  | .decimal, (d : Decimal) => d.pence
  | .date, d => Time.Written.date d
  | .moment, m => Time.Written.moment m

/-- Integers have 32 bits. A flag that was emptied is not set. -/
def decode : (t : ValueType) → String → Option t.Value
  | .text, s => some s
  | .flag, s => if s = "1" then some true else if s = "0" ∨ s = "" then some false else none
  | .integer, s => Text.readSigned? 32 (trimChars s.toList)
  | .decimal, s => Decimal.read? (trimChars s.toList)
  | .date, s => Time.Written.readDate? (trimChars s.toList)
  | .moment, s => Time.Written.readMoment? (trimChars s.toList)

end ValueType

/-- A profile field, addressed by its internal name. -/
structure ProfileField (t : ValueType) where
  name : String
  deriving Repr, DecidableEq

namespace ProfileField

def firstName : ProfileField .text := ⟨"FIRST_NAME"⟩
def lastName : ProfileField .text := ⟨"LAST_NAME"⟩
def email : ProfileField .text := ⟨"EMAIL"⟩
def friendOfTheMuseum : ProfileField .flag := ⟨"FRIEND_OF_THE_MUSEUM"⟩
def giftAid : ProfileField .flag := ⟨"GIFT_AID"⟩
def dateLastPaid : ProfileField .date := ⟨"DATE_LAST_PAID"⟩
def lastPayment : ProfileField .decimal := ⟨"VALUE_OF_LAST_PAYMENT"⟩
def donationToSociety : ProfileField .decimal := ⟨"VALUE_OF_DONATION_TO_LDLHS"⟩
def donationToMuseum : ProfileField .decimal := ⟨"VALUE_OF_DONATION_TO_THE_MUSEUM"⟩
def membersAtAddress : ProfileField .integer := ⟨"MEMBERS_AT_ADDRESS"⟩
def friendsAtAddress : ProfileField .integer :=
  ⟨"NUMBER_OF_FRIENDS_OF_THE_MUSEUM_AT_THIS_ADDRESS"⟩

end ProfileField

end Dues.Register
