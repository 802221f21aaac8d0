import Dues.Text.Number
import Dues.Text.Split
import Dues.Time.Date

/-! # Dates in text

Dates are written as `2025-04-02` and moments as `2025-04-02 09:30:00`. Years have four digits, and
a sign beyond that range. The readers are more generous: numbers may be short and may have blanks
before them.
-/

namespace Dues.Time

open Dues.Text (paddedDigits trimStart natOfDigits)

/-- A date and a time of day. The second 60 is a leap second. -/
structure Moment where
  date : Date
  hour : Nat
  minute : Nat
  second : Nat
  hour_lt : hour < 24
  minute_lt : minute < 60
  second_le : second ≤ 60
  deriving DecidableEq

namespace Moment

def of? (date : Date) (hour minute second : Nat) : Option Moment :=
  if h : hour < 24 ∧ minute < 60 ∧ second ≤ 60 then
    some ⟨date, hour, minute, second, h.1, h.2.1, h.2.2⟩
  else none

def epoch : Moment := ⟨Date.epoch, 0, 0, 0, by decide, by decide, by decide⟩

end Moment

namespace Written

def yearChars (year : Int) : List Char :=
  if year < 0 then '-' :: paddedDigits 4 year.natAbs
  else if year ≤ 9999 then paddedDigits 4 year.natAbs
  else '+' :: paddedDigits 4 year.natAbs

def dateChars (d : Date) : List Char :=
  yearChars d.year ++ '-' :: paddedDigits 2 d.month ++ '-' :: paddedDigits 2 d.day

def date (d : Date) : String := String.ofList (dateChars d)

def moment (m : Moment) : String :=
  String.ofList (dateChars m.date ++ ' ' :: paddedDigits 2 m.hour ++ ':' :: paddedDigits 2 m.minute
    ++ ':' :: paddedDigits 2 m.second)

/-- At most `width` digits; the number they stand for and the text after them. -/
def readDigits (width : Nat) (cs : List Char) : Option (Nat × List Char) :=
  let digits := (cs.takeWhile Char.isDigit).take width
  if digits.isEmpty then none else some (natOfDigits digits, cs.drop digits.length)

/-- A number of one or two digits, blanks before it aside. -/
def readField (cs : List Char) : Option (Nat × List Char) := readDigits 2 (trimStart cs)

/-- Four digits at most, but any number of them behind a sign. -/
def readYear (cs : List Char) : Option (Int × List Char) :=
  match trimStart cs with
  | '-' :: rest => (readDigits rest.length rest).map fun (n, after) => (-(n : Int), after)
  | '+' :: rest => (readDigits rest.length rest).map fun (n, after) => ((n : Int), after)
  | cs => (readDigits 4 cs).map fun (n, after) => ((n : Int), after)

/-- What follows the mark `c`. -/
def readMark (c : Char) : List Char → Option (List Char)
  | [] => none
  | d :: rest => if d = c then some rest else none

/-- Year, month and day at the start of a text. -/
def readDateFields (cs : List Char) : Option ((Int × Nat × Nat) × List Char) := do
  let (year, cs) ← readYear cs
  let cs ← readMark '-' cs
  let (month, cs) ← readField cs
  let cs ← readMark '-' cs
  let (day, cs) ← readField cs
  return ((year, month, day), cs)

def readDate? (cs : List Char) : Option Date := do
  let ((year, month, day), rest) ← readDateFields cs
  if rest.isEmpty then Date.of? year month day else none

/-- Blanks between date and time are optional. -/
def readMoment? (cs : List Char) : Option Moment := do
  let ((year, month, day), cs) ← readDateFields cs
  let (hour, cs) ← readField (trimStart cs)
  let cs ← readMark ':' cs
  let (minute, cs) ← readField cs
  let cs ← readMark ':' cs
  let (second, rest) ← readField cs
  let date ← Date.of? year month day
  if rest.isEmpty then Moment.of? date hour minute second else none

end Written

end Dues.Time
