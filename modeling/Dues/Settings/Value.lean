import Dues.Money.Shortest

/-! # Setting values

Values as they come from the settings file and the environment, before anything is known about what
they are for.
-/

namespace Dues.Settings

open Dues.Money (Binary64)

inductive FloatValue where
  | finite (b : Binary64)
  | infinite
  | notANumber
  deriving DecidableEq

inductive Value where
  | text (s : String)
  | bool (b : Bool)
  | integer (n : Int)
  | float (f : FloatValue)
  /-- A date or time, which no setting wants. -/
  | moment (s : String)
  | array (items : List Value)
  | table (entries : List (String × Value))

namespace Value

/-- From this size on a number is too large for a binary fraction. -/
def overflowBound : Rat := ((Nat.pow 2 1024 - Nat.pow 2 970 : Nat) : Rat)

/-- Up to this size a number is too small for a binary fraction. -/
def underflowBound : Rat := mkRat 1 (Nat.pow 2 1075)

/-- The float that a decimal number is read as. -/
def ofNumber (q : Rat) : Value :=
  if overflowBound ≤ q ∨ q ≤ -overflowBound then .float .infinite
  else if -underflowBound ≤ q ∧ q ≤ underflowBound then .float (.finite .zero)
  else .float (.finite (.nearest q))

/-- `whole.fraction` with a power of ten. Powers that make any digits too large or too small are cut
down first. -/
def ofDigits (negative : Bool) (whole fraction : List Char) (exponent : Int) : Value :=
  let digits := whole ++ fraction
  let n := Text.natOfDigits digits
  let power := max (-400 - (digits.length : Int)) (min (exponent - fraction.length) 400)
  let q := if n = 0 then 0 else Money.Shortest.scaled n power
  ofNumber (if negative then -q else q)

/-- Adds an entry, or puts it in the place of the one with its key. -/
def setEntry (key : String) (value : Value) (entries : List (String × Value)) :
    List (String × Value) :=
  if entries.any (fun e => e.1 == key) then
    entries.map fun e => if e.1 == key then (key, value) else e
  else entries ++ [(key, value)]

/-- The value under a path of keys. -/
def nest (path : List String) (value : Value) : Value :=
  path.foldr (fun key inner => .table [(key, inner)]) value

/-- Both values in one: tables are joined key by key, of anything else the winner counts. Joining
goes no deeper than `depth` tables. -/
def overlay : (depth : Nat) → (base winner : Value) → Value
  | depth + 1, .table below, .table above =>
      .table (above.foldl
        (fun entries (key, value) =>
          match entries.lookup key with
          | some old => setEntry key (overlay depth old value) entries
          | none => setEntry key value entries)
        below)
  | _, _, winner => winner

end Value

end Dues.Settings
