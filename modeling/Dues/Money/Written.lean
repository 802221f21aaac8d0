import Dues.Money.Decimal
import Dues.Text.Number
import Dues.Text.Split

/-! # Decimals in text

An amount is written with all its places, or cut off after a number of them. The reader takes
digits with one point and separators between them, and scientific notation.
-/

namespace Dues.Money.Decimal

open Dues.Text (digitsOfNat paddedDigits digitValue natOfDigits)

def wholeChars (d : Decimal) : List Char := digitsOfNat (d.coefficient.natAbs / Nat.pow 10 d.scale)

def placeChars (d : Decimal) : List Char :=
  if d.scale = 0 then [] else paddedDigits d.scale (d.coefficient.natAbs % Nat.pow 10 d.scale)

def signChars (d : Decimal) : List Char := if d.isNegative then ['-'] else []

/-- The first `places` places, zeros put in for those that the amount does not have. -/
def chars (places : Nat) (d : Decimal) : List Char :=
  let fraction := (d.placeChars ++ List.replicate (places - d.scale) '0').take places
  d.signChars ++ d.wholeChars ++ if places = 0 then [] else '.' :: fraction

def text (d : Decimal) : String := String.ofList (chars d.scale d)

/-- Pounds and pence; further places are cut off. -/
def pence (d : Decimal) : String := String.ofList (chars 2 d)

/-- What a character is worth behind the last place that is kept. -/
def dropped? (c : Char) : Option Nat :=
  if c.isDigit then some (digitValue c) else if c = '_' then some 0 else none

/-- The result when the first dropped digit is `digit` and `rest` follows. -/
def roundOff (n scale digit : Nat) (rest : List Char) : Option (Nat × Nat) :=
  if !rest.all (fun c => (dropped? c).isSome) then none
  else if digit < 5 then some (n, scale)
  else if n + 1 < coefficientLimit then some (n + 1, scale)
  else if scale = 0 then none
  else some ((n + 5) / 10, scale - 1)

/-- Coefficient and scale of a text without sign. `point` tells whether the point has been read,
`seen` whether a digit has. -/
def readPlaces (point seen : Bool) (n scale : Nat) : List Char → Option (Nat × Nat)
  | [] => if seen then some (n, scale) else none
  | c :: rest =>
      if point && scale = maxScale then
        match dropped? c with
        | some digit => roundOff n scale digit rest
        | none => none
      else if c = '.' then
        if point then none else readPlaces true seen n scale rest
      else if c = '_' then
        if seen then readPlaces point seen n scale rest else none
      else if c.isDigit then
        let next := 10 * n + digitValue c
        if next < coefficientLimit then
          readPlaces point true next (if point then scale + 1 else 0) rest
        else if point then roundOff n scale (digitValue c) rest
        else none
      else none

def readUnsigned (negative : Bool) (cs : List Char) : Option Decimal :=
  match readPlaces false false 0 0 cs with
  | some (n, scale) => of? (if negative then -(n : Int) else n) scale
  | none => none

/-- A sign may come first. -/
def readPlain : List Char → Option Decimal
  | '-' :: cs => readUnsigned true cs
  | '+' :: cs => readUnsigned false cs
  | cs => readUnsigned false cs

/-- A whole number with at most a plus sign, below 2 ^ 32. -/
def readSize (cs : List Char) : Option Nat :=
  (Text.readNat? (match cs with | '+' :: rest => rest | _ => cs)).filter (· < Nat.pow 2 32)

/-- Divides by a power of ten; places beyond the last possible one are rounded off. -/
def shiftDown (exponent : Nat) (d : Decimal) : Option Decimal :=
  let excess := d.scale + exponent - maxScale
  of? (signed (divHalfUp · (Nat.pow 10 excess)) d.coefficient) (d.scale + exponent - excess)

/-- Multiplies by a power of ten, giving up places first. -/
def shiftUp (exponent : Nat) (d : Decimal) : Option Decimal :=
  if exponent ≤ d.scale then of? d.coefficient (d.scale - exponent)
  else of? (d.coefficient * Nat.pow 10 (exponent - d.scale)) 0

def shift : List Char → Decimal → Option Decimal
  | '-' :: cs, d =>
      match readSize cs with
      | some exponent => if exponent ≤ maxScale then shiftDown exponent d else none
      | none => none
  | cs, d =>
      match readSize cs with
      | some exponent =>
          if exponent ≤ maxScale ∨ exponent ≤ d.scale then shiftUp exponent d else none
      | none => none

/-- The part before the exponent mark and the part after it. -/
def splitAtExponent : List Char → Option (List Char × List Char)
  | [] => none
  | c :: rest =>
      if c = 'e' ∨ c = 'E' then some ([], rest)
      else (splitAtExponent rest).map fun (base, exponent) => (c :: base, exponent)

def readScientific (cs : List Char) : Option Decimal := do
  let (base, exponent) ← splitAtExponent cs
  let d ← readPlain base
  shift exponent d

def read? (cs : List Char) : Option Decimal :=
  match readPlain cs with
  | some d => some d
  | none => readScientific cs

def ofText? (s : String) : Option Decimal := read? s.toList

end Dues.Money.Decimal
