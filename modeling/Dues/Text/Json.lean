import Dues.Text.Number
import Dues.Text.CodePoints
import Dues.Text.Octets

/-! # JSON

The values that a payment provider answers with. What comes is octets, and the characters below are
octets, each the character of its number. Strings are kept even where their octets are no text or
where they name half of a surrogate pair, because such a string only matters to a reader that wants
its text.
-/

namespace Dues.Text

/-- A value as written. A string is none where its text is no text; members keep their order. -/
inductive Json
  | null
  | bool (b : Bool)
  | number (written : List Char)
  | string (text : Option (List Char))
  | array (items : List Json)
  | object (members : List (Option (List Char) × Json))

namespace Json

def isSpace (c : Char) : Bool := c = ' ' || c = '\n' || c = '\t' || c = '\r'

def skipSpace (cs : List Char) : List Char := cs.dropWhile isSpace

/-- What comes after a sign, blanks before it aside. -/
def sign? (sign : Char) (cs : List Char) : Option (List Char) :=
  match skipSpace cs with
  | [] => none
  | c :: rest => if c = sign then some rest else none

def isHighHalf (n : Nat) : Bool := 0xD800 ≤ n && n < 0xDC00

def isLowHalf (n : Nat) : Bool := 0xDC00 ≤ n && n < 0xE000

/-- A part of a string as written: an octet that stands for itself, or the code unit of an escape. -/
inductive Part
  | octet (b : Nat)
  | unit (n : Nat)
  deriving Repr, DecidableEq

/-- The character that the halves of a surrogate pair stand for. -/
def joined (high low : Nat) : Char := Char.ofNat (0x10000 + (high - 0xD800) * 0x400 + (low - 0xDC00))

/-- The octets that parts stand for, halves of surrogate pairs joined. -/
def octetsOf : List Part → Option (List Nat)
  | [] => some []
  | .octet b :: rest => (octetsOf rest).map (b :: ·)
  | .unit a :: rest =>
      if isLowHalf a then none
      else if isHighHalf a then
        match rest with
        | .unit b :: rest' =>
            if isLowHalf b then (octetsOf rest').map (Octets.ofChar (joined a b) ++ ·) else none
        | _ => none
      else (octetsOf rest).map (Octets.ofChar (Char.ofNat a) ++ ·)

/-- The text that parts stand for. -/
def textOf (parts : List Part) : Option (List Char) := (octetsOf parts).bind Octets.read?

def simpleEscape? : Char → Option Nat
  | '"' => some 0x22
  | '\\' => some 0x5C
  | '/' => some 0x2F
  | 'b' => some 8
  | 'f' => some 12
  | 'n' => some 10
  | 'r' => some 13
  | 't' => some 9
  | _ => none

/-- The parts of a string whose opening quotation mark has been read, and what comes after it. -/
def readParts : List Char → Option (List Part × List Char)
  | [] => none
  | '"' :: rest => some ([], rest)
  | '\\' :: 'u' :: a :: b :: c :: d :: rest =>
      if [a, b, c, d].all isHexDigit then
        (readParts rest).map fun (parts, after) => (.unit (natOfHex [a, b, c, d]) :: parts, after)
      else none
  | '\\' :: e :: rest =>
      match simpleEscape? e with
      | none => none
      | some unit => (readParts rest).map fun (parts, after) => (.unit unit :: parts, after)
  | c :: rest =>
      if c.toNat < 0x20 || c = '\\' then none
      else (readParts rest).map fun (parts, after) => (.octet c.toNat :: parts, after)

def readText (cs : List Char) : Option (Option (List Char) × List Char) :=
  (readParts cs).map fun (parts, after) => (textOf parts, after)

/-- One of the signs, if the text begins with one. -/
def readSign (signs : List Char) : List Char → List Char × List Char
  | [] => ([], [])
  | c :: rest => if c ∈ signs then ([c], rest) else ([], c :: rest)

/-- A run of at least one digit. -/
def readDigits (cs : List Char) : Option (List Char × List Char) :=
  match cs.takeWhile Char.isDigit with
  | [] => none
  | digits => some (digits, cs.dropWhile Char.isDigit)

/-- No digit follows a leading zero. -/
def readWhole : List Char → Option (List Char × List Char)
  | '0' :: c :: rest => if c.isDigit then none else some (['0'], c :: rest)
  | cs => readDigits cs

def readFraction : List Char → Option (List Char × List Char)
  | '.' :: rest => (readDigits rest).map fun (digits, after) => ('.' :: digits, after)
  | cs => some ([], cs)

def isExponentMark (c : Char) : Bool := c = 'e' || c = 'E'

def readExponent : List Char → Option (List Char × List Char)
  | [] => some ([], [])
  | c :: rest =>
      if isExponentMark c then
        let (sign, rest) := readSign ['+', '-'] rest
        (readDigits rest).map fun (digits, after) => (c :: (sign ++ digits), after)
      else some ([], c :: rest)

def readNumber (cs : List Char) : Option (Json × List Char) := do
  let (sign, cs) := readSign ['-'] cs
  let (whole, cs) ← readWhole cs
  let (fraction, cs) ← readFraction cs
  let (exponent, cs) ← readExponent cs
  return (.number (sign ++ whole ++ fraction ++ exponent), cs)

mutual
/-- A value at the start of the text. Each step of `fuel` reads at least one character. -/
def readValue : Nat → List Char → Option (Json × List Char)
  | 0, _ => none
  | fuel + 1, cs =>
      match skipSpace cs with
      | 'n' :: 'u' :: 'l' :: 'l' :: rest => some (.null, rest)
      | 't' :: 'r' :: 'u' :: 'e' :: rest => some (.bool true, rest)
      | 'f' :: 'a' :: 'l' :: 's' :: 'e' :: rest => some (.bool false, rest)
      | '"' :: rest => (readText rest).map fun (text, after) => (.string text, after)
      | '[' :: rest =>
          ((sign? ']' rest).map fun after => (.array [], after)) <|>
            (readItems fuel rest).map fun (items, after) => (.array items, after)
      | '\x7b' :: rest =>
          ((sign? '\x7d' rest).map fun after => (.object [], after)) <|>
            (readMembers fuel rest).map fun (members, after) => (.object members, after)
      | rest => readNumber rest

/-- The items of an array that has some, and the bracket behind them. -/
def readItems : Nat → List Char → Option (List Json × List Char)
  | 0, _ => none
  | fuel + 1, cs => do
      let (item, cs) ← readValue fuel cs
      match sign? ']' cs with
      | some after => return ([item], after)
      | none =>
          let (items, after) ← readItems fuel (← sign? ',' cs)
          return (item :: items, after)

/-- The members of an object that has some, and the bracket behind them. -/
def readMembers : Nat → List Char → Option (List (Option (List Char) × Json) × List Char)
  | 0, _ => none
  | fuel + 1, cs => do
      let (name, cs) ← readText (← sign? '"' cs)
      let (value, cs) ← readValue fuel (← sign? ':' cs)
      match sign? '\x7d' cs with
      | some after => return ([(name, value)], after)
      | none =>
          let (members, after) ← readMembers fuel (← sign? ',' cs)
          return ((name, value) :: members, after)
end

/-- Octets as the characters of their numbers. -/
def charsOf (octets : List UInt8) : List Char := octets.map fun b => Char.ofNat b.toNat

/-- The value that the octets are as a whole, blanks around it aside. -/
def ofOctets? (octets : List UInt8) : Option Json :=
  match readValue (2 * octets.length + 2) (charsOf octets) with
  | some (value, rest) => if (skipSpace rest).isEmpty then some value else none
  | none => none

def text? : Json → Option String
  | .string (some cs) => some (String.ofList cs)
  | _ => none

/-- The value of the member called `name`: none where it is named twice. -/
def member? (name : String) (members : List (Option (List Char) × Json)) : Option (Option Json) :=
  match members.filter fun m => m.1 == some name.toList with
  | [] => some none
  | [m] => some (some m.2)
  | _ => none

/-- The values of a record's fields in the order of `names`. A record is an object, in which other
members are passed over, or an array of exactly these fields. -/
def fields? (names : List String) : Json → Option (List (Option Json))
  | .object members =>
      if members.all fun m => m.1.isSome then names.mapM fun name => member? name members else none
  | .array items => if items.length = names.length then some (items.map some) else none
  | _ => none

/-- A field that must hold a text. -/
def requiredText? (field : Option Json) : Option String := field.bind text?

/-- A field that may be missing or null. -/
def optional? {α : Type} (read : Json → Option α) : Option Json → Option (Option α)
  | none => some none
  | some .null => some none
  | some j => (read j).map some

end Json

end Dues.Text
