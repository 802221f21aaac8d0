import Dues.Settings.Value
import Dues.Text.CodePoints
import Dues.Time.Date

/-! # Literals

Quoted texts and numbers, in the spelling that settings files use for them.
-/

namespace Dues.Settings.Literal

open Dues.Text (isHexDigit natOfHex natOfDigits hexDigitValue)

/-- Characters that may stand in a text as they are. -/
def isPrintable (c : Char) : Bool := c = '\t' || (0x20 ≤ c.toNat && c.toNat ≠ 0x7F)

def simpleEscape? : Char → Option Char
  | 'b' => some '\x08'
  | 't' => some '\t'
  | 'n' => some '\n'
  | 'f' => some '\x0c'
  | 'r' => some '\r'
  | '"' => some '"'
  | '\\' => some '\\'
  | _ => none

def charOfHex? (cs : List Char) : Option Char :=
  if cs.all isHexDigit && (natOfHex cs).isValidChar then some (Char.ofNat (natOfHex cs)) else none

/-- The character that an escape stands for, and the text after it. The backslash has been read. -/
def readEscape : List Char → Option (Char × List Char)
  | 'u' :: a :: b :: c :: d :: rest => (charOfHex? [a, b, c, d]).map (·, rest)
  | 'U' :: a :: b :: c :: d :: e :: f :: g :: h :: rest =>
      (charOfHex? [a, b, c, d, e, f, g, h]).map (·, rest)
  | c :: rest => (simpleEscape? c).map (·, rest)
  | [] => none

/-- A text up to the next quotation mark. Each step of `fuel` reads at least one character. -/
def readBasic : (fuel : Nat) → List Char → Option (List Char × List Char)
  | 0, _ => none
  | _, [] => none
  | _, '"' :: rest => some ([], rest)
  | fuel + 1, '\\' :: rest => do
      let (c, rest) ← readEscape rest
      let (cs, rest) ← readBasic fuel rest
      return (c :: cs, rest)
  | fuel + 1, c :: rest =>
      if isPrintable c then (readBasic fuel rest).map fun (cs, rest) => (c :: cs, rest) else none

/-- A text without escapes up to the next apostrophe. -/
def readVerbatim : List Char → Option (List Char × List Char)
  | [] => none
  | '\'' :: rest => some ([], rest)
  | c :: rest =>
      if isPrintable c then (readVerbatim rest).map fun (cs, rest) => (c :: cs, rest) else none

/-- Digits of which `isDigit` holds, single underscores between them left out. -/
def readDigits? (isDigit : Char → Bool) : List Char → Option (List Char)
  | [] => none
  | [c] => if isDigit c then some [c] else none
  | c :: '_' :: rest => if isDigit c then (readDigits? isDigit rest).map (c :: ·) else none
  | c :: rest => if isDigit c then (readDigits? isDigit rest).map (c :: ·) else none

/-- Digits without a zero in front. -/
def readWhole? (cs : List Char) : Option (List Char) :=
  match cs with
  | '0' :: _ :: _ => none
  | _ => readDigits? Char.isDigit cs

def splitSign : List Char → Bool × List Char
  | '-' :: cs => (true, cs)
  | '+' :: cs => (false, cs)
  | cs => (false, cs)

def integer? (n : Int) : Option Value := if Text.fitsSigned 64 n then some (.integer n) else none

def readRadix? (radix : Nat) (isDigit : Char → Bool) (cs : List Char) : Option Value := do
  let ds ← readDigits? isDigit cs
  integer? (ds.foldl (fun n c => radix * n + hexDigitValue c) 0 : Nat)

def readInteger? : List Char → Option Value
  | '0' :: 'x' :: cs => readRadix? 16 isHexDigit cs
  | '0' :: 'o' :: cs => readRadix? 8 (fun c => '0' ≤ c && c ≤ '7') cs
  | '0' :: 'b' :: cs => readRadix? 2 (fun c => c = '0' || c = '1') cs
  | cs => do
      let (negative, cs) := splitSign cs
      let n := natOfDigits (← readWhole? cs)
      integer? (if negative then -(n : Int) else n)

/-- The part before an exponent mark, and the part after it. -/
def splitExponent (cs : List Char) : List Char × Option (List Char) :=
  let mark := fun c => c = 'e' || c = 'E'
  match cs.dropWhile (!mark ·) with
  | [] => (cs, none)
  | _ :: exponent => (cs.takeWhile (!mark ·), some exponent)

def readExponent? : Option (List Char) → Option Int
  | none => some 0
  | some cs => do
      let (negative, cs) := splitSign cs
      let n := natOfDigits (← readDigits? Char.isDigit cs)
      return if negative then -(n : Int) else n

/-- A number with a fraction, an exponent or both. What is too large is refused, unless it is
negative. -/
def readFloat? (cs : List Char) : Option Value := do
  let (negative, cs) := splitSign cs
  if cs = "inf".toList then some (.float .infinite)
  else if cs = "nan".toList then some (.float .notANumber)
  else
    let (number, exponent) := splitExponent cs
    let (whole, fraction) := Text.splitAtFirst '.' number
    if fraction.isNone && exponent.isNone then none
    else
      let whole ← readWhole? whole
      let fraction ← match fraction with
        | none => some []
        | some ds => readDigits? Char.isDigit ds
      let exponent ← readExponent? exponent
      match Value.ofDigits negative whole fraction exponent with
      | .float .infinite => if negative then some (.float .infinite) else none
      | value => some value

/-- A number of exactly `width` digits between two bounds. -/
def isField (width low high : Nat) (cs : List Char) : Bool :=
  cs.length = width && cs.all Char.isDigit && low ≤ natOfDigits cs && natOfDigits cs ≤ high

def isDate (cs : List Char) : Bool :=
  match Text.splitAtEach '-' cs with
  | [year, month, day] =>
      isField 4 0 9999 year && isField 2 1 12 month &&
        isField 2 1 (Time.monthLength (natOfDigits year) (natOfDigits month)) day
  | _ => false

def isTime (cs : List Char) : Bool :=
  match Text.splitAtEach ':' cs with
  | [hour, minute, second] =>
      let (second, fraction) := Text.splitAtFirst '.' second
      isField 2 0 23 hour && isField 2 0 59 minute && isField 2 0 60 second &&
        fraction.all fun ds => !ds.isEmpty && ds.all Char.isDigit
  | _ => false

def isOffset (cs : List Char) : Bool :=
  match Text.splitAtEach ':' cs with
  | [hour, minute] => isField 2 0 23 hour && isField 2 0 59 minute
  | _ => false

def isTimeWithOffset (cs : List Char) : Bool :=
  let time := cs.takeWhile fun c => c.isDigit || c = ':' || c = '.'
  isTime time &&
    match cs.drop time.length with
    | [] => true
    | ['Z'] => true
    | ['z'] => true
    | '+' :: offset => isOffset offset
    | '-' :: offset => isOffset offset
    | _ => false

def isMoment (cs : List Char) : Bool :=
  isTime cs || isDate cs ||
    (isDate (cs.take 10) &&
      match cs.drop 10 with
      | [] => false
      | c :: time => (c = 'T' || c = 't' || c = ' ') && isTimeWithOffset time)

/-- What a word without quotation marks stands for. -/
def readWord? (cs : List Char) : Option Value :=
  if cs = "true".toList then some (.bool true)
  else if cs = "false".toList then some (.bool false)
  else if isMoment cs then some (.moment (String.ofList cs))
  else readInteger? cs <|> readFloat? cs

end Dues.Settings.Literal
