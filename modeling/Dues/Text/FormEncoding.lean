import Dues.Text.CodePoints
import Dues.Text.Octets

/-! # Form encoding

Lists of names and values as one line of ASCII, the way forms are posted and query strings are
written. The reader takes any text: what is not a proper escape stands for itself.
-/

namespace Dues.Text.FormEncoding

open Octets (ofChar ofChars toChars)

/-- Characters that are written as they are. -/
def isPlain (c : Char) : Bool :=
  c.isAlphanum || c = '*' || c = '-' || c = '.' || c = '_'

def hexDigit (n : Nat) : Char :=
  if n < 10 then Char.ofNat ('0'.toNat + n) else Char.ofNat ('A'.toNat + (n - 10))

def escapeOctet (b : Nat) : List Char := ['%', hexDigit (b / 16), hexDigit (b % 16)]

def encodeChar (c : Char) : List Char :=
  if isPlain c then [c] else if c = ' ' then ['+'] else (ofChar c).flatMap escapeOctet

def encodeText (cs : List Char) : List Char := cs.flatMap encodeChar

def encodePair (pair : String × String) : List Char :=
  encodeText pair.1.toList ++ '=' :: encodeText pair.2.toList

/-- The pairs in order, joined by `&`. -/
def encode (pairs : List (String × String)) : String :=
  String.ofList (joinWith ['&'] (pairs.map encodePair))

/-- The octets that an encoded text stands for. -/
def octets : List Char → List Nat
  | [] => []
  | '+' :: rest => 0x20 :: octets rest
  | '%' :: a :: b :: rest =>
      if isHexDigit a && isHexDigit b then
        (16 * hexDigitValue a + hexDigitValue b) :: octets rest
      else 0x25 :: octets (a :: b :: rest)
  | c :: rest => ofChar c ++ octets rest

def decodeText (cs : List Char) : String := String.ofList (toChars (octets cs))

/-- A name without `=` has the empty text as its value. -/
def decodePair (cs : List Char) : String × String :=
  let (name, value) := splitAtFirst '=' cs
  (decodeText name, decodeText (value.getD []))

def decode (s : String) : List (String × String) :=
  ((splitAtEach '&' s.toList).filter (!·.isEmpty)).map decodePair

/-- The first of `names` that comes a second time. -/
def repeated (names seen : List String) : List (String × String) → Option String
  | [] => none
  | (name, _) :: rest =>
      if names.contains name then
        if seen.contains name then some name else repeated names (name :: seen) rest
      else repeated names seen rest

end Dues.Text.FormEncoding
