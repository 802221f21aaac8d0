import Dues.Text.Number
import Dues.Address.Composition.Table

/-! # Composition

The composed form of a text: letters and marks are first taken apart and the marks put in order,
then each letter takes up again what it can. Two texts that look the same have one composed form.
-/

namespace Dues.Address.Composition

open Dues.Text (CodePointSet words splitAtFirst natOfDigits)

def readMarkClass (word : List Char) : (Nat × Nat) × Nat :=
  let (range, cls) := splitAtFirst '=' word
  (CodePointSet.readRange range, natOfDigits (cls.getD []))

def markClasses : List ((Nat × Nat) × Nat) :=
  (words markClassText.toList).map readMarkClass

/-- The class that orders a mark, 0 for a character that is no mark. -/
def markClass (c : Char) : Nat :=
  match markClasses.find? fun r => r.1.1 ≤ c.toNat && c.toNat ≤ r.1.2 with
  | some r => r.2
  | none => 0

/-! Syllables of Hangul are composed of letters by arithmetic. -/

def firstSyllable : Nat := 0xAC00
def firstLead : Nat := 0x1100
def firstVowel : Nat := 0x1161
def firstTail : Nat := 0x11A7
def leads : Nat := 19
def vowels : Nat := 21
def tails : Nat := 28

def syllableParts? (c : Char) : Option (List Char) :=
  let n := c.toNat - firstSyllable
  if firstSyllable ≤ c.toNat && n < leads * vowels * tails then
    let lead := Char.ofNat (firstLead + n / (vowels * tails))
    let vowel := Char.ofNat (firstVowel + n % (vowels * tails) / tails)
    if n % tails = 0 then some [lead, vowel]
    else some [lead, vowel, Char.ofNat (firstTail + n % tails)]
  else none

def syllable? (a b : Char) : Option Char :=
  let lead := a.toNat - firstLead
  let vowel := b.toNat - firstVowel
  let unclosed := a.toNat - firstSyllable
  let tail := b.toNat - firstTail
  if firstLead ≤ a.toNat && lead < leads && firstVowel ≤ b.toNat && vowel < vowels then
    some (Char.ofNat (firstSyllable + (lead * vowels + vowel) * tails))
  else if firstSyllable ≤ a.toNat && unclosed < leads * vowels * tails && unclosed % tails = 0 &&
      firstTail < b.toNat && tail < tails then
    some (Char.ofNat (a.toNat + tail))
  else none

/-- The last parts of a character; no chain of parts is longer than `depth`. -/
def takeApart : (depth : Nat) → Char → List Char
  | 0, c => [c]
  | depth + 1, c =>
      match syllableParts? c with
      | some cs => cs
      | none =>
          match parts.find? c with
          | some cs => cs.flatMap (takeApart depth)
          | none => [c]

/-- Puts `c` in front of marks that are in order already, behind those of a lower class. -/
def placeMark (c : Char) : List Char → List Char
  | [] => [c]
  | d :: ds =>
      if markClass d ≠ 0 ∧ markClass d < markClass c then d :: placeMark c ds else c :: d :: ds

def decompose (cs : List Char) : List Char :=
  (cs.flatMap (takeApart 4)).foldr placeMark []

/-- The character that two characters compose to. -/
def compose? (a b : Char) : Option Char :=
  match syllable? a b with
  | some c => some c
  | none =>
      (parts.entries.find? fun e => e.2 == [a, b] && !neverComposed.contains (Char.ofNat e.1)).map
        fun e => Char.ofNat e.1

/-- Composes what follows `letter`; `marks` are those it could not take up, the last one first. -/
def composeAfter (letter : Char) (marks : List Char) : List Char → List Char
  | [] => letter :: marks.reverse
  | c :: rest =>
      let blocked := match marks with
        | [] => false
        | mark :: _ => markClass c ≤ markClass mark
      match if blocked then none else compose? letter c with
      | some composed => composeAfter composed marks rest
      | none =>
          if markClass c = 0 then letter :: marks.reverse ++ composeAfter c [] rest
          else composeAfter letter (c :: marks) rest

/-- Marks at the start have no letter to go with. -/
def composeAll : List Char → List Char
  | [] => []
  | c :: rest => if markClass c = 0 then composeAfter c [] rest else c :: composeAll rest

/-- The composed form of a text. -/
def compose (cs : List Char) : List Char := composeAll (decompose cs)

end Dues.Address.Composition
