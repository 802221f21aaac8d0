import Dues.Text.Split
import Dues.Text.Blank

/-! # Code points

Standards publish properties of characters as long lists. Here they are written as one text of
hexadecimal words, and the readers below turn that text into a set or a table that can be searched.
A word is `41` or a range `41-5A`.
-/

namespace Dues.Text

def hexDigitValue (c : Char) : Nat :=
  if c.isDigit then c.toNat - '0'.toNat
  else if 'a' ≤ c && c ≤ 'f' then c.toNat - 'a'.toNat + 10
  else c.toNat - 'A'.toNat + 10

def isHexDigit (c : Char) : Bool :=
  c.isDigit || ('a' ≤ c && c ≤ 'f') || ('A' ≤ c && c ≤ 'F')

def natOfHex (cs : List Char) : Nat := cs.foldl (fun n c => 16 * n + hexDigitValue c) 0

/-- A set of characters as the ranges of their code points. -/
structure CodePointSet where
  ranges : List (Nat × Nat)

namespace CodePointSet

def readRange (word : List Char) : Nat × Nat :=
  match splitAtFirst '-' word with
  | (first, none) => (natOfHex first, natOfHex first)
  | (first, some last) => (natOfHex first, natOfHex last)

def ofText (text : String) : CodePointSet := ⟨(words text.toList).map readRange⟩

def contains (set : CodePointSet) (c : Char) : Bool :=
  set.ranges.any fun r => r.1 ≤ c.toNat && c.toNat ≤ r.2

end CodePointSet

/-- A run of characters, each `step` after the one before, that all move by `shift`. -/
structure ShiftRun where
  first : Nat
  last : Nat
  step : Nat
  shift : Int

/-- A table from characters to texts: runs that move together, and single entries. -/
structure CodePointTable where
  runs : List ShiftRun
  entries : List (Nat × List Char)

namespace CodePointTable

def readShift : List Char → Int
  | '-' :: cs => -(natOfHex cs : Int)
  | cs => natOfHex cs

def readRun (word : List Char) : ShiftRun :=
  match splitAtEach ',' word with
  | [range, step, shift] =>
      let (first, last) := CodePointSet.readRange range
      ⟨first, last, natOfHex step, readShift shift⟩
  | _ => ⟨1, 0, 1, 0⟩

def readEntry (word : List Char) : Nat × List Char :=
  match splitAtFirst '=' word with
  | (key, none) => (natOfHex key, [])
  | (key, some value) =>
      (natOfHex key, (splitAtEach '.' value).map fun w => Char.ofNat (natOfHex w))

/-- Runs are written `41-5A,1,20`, entries `DF=73.73`. -/
def ofText (runs entries : String) : CodePointTable where
  runs := (words runs.toList).map readRun
  entries := (words entries.toList).map readEntry

def find? (table : CodePointTable) (c : Char) : Option (List Char) :=
  let n := c.toNat
  match table.runs.find? fun r => r.first ≤ n && n ≤ r.last && (n - r.first) % r.step == 0 with
  | some r => some [Char.ofNat (n + r.shift).toNat]
  | none => (table.entries.find? fun e => e.1 == n).map (·.2)

end CodePointTable

end Dues.Text
