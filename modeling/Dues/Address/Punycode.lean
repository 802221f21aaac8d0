import Dues.Text.Split
import Dues.Text.Number

/-! # Punycode

How a label with characters beyond ASCII is spelled in ASCII: first its ASCII characters, then the
others as differences of code point and position, each written as a run of base-36 digits whose
thresholds follow from a bias that adapts as the runs go by.
-/

namespace Dues.Address.Punycode

def base : Nat := 36
def leastThreshold : Nat := 1
def greatestThreshold : Nat := 26
def initialBias : Nat := 72
def initialCodePoint : Nat := 128

/-- All running numbers fit 32 bits. -/
def limit : Nat := Nat.pow 2 32 - 1

def threshold (k bias : Nat) : Nat :=
  if k ≤ bias then leastThreshold
  else if bias + greatestThreshold ≤ k then greatestThreshold
  else k - bias

def adaptLoop (k delta : Nat) : Nat :=
  if h : (base - leastThreshold) * greatestThreshold / 2 < delta then
    adaptLoop (k + base) (delta / (base - leastThreshold))
  else k + (base - leastThreshold + 1) * delta / (delta + 38)
termination_by delta
decreasing_by simp only [base, leastThreshold, greatestThreshold] at h ⊢; omega

/-- The bias after a run that stood for `delta`, with `points` characters placed so far. -/
def adapt (delta points : Nat) (first : Bool) : Nat :=
  let delta := if first then delta / 700 else delta / 2
  adaptLoop 0 (delta + delta / points)

def digitValue? (c : Char) : Option Nat :=
  if c.isDigit then some (c.toNat - '0'.toNat + 26)
  else if c.isLower then some (c.toNat - 'a'.toNat)
  else if c.isUpper then some (c.toNat - 'A'.toNat)
  else none

def digit (n : Nat) : Char :=
  if n < 26 then Char.ofNat ('a'.toNat + n) else Char.ofNat ('0'.toNat + (n - 26))

/-- Reads one run of digits, adding its worth to `total`; the rest of the text comes back too. -/
def readRun (bias k weight total : Nat) : List Char → Option (Nat × List Char)
  | [] => none
  | c :: rest => do
      let value ← digitValue? c
      let total := total + value * weight
      if limit < total then none
      else if value < threshold k bias then some (total, rest)
      else
        let weight := weight * (base - threshold k bias)
        if limit < weight then none else readRun bias (k + base) weight total rest

def insertAt (i : Nat) (c : Char) (cs : List Char) : List Char := cs.take i ++ c :: cs.drop i

/-- Places the characters that the runs of `cs` stand for into `placed`. Each round reads at least
one character of `cs`, so its length bounds the rounds. -/
def decodeRuns : Nat → (codePoint i bias : Nat) → List Char → List Char → Option (List Char)
  | _, _, _, _, placed, [] => some placed
  | 0, _, _, _, _, _ :: _ => none
  | fuel + 1, codePoint, i, bias, placed, cs => do
      let (total, rest) ← readRun bias base 1 i cs
      let points := placed.length + 1
      let codePoint := codePoint + total / points
      if codePoint.isValidChar then
        let place := total % points
        decodeRuns fuel codePoint (place + 1) (adapt (total - i) points (i == 0))
          (insertAt place (Char.ofNat codePoint) placed) rest
      else none

/-- The label that `cs` spells. -/
def decode (cs : List Char) : Option (List Char) :=
  let (plain, runs) := match Text.splitAtLast '-' cs with
    | none => ([], cs)
    | some ([], _) => ([], cs)
    | some (plain, runs) => (plain, runs)
  if plain.all (·.toNat < 128) then
    decodeRuns runs.length initialCodePoint 0 initialBias plain runs
  else none

theorem threshold_pos (k bias : Nat) : 0 < threshold k bias := by
  unfold threshold leastThreshold greatestThreshold
  split
  · omega
  · split <;> omega

/-- The run of digits that stands for `delta`. -/
def writeRun (bias k delta : Nat) : List Char :=
  if _h : delta < threshold k bias then [digit delta]
  else
    let rest := (delta - threshold k bias) / (base - threshold k bias)
    let last := (delta - threshold k bias) % (base - threshold k bias)
    digit (threshold k bias + last) :: writeRun bias (k + base) rest
termination_by delta
decreasing_by
  have pos := threshold_pos k bias
  have le := Nat.div_le_self (delta - threshold k bias) (base - threshold k bias)
  omega

/-- What is carried along while one code point is written. -/
structure Progress where
  delta : Nat
  bias : Nat
  written : Nat
  first : Bool
  output : List Char

/-- Walks over the label and writes a run wherever `codePoint` stands. -/
def writeCodePoint (codePoint : Nat) (p : Progress) (c : Char) : Progress :=
  if c.toNat < codePoint then { p with delta := p.delta + 1 }
  else if c.toNat = codePoint then
    { delta := 0, bias := adapt p.delta (p.written + 1) p.first, written := p.written + 1,
      first := false, output := p.output ++ writeRun p.bias base p.delta }
  else p

/-- Writes the code points of the label from `codePoint` on; `fuel` bounds how many are left. -/
def encodeFrom : Nat → Nat → List Char → Progress → List Char
  | 0, _, _, p => p.output
  | fuel + 1, codePoint, label, p =>
      match (label.filterMap fun c => if codePoint ≤ c.toNat then some c.toNat else none).min? with
      | none => p.output
      | some least =>
          let p := { p with delta := p.delta + (least - codePoint) * (p.written + 1) }
          let p := label.foldl (writeCodePoint least) p
          encodeFrom fuel (least + 1) label { p with delta := p.delta + 1 }

/-- How `label` is spelled. -/
def encode (label : List Char) : List Char :=
  let plain := label.filter (·.toNat < 128)
  let start := if plain.isEmpty then [] else plain ++ ['-']
  encodeFrom label.length initialCodePoint label
    ⟨0, initialBias, plain.length, true, start⟩

end Dues.Address.Punycode
