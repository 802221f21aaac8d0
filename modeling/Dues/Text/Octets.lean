/-! # Octets

Characters as the octets of UTF-8, and octets read back as characters. Reading never fails: each
maximal stretch that cannot be continued to a character is read as one replacement character. A
reader that has to be sure of the text asks with `read?`.
-/

namespace Dues.Text.Octets

/-- The octets of one character. -/
def ofChar (c : Char) : List Nat :=
  let n := c.toNat
  if n < 0x80 then [n]
  else if n < 0x800 then [0xC0 + n / 0x40, 0x80 + n % 0x40]
  else if n < 0x10000 then [0xE0 + n / 0x1000, 0x80 + n / 0x40 % 0x40, 0x80 + n % 0x40]
  else
    [0xF0 + n / 0x40000, 0x80 + n / 0x1000 % 0x40, 0x80 + n / 0x40 % 0x40, 0x80 + n % 0x40]

def ofChars (cs : List Char) : List Nat := cs.flatMap ofChar

/-- A character that is not complete yet: its bits so far, the number of octets it still needs, and
the range that the next one has to be in. -/
structure Unfinished where
  bits : Nat
  needed : Nat
  least : Nat
  greatest : Nat

inductive Lead
  | char (c : Char)
  | unfinished (u : Unfinished)
  | bad

/-- What an octet at the start of a character says. -/
def lead (b : Nat) : Lead :=
  if b < 0x80 then .char (Char.ofNat b)
  else if b < 0xC2 then .bad
  else if b < 0xE0 then .unfinished ⟨b - 0xC0, 1, 0x80, 0xBF⟩
  else if b < 0xF0 then
    .unfinished ⟨b - 0xE0, 2, if b = 0xE0 then 0xA0 else 0x80, if b = 0xED then 0x9F else 0xBF⟩
  else if b < 0xF5 then
    .unfinished ⟨b - 0xF0, 3, if b = 0xF0 then 0x90 else 0x80, if b = 0xF4 then 0x8F else 0xBF⟩
  else .bad

def replacement : Char := '\uFFFD'

/-- Reads `b` at the start of a character. -/
def begun (b : Nat) : List Char × Option Unfinished :=
  match lead b with
  | .char c => ([c], none)
  | .unfinished u => ([], some u)
  | .bad => ([replacement], none)

/-- Reads `b` after the octets behind `pending`: the characters it settles and what is left open. -/
def step (pending : Option Unfinished) (b : Nat) : List Char × Option Unfinished :=
  match pending with
  | none => begun b
  | some u =>
      if u.least ≤ b && b ≤ u.greatest then
        let bits := u.bits * 0x40 + (b - 0x80)
        if u.needed ≤ 1 then ([Char.ofNat bits], none)
        else ([], some ⟨bits, u.needed - 1, 0x80, 0xBF⟩)
      else
        let (cs, next) := begun b
        (replacement :: cs, next)

def toCharsFrom (pending : Option Unfinished) : List Nat → List Char
  | [] => if pending.isSome then [replacement] else []
  | b :: bs =>
      let (cs, next) := step pending b
      cs ++ toCharsFrom next bs

def toChars (bs : List Nat) : List Char := toCharsFrom none bs

/-- The text that octets are, none if no text has these octets. -/
def read? (bs : List Nat) : Option (List Char) :=
  let cs := toChars bs
  if ofChars cs = bs then some cs else none

end Dues.Text.Octets
