import Dues.Text.Number
import Dues.Text.CodePoints
import Dues.Text.Split

/-! # Network addresses

Addresses of hosts in both versions of the protocol, and of a service: host and port. Every address
has many spellings; the one written here leaves out the longest run of zero groups.
-/

namespace Dues.Address

open Dues.Text (isHexDigit natOfHex splitAtEach splitAtFirst splitAtLast readNat? natOfDigits
  digitsOfNat joinWith)

structure IPv4 where
  first : Nat
  second : Nat
  third : Nat
  fourth : Nat
  deriving Repr, DecidableEq

namespace IPv4

/-- An octet has no leading zero. -/
def readOctet? (cs : List Char) : Option Nat :=
  match cs with
  | '0' :: _ :: _ => none
  | _ => (readNat? cs).filter (· ≤ 255)

def read? (cs : List Char) : Option IPv4 := do
  match ← (splitAtEach '.' cs).mapM readOctet? with
  | [first, second, third, fourth] => some ⟨first, second, third, fourth⟩
  | _ => none

def text (a : IPv4) : List Char :=
  joinWith ['.'] ([a.first, a.second, a.third, a.fourth].map digitsOfNat)

end IPv4

/-- Eight groups of 16 bits. -/
structure IPv6 where
  groups : List Nat
  length_eq : groups.length = 8
  deriving DecidableEq

namespace IPv6

def ofGroups? (groups : List Nat) : Option IPv6 :=
  if h : groups.length = 8 then some ⟨groups, h⟩ else none

def readGroup? (cs : List Char) : Option Nat :=
  if !cs.isEmpty && cs.length ≤ 4 && cs.all isHexDigit then some (natOfHex cs) else none

/-- The groups of a piece without a gap; the last word may be an address of the older version. -/
def readGroups? : List (List Char) → Option (List Nat)
  | [] => some []
  | [word] =>
      match readGroup? word with
      | some g => some [g]
      | none =>
          match IPv4.read? word with
          | some ⟨a, b, c, d⟩ => some [256 * a + b, 256 * c + d]
          | none => none
  | word :: words => do
      let g ← readGroup? word
      let gs ← readGroups? words
      return g :: gs

/-- The groups on one side of the gap, of which there may be none. -/
def readSide? (cs : List Char) : Option (List Nat) :=
  if cs.isEmpty then some [] else readGroups? (splitAtEach ':' cs)

/-- The two sides of the first `::`. -/
def splitAtGap : List Char → Option (List Char × List Char)
  | [] => none
  | ':' :: ':' :: rest => some ([], rest)
  | c :: rest => (splitAtGap rest).map fun (before, after) => (c :: before, after)

/-- A gap stands for at least one group. An address of the older version may only come last. -/
def read? (cs : List Char) : Option IPv6 :=
  match splitAtGap cs with
  | none =>
      (readGroups? (splitAtEach ':' cs)).bind ofGroups?
  | some (before, after) => do
      if before.contains '.' then none
      else
        let front ← readSide? before
        let back ← readSide? after
        if front.length + back.length ≤ 7 then
          ofGroups? (front ++ List.replicate (8 - front.length - back.length) 0 ++ back)
        else none

/-- The length of the run of zeros at the start. -/
def zeros (gs : List Nat) : Nat := (gs.takeWhile (· == 0)).length

/-- Position and length of the first of the longest runs of zeros. -/
def longestRun : Nat → List Nat → Nat × Nat
  | _, [] => (0, 0)
  | i, g :: gs =>
      let later := longestRun (i + 1) gs
      if later.2 ≤ zeros (g :: gs) then (i, zeros (g :: gs)) else later

def groupText (g : Nat) : List Char := Nat.toDigits 16 g

def groupsText (gs : List Nat) : List Char := joinWith [':'] (gs.map groupText)

def text (a : IPv6) : List Char :=
  match a.groups with
  | [0, 0, 0, 0, 0, 0xFFFF, g, h] =>
      "::ffff:".toList ++ IPv4.text ⟨g / 256, g % 256, h / 256, h % 256⟩
  | gs =>
      let (start, length) := longestRun 0 gs
      if length < 2 then groupsText gs
      else groupsText (gs.take start) ++ "::".toList ++ groupsText (gs.drop (start + length))

end IPv6

/-- Where a service listens. A host of the newer version may name one of its zones by number. -/
inductive Endpoint
  | v4 (host : IPv4) (port : Nat)
  | v6 (host : IPv6) (zone : Nat) (port : Nat)

namespace Endpoint

def readPort? (cs : List Char) : Option Nat := (readNat? cs).filter (· < 65536)

def readZone? : Option (List Char) → Option Nat
  | none => some 0
  | some cs => (readNat? cs).filter (· < Nat.pow 2 32)

def read? (cs : List Char) : Option Endpoint := do
  let (host, port) ← splitAtLast ':' cs
  let port ← readPort? port
  match host with
  | '[' :: rest =>
      match splitAtLast ']' rest with
      | some (inner, []) =>
          let (address, zone) := splitAtFirst '%' inner
          let zone ← readZone? zone
          let address ← IPv6.read? address
          return .v6 address zone port
      | _ => none
  | _ =>
      let address ← IPv4.read? host
      return .v4 address port

def text : Endpoint → String
  | .v4 host port => String.ofList (host.text ++ ':' :: digitsOfNat port)
  | .v6 host zone port =>
      let zone := if zone = 0 then [] else '%' :: digitsOfNat zone
      String.ofList ('[' :: host.text ++ zone ++ ']' :: ':' :: digitsOfNat port)

end Endpoint

def isIPAddress (cs : List Char) : Bool := (IPv4.read? cs).isSome || (IPv6.read? cs).isSome

end Dues.Address
