import Dues.Address.HostName
import Dues.Address.Network

/-! # Email addresses

An address is a local part, an at sign and a domain. The domain is a host name of any script or, in
brackets, a network address.
-/

namespace Dues.Address.Email

open Dues.Text (splitAtEach splitAtLast)

/-- A letter or digit, case aside. The long s and the Kelvin sign fold to ASCII letters. -/
def isLabelEnd (c : Char) : Bool := c.isAlphanum || c = '\u017F' || c = '\u212A'

def isLocal (c : Char) : Bool :=
  isLabelEnd c || ".!#$%&'*+/=?^_`\x7b|\x7d~-".toList.contains c

def isLabel (label : List Char) : Bool :=
  match label with
  | [] => false
  | c :: rest =>
      label.length ≤ 63 && isLabelEnd c && isLabelEnd (rest.getLast?.getD c) &&
        rest.all fun d => isLabelEnd d || d = '-'

def isDomain (cs : List Char) : Bool := (splitAtEach '.' cs).all isLabel

/-- Characters that may stand between the brackets, before it is known what they spell. -/
def isLiteral (c : Char) : Bool :=
  isLabelEnd c || "[\\]^_`:.".toList.contains c

/-- What stands between the first bracket from which on all could be an address, and the bracket
that ends the text. -/
def literal? : List Char → Option (List Char)
  | [] => none
  | c :: rest =>
      match (if c = '[' && rest.getLast? = some ']' then some rest.dropLast else none) with
      | some inner => if !inner.isEmpty && inner.all isLiteral then some inner else literal? rest
      | none => literal? rest

def isDomainOrLiteral (cs : List Char) : Bool :=
  isDomain cs ||
    match literal? cs with
    | some inner => isIPAddress inner
    | none => false

def isValidChars (cs : List Char) : Bool :=
  match splitAtLast '@' cs with
  | none => false
  | some (user, domain) =>
      user.length ≤ 64 && domain.length ≤ 255 && !user.isEmpty && user.all isLocal &&
        (isDomainOrLiteral domain ||
          match HostName.toAscii domain with
          | some ascii => isDomainOrLiteral ascii
          | none => false)

def isValid (s : String) : Bool := isValidChars s.toList

end Dues.Address.Email
