import Dues.Address.Mapping
import Dues.Address.Direction
import Dues.Address.Punycode

/-! # Host names in ASCII

The spelling under which a host name of any script is looked up. A label that is spelled in Punycode
already is read back first, so that it meets the same conditions as one that is not.
-/

namespace Dues.Address.HostName

open Dues.Text (splitAtEach joinWith dropStart?)

def punycodeMark : List Char := "xn--".toList

/-- A label as its readers see it, none if it stands for no label. -/
def readLabel (label : List Char) : Option (List Char) :=
  match dropStart? punycodeMark label with
  | none => if Mapping.isCanonicalLabel label then some label else none
  | some spelled =>
      match Punycode.decode spelled with
      | none => none
      | some decoded =>
          if Composition.compose decoded == decoded && Mapping.isCanonicalLabel decoded then
            some decoded
          else none

def writeLabel (label : List Char) : List Char :=
  if label.all (·.toNat < 128) then label else punycodeMark ++ Punycode.encode label

/-- The ASCII spelling of a name, none if it is no host name. -/
def toAscii (name : List Char) : Option (List Char) := do
  let canonical ← Mapping.canonical name
  let labels ← (splitAtEach '.' canonical).mapM readLabel
  if labels.any Direction.runsRightToLeft && !labels.all Direction.labelOk then none
  else some (joinWith ['.'] (labels.map writeLabel))

end Dues.Address.HostName
