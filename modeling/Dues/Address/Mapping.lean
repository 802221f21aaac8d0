import Dues.Address.Mapping.Table
import Dues.Address.Composition

/-! # Canonical host names

Capitals, wide letters and other variants of a character become the one that registered names use.
-/

namespace Dues.Address.Mapping

/-- Characters that need no look at the tables. -/
def isBasic (c : Char) : Bool := c = '.' || c = '-' || c.isLower || c.isDigit

/-- What one character becomes, none if no name may hold it. -/
def mapChar (c : Char) : Option (List Char) :=
  if isBasic c then some [c]
  else if valid.contains c then some [c]
  else if ignored.contains c then some []
  else mapped.find? c

/-- The canonical form of a name, none if a character of it is not allowed. -/
def canonical (cs : List Char) : Option (List Char) :=
  (cs.mapM mapChar).map fun pieces => Composition.compose pieces.flatten

/-- A label that needs no further mapping. -/
def isCanonicalLabel (label : List Char) : Bool :=
  match label with
  | [] => true
  | c :: _ => !Composition.combining.contains c && label.all fun c => isBasic c || valid.contains c

end Dues.Address.Mapping
