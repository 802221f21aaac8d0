/-! # ASCII case

The store and the address checks fold the letters A to Z only: every other character must match
exactly.
-/

namespace Dues.Text

/-- The text with its ASCII capitals made small. -/
def foldAscii (s : String) : String := String.ofList (s.toList.map Char.toLower)

def sameIgnoringCase (a b : String) : Bool := foldAscii a == foldAscii b

end Dues.Text
