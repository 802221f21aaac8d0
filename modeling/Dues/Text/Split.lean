/-! # Splitting

A text cut at every occurrence of one character, and joined again with a text between the pieces.
-/

namespace Dues.Text

/-- The pieces between the occurrences of `sep`: always one more than there are occurrences. -/
def splitAtEach (sep : Char) : List Char → List (List Char)
  | [] => [[]]
  | c :: rest =>
      if c = sep then [] :: splitAtEach sep rest
      else
        match splitAtEach sep rest with
        | [] => [[c]]
        | piece :: pieces => (c :: piece) :: pieces

/-- The part before the first occurrence of `sep` and the part after it, if there is one. -/
def splitAtFirst (sep : Char) : List Char → List Char × Option (List Char)
  | [] => ([], none)
  | c :: rest =>
      if c = sep then ([], some rest)
      else
        let (before, after) := splitAtFirst sep rest
        (c :: before, after)

/-- The part before the last occurrence of `sep` and the part after it, if there is one. -/
def splitAtLast (sep : Char) (cs : List Char) : Option (List Char × List Char) :=
  match splitAtFirst sep cs.reverse with
  | (after, some before) => some (before.reverse, after.reverse)
  | (_, none) => none

/-- What is left of `cs` after `start`, if `cs` begins with it. -/
def dropStart? : List Char → List Char → Option (List Char)
  | [], cs => some cs
  | _ :: _, [] => none
  | a :: start, c :: cs => if a = c then dropStart? start cs else none

def joinWith (sep : List Char) (pieces : List (List Char)) : List Char :=
  (pieces.intersperse sep).flatten

end Dues.Text
