import Dues.Text.Lowercase.Table

/-! # Lower case

Making a text small, for every script that has case. A capital sigma is the one letter whose small
form depends on its place in the word.
-/

namespace Dues.Text.Lowercase

def isCased (c : Char) : Bool := cased.contains c

def isCaseIgnorable (c : Char) : Bool := caseIgnorable.contains c

/-- Whether a letter with case comes first, looking through what case rules ignore. -/
def startsCased (cs : List Char) : Bool :=
  match cs.dropWhile isCaseIgnorable with
  | [] => false
  | c :: _ => isCased c

def smallSigma (before after : List Char) : Char :=
  if startsCased before && !startsCased after then 'ς' else 'σ'

/-- `before` is what precedes, last character first. -/
def lowerAfter (before : List Char) : List Char → List Char
  | [] => []
  | c :: rest =>
      let small :=
        if c = 'Σ' then [smallSigma before rest]
        else if c.toNat < 128 then [c.toLower]
        else (table.find? c).getD [c]
      small ++ lowerAfter (c :: before) rest

def lower (cs : List Char) : List Char := lowerAfter [] cs

end Dues.Text.Lowercase
