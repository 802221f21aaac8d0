import Dues.Settings.Literal
import Dues.Text.Blank
import Dues.Text.Fold

/-! # The environment

Settings may also come from environment variables. Their texts are read as values as far as that is
possible; a text that is no value as a whole stands for itself.
-/

namespace Dues.Settings.Environment

open Dues.Text (splitAtEach trimChars)

/-- ASCII blanks. -/
def isSpace (c : Char) : Bool :=
  c = ' ' || c = '\t' || c = '\n' || c = '\x0c' || c = '\r'

def skipSpace (cs : List Char) : List Char := cs.dropWhile isSpace

/-- Characters that end a word. -/
def isSeparator (c : Char) : Bool :=
  c = ',' || c = '\x7b' || c = '\x7d' || c = '[' || c = ']'

def isKeyChar (c : Char) : Bool := c.isAlphanum || c = '_' || c = '-'

/-- Digits before and after a point, at least one of them, and an exponent. -/
def readFloat? (cs : List Char) : Option Value := do
  let (negative, cs) := Literal.splitSign cs
  let (number, exponent) := Literal.splitExponent cs
  let (whole, fraction) := Text.splitAtFirst '.' number
  let fraction := fraction.getD []
  let exponent ← match exponent with
    | none => some 0
    | some cs => Text.readInt? cs
  if (whole ++ fraction).all Char.isDigit && !(whole ++ fraction).isEmpty then
    some (Value.ofDigits negative whole fraction exponent)
  else none

def readInteger? (cs : List Char) : Option Value :=
  (Text.readInt? cs).bind fun n =>
    if Text.fitsSigned 64 n || (0 ≤ n && n < Nat.pow 2 64) then some (.integer n) else none

/-- A number, or the word itself. Numbers with a point are floats. -/
def ofWord (word : List Char) : Value :=
  let float := if word.contains '.' then readFloat? word else none
  (float <|> readInteger? word).getD (.text (String.ofList word))

/-- A word that may stand before anything but separators. -/
def readWord (cs : List Char) : Value × List Char :=
  let word := cs.takeWhile (!isSeparator ·)
  (ofWord (trimChars word), cs.drop word.length)

def readKey (cs : List Char) : Option (String × List Char) :=
  match cs with
  | '"' :: rest =>
      (Literal.readBasic (rest.length + 1) rest).map fun (key, rest) => (String.ofList key, rest)
  | _ =>
      let key := cs.takeWhile isKeyChar
      if key.isEmpty then none else some (String.ofList key, cs.drop key.length)

mutual
/-- A value at the start of the text, with the blanks after it. -/
def readValue : (fuel : Nat) → List Char → Option (Value × List Char)
  | 0, _ => none
  | fuel + 1, cs => do
      let (value, rest) ← match skipSpace cs with
        | 't' :: 'r' :: 'u' :: 'e' :: rest => some (.bool true, rest)
        | 'f' :: 'a' :: 'l' :: 's' :: 'e' :: rest => some (.bool false, rest)
        | '\x7b' :: rest =>
            match skipSpace rest with
            | '\x7d' :: rest => some (.table [], rest)
            | rest => (readEntries fuel rest).map fun (entries, rest) => (.table entries, rest)
        | '[' :: rest =>
            match skipSpace rest with
            | ']' :: rest => some (.array [], rest)
            | rest => (readItems fuel rest).map fun (items, rest) => (.array items, rest)
        | '"' :: rest =>
            (Literal.readBasic (rest.length + 1) rest).map fun (text, rest) =>
              (.text (String.ofList text), rest)
        | '\'' :: c :: '\'' :: rest => some (.text (String.ofList [c]), rest)
        | '\'' :: _ => none
        | rest => some (readWord rest)
      return (value, skipSpace rest)

def readItems : (fuel : Nat) → List Char → Option (List Value × List Char)
  | 0, _ => none
  | fuel + 1, cs => do
      let (item, rest) ← readValue fuel cs
      match rest with
      | ']' :: rest => return ([item], rest)
      | ',' :: rest =>
          match skipSpace rest with
          | ']' :: rest => return ([item], rest)
          | rest =>
              let (items, rest) ← readItems fuel rest
              return (item :: items, rest)
      | _ => none

def readEntries : (fuel : Nat) → List Char → Option (List (String × Value) × List Char)
  | 0, _ => none
  | fuel + 1, cs => do
      let (key, rest) ← readKey (skipSpace cs)
      match skipSpace rest with
      | '=' :: rest =>
          let (value, rest) ← readValue fuel rest
          match rest with
          | '\x7d' :: rest => return ([(key, value)], rest)
          | ',' :: rest =>
              match skipSpace rest with
              | '\x7d' :: rest => return ([(key, value)], rest)
              | rest =>
                  let (entries, rest) ← readEntries fuel rest
                  return ((key, value) :: entries, rest)
          | _ => none
      | _ => none
end

/-- The value of a variable. -/
def readText (s : String) : Value :=
  let cs := trimChars s.toList
  match readValue (2 * cs.length + 2) cs with
  | some (value, []) => value
  | _ => .text (String.ofList cs)

/-- Two underscores divide the parts of a name, as points do. -/
def pointsForUnderscores : List Char → List Char
  | '_' :: '_' :: rest => '.' :: pointsForUnderscores rest
  | c :: rest => c :: pointsForUnderscores rest
  | [] => []

/-- The path that a variable's name stands for, none if a part of it is empty. -/
def path (divided : Bool) (name : String) : Option (List String) :=
  let cs := trimChars name.toList
  let parts := splitAtEach '.' (if divided then pointsForUnderscores cs else cs)
  if parts.any List.isEmpty then none
  else some (parts.map fun part => Text.foldAscii (String.ofList part))

/-- Joining goes as deep as the longest names have parts. -/
def depth (vars : List (String × String)) : Nat :=
  vars.foldl (fun n v => max n v.1.length) 0 + 1

/-- The table that a list of variables stands for. -/
def table (divided : Bool) (vars : List (String × String)) : Value :=
  vars.foldl
    (fun value (name, text) =>
      match path divided name with
      | none => value
      | some path => Value.overlay (depth vars) value (Value.nest path (readText text)))
    (.table [])

end Dues.Settings.Environment
