import Dues.Settings.Literal

/-! # TOML

The settings file. Its lines say what each table holds; a table may be spread over several places as
long as nothing is said twice.
-/

namespace Dues.Settings.Toml

open Literal (isPrintable readBasic readVerbatim readEscape readWord?)

/-- How a table came to be. -/
inductive Origin where
  /-- By a header of its own. -/
  | declared
  /-- Named on the way in the header of another table. -/
  | implied
  /-- Named on the way in the key of a value. -/
  | dotted
  deriving DecidableEq

/-- What a key stands for while the file is read. -/
inductive Node where
  | value (v : Value)
  | table (origin : Origin) (entries : List (String × Node))
  /-- Tables under one key, of which the last one is being filled. -/
  | tables (items : List (List (String × Node)))

abbrev Entries : Type := List (String × Node)

mutual
def Node.toValue : Node → Value
  | .value v => v
  | .table _ entries => .table (entryValues entries)
  | .tables items => .array (tableValues items)

def entryValues : List (String × Node) → List (String × Value)
  | [] => []
  | (key, node) :: rest => (key, node.toValue) :: entryValues rest

def tableValues : List (List (String × Node)) → List Value
  | [] => []
  | entries :: rest => .table (entryValues entries) :: tableValues rest
end

def replace (key : String) (node : Node) (entries : Entries) : Entries :=
  entries.map fun e => if e.1 == key then (key, node) else e

/-- Changes the table under a path, which is made where it is missing. A dotted path does not lead
into tables that have headers, and ends in a table made by dotted paths. -/
def within (byKey : Bool) (change : Entries → Option Entries) :
    List String → Entries → Option Entries
  | [], entries => change entries
  | key :: path, entries =>
      match entries.lookup key with
      | none => do
          let inner ← within byKey change path []
          return entries ++ [(key, .table (if byKey then .dotted else .implied) inner)]
      | some (.table origin inner) =>
          if byKey && (origin = .declared || (path.isEmpty && origin ≠ .dotted)) then none
          else do
            let inner ← within byKey change path inner
            return replace key (.table origin inner) entries
      | some (.tables items) =>
          if byKey then none
          else do
            let inner ← within byKey change path (items.getLast?.getD [])
            return replace key (.tables (items.dropLast ++ [inner])) entries
      | some (.value _) => none

def addValue (key : String) (value : Value) (entries : Entries) : Option Entries :=
  if entries.any (fun e => e.1 == key) then none else some (entries ++ [(key, .value value)])

/-- A header may come once, and after headers that imply it. -/
def declareTable (key : String) (entries : Entries) : Option Entries :=
  match entries.lookup key with
  | none => some (entries ++ [(key, .table .declared [])])
  | some (.table .implied inner) => some (replace key (.table .declared inner) entries)
  | some _ => none

def declareItem (key : String) (entries : Entries) : Option Entries :=
  match entries.lookup key with
  | none => some (entries ++ [(key, .tables [[]])])
  | some (.tables items) => some (replace key (.tables (items ++ [[]])) entries)
  | some _ => none

/-- Applies `change` to the last key of a path within the tables that lead to it. -/
def atPath (byKey : Bool) (change : String → Entries → Option Entries) (path : List String)
    (entries : Entries) : Option Entries :=
  match path.getLast? with
  | none => none
  | some key => within byKey (change key) path.dropLast entries

def isBlank (c : Char) : Bool := c = ' ' || c = '\t'

def skipBlanks (cs : List Char) : List Char := cs.dropWhile isBlank

/-- What is left after a comment, from the end of the line on. -/
def skipComment : List Char → Option (List Char)
  | [] => some []
  | '\n' :: rest => some ('\n' :: rest)
  | '\r' :: '\n' :: rest => some ('\n' :: rest)
  | c :: rest => if isPrintable c then skipComment rest else none

/-- Skips blanks, ends of lines and comments. -/
def skipGap : (fuel : Nat) → List Char → Option (List Char)
  | 0, cs => some cs
  | fuel + 1, cs =>
      match skipBlanks cs with
      | '\n' :: rest => skipGap fuel rest
      | '\r' :: '\n' :: rest => skipGap fuel rest
      | '#' :: rest => (skipComment rest).bind (skipGap fuel)
      | rest => some rest

/-- The rest of a line that says nothing more. -/
def endLine (cs : List Char) : Option (List Char) :=
  match skipBlanks cs with
  | [] => some []
  | '\n' :: rest => some rest
  | '\r' :: '\n' :: rest => some rest
  | '#' :: rest => (skipComment rest).map (·.drop 1)
  | _ => none

def isBareKey (c : Char) : Bool := c.isAlphanum || c = '_' || c = '-'

def readKey (cs : List Char) : Option (String × List Char) :=
  match cs with
  | '"' :: rest =>
      (readBasic (rest.length + 1) rest).map fun (key, rest) => (String.ofList key, rest)
  | '\'' :: rest => (readVerbatim rest).map fun (key, rest) => (String.ofList key, rest)
  | _ =>
      let key := cs.takeWhile isBareKey
      if key.isEmpty then none else some (String.ofList key, cs.drop key.length)

/-- How many brackets may be open in a value, and how many keys a path may have. -/
def depthLimit : Nat := 79

/-- At most `room` keys divided by points. -/
def readKeys : (room : Nat) → List Char → Option (List String × List Char)
  | 0, _ => none
  | room + 1, cs => do
      let (key, rest) ← readKey (skipBlanks cs)
      match skipBlanks rest with
      | '.' :: rest =>
          let (path, rest) ← readKeys room rest
          return (key :: path, rest)
      | rest => return ([key], rest)

def readPath (cs : List Char) : Option (List String × List Char) := readKeys depthLimit cs

/-- A line that ends in a backslash goes on at the next character that is not blank. -/
def skipFold : List Char → List Char
  | '\r' :: '\n' :: rest => skipFold rest
  | c :: rest => if isBlank c || c = '\n' then skipFold rest else c :: rest
  | [] => []

/-- Whether only blanks come before the end of the line. -/
def foldsHere (cs : List Char) : Bool :=
  match skipBlanks cs with
  | '\n' :: _ => true
  | '\r' :: '\n' :: _ => true
  | _ => false

/-- A text of several lines up to three quotation marks `mark`; one or two more belong to it. -/
def readLines (mark : Char) (escapes : Bool) : (fuel : Nat) → List Char →
    Option (List Char × List Char)
  | 0, _ => none
  | _, [] => none
  | fuel + 1, c :: rest =>
      if c = mark ∧ rest.take 2 = [mark, mark] then
        let more := ((rest.drop 2).take 2).takeWhile (· = mark)
        some (more, rest.drop (2 + more.length))
      else if c = '\\' ∧ escapes then
        if foldsHere rest then readLines mark escapes fuel (skipFold rest)
        else do
          let (d, rest) ← readEscape rest
          let (ds, rest) ← readLines mark escapes fuel rest
          return (d :: ds, rest)
      else if c = '\r' ∧ rest.head? = some '\n' then readLines mark escapes fuel rest
      else if isPrintable c ∨ c = '\n' then
        (readLines mark escapes fuel rest).map fun (ds, rest) => (c :: ds, rest)
      else none

/-- The end of a line right after the marks is no part of the text. -/
def dropFirstLineEnd : List Char → List Char
  | '\n' :: rest => rest
  | '\r' :: '\n' :: rest => rest
  | cs => cs

def isWordChar (c : Char) : Bool :=
  c.isAlphanum || c = '_' || c = '+' || c = '-' || c = '.' || c = ':'

/-- A word; a date and the time that follows it after a blank are one. -/
def splitWord (cs : List Char) : List Char × List Char :=
  let word := cs.takeWhile isWordChar
  let rest := cs.drop word.length
  match rest with
  | ' ' :: a :: b :: ':' :: _ =>
      if Literal.isDate word && a.isDigit && b.isDigit then
        let time := (rest.drop 1).takeWhile isWordChar
        (word ++ ' ' :: time, rest.drop (1 + time.length))
      else (word, rest)
  | _ => (word, rest)

def textValue (result : Option (List Char × List Char)) : Option (Value × List Char) :=
  result.map fun (cs, rest) => (.text (String.ofList cs), rest)

mutual
/--
A value at the start of the text, in which `room` more brackets may be opened. Each step of `fuel`
reads at least one character.
-/
def readValue : (room fuel : Nat) → List Char → Option (Value × List Char)
  | _, 0, _ => none
  | room, fuel + 1, cs =>
      match cs with
      | '"' :: '"' :: '"' :: rest => textValue (readLines '"' true fuel (dropFirstLineEnd rest))
      | '\'' :: '\'' :: '\'' :: rest =>
          textValue (readLines '\'' false fuel (dropFirstLineEnd rest))
      | '"' :: rest => textValue (readBasic fuel rest)
      | '\'' :: rest => textValue (readVerbatim rest)
      | '[' :: rest =>
          match room with
          | 0 => none
          | room + 1 => (readItems room fuel rest).map fun (items, rest) => (.array items, rest)
      | '\x7b' :: rest =>
          match room with
          | 0 => none
          | room + 1 =>
              match skipBlanks rest with
              | '\x7d' :: rest => some (.table [], rest)
              | rest => do
                  let (entries, rest) ← readInline room fuel [] rest
                  return (.table (entryValues entries), rest)
      | _ =>
          let (word, rest) := splitWord cs
          (readWord? word).map (·, rest)

/-- The items of an array; a comma may follow the last one. -/
def readItems : (room fuel : Nat) → List Char → Option (List Value × List Char)
  | _, 0, _ => none
  | room, fuel + 1, cs => do
      match ← skipGap fuel cs with
      | ']' :: rest => return ([], rest)
      | cs =>
          let (item, rest) ← readValue room fuel cs
          match ← skipGap fuel rest with
          | ',' :: rest =>
              let (items, rest) ← readItems room fuel rest
              return (item :: items, rest)
          | ']' :: rest => return ([item], rest)
          | _ => none

/-- The entries of a table on one line. -/
def readInline : (room fuel : Nat) → Entries → List Char → Option (Entries × List Char)
  | _, 0, _, _ => none
  | room, fuel + 1, entries, cs => do
      let (path, rest) ← readPath cs
      match skipBlanks rest with
      | '=' :: rest =>
          let (value, rest) ← readValue room fuel (skipBlanks rest)
          let entries ← atPath true (fun key => addValue key value) path entries
          match skipBlanks rest with
          | ',' :: rest => readInline room fuel entries rest
          | '\x7d' :: rest => return (entries, rest)
          | _ => none
      | _ => none
end

/-- The file as read so far, and the table that the next line is about. -/
structure Document where
  entries : Entries := []
  current : List String := []

/-- What follows the brackets that close a header. -/
def closeHeader (brackets cs : List Char) : Option (List Char) :=
  (Text.dropStart? brackets (skipBlanks cs)).bind endLine

/-- Reads line by line. Each step of `fuel` reads at least one character. -/
def readDocument : (fuel : Nat) → Document → List Char → Option Document
  | 0, doc, cs => if cs.isEmpty then some doc else none
  | fuel + 1, doc, cs =>
      match skipBlanks cs with
      | [] => some doc
      | '\n' :: rest => readDocument fuel doc rest
      | '\r' :: '\n' :: rest => readDocument fuel doc rest
      | '#' :: rest => do readDocument fuel doc (← endLine ('#' :: rest))
      | '[' :: '[' :: rest => do
          let (path, rest) ← readPath rest
          let entries ← atPath false declareItem path doc.entries
          readDocument fuel ⟨entries, path⟩ (← closeHeader [']', ']'] rest)
      | '[' :: rest => do
          let (path, rest) ← readPath rest
          let entries ← atPath false declareTable path doc.entries
          readDocument fuel ⟨entries, path⟩ (← closeHeader [']'] rest)
      | cs => do
          let (path, rest) ← readPath cs
          match skipBlanks rest with
          | '=' :: rest =>
              let (value, rest) ← readValue depthLimit fuel (skipBlanks rest)
              let add := atPath true (fun key => addValue key value) path
              let entries ← within false add doc.current doc.entries
              readDocument fuel { doc with entries } (← endLine rest)
          | _ => none

/-- The table that a file describes, none if it is not written properly. -/
def read? (file : String) : Option Value :=
  let cs := match file.toList with
    | '\uFEFF' :: rest => rest
    | cs => cs
  (readDocument (cs.length + 1) {} cs).map fun doc => .table (entryValues doc.entries)

end Dues.Settings.Toml
