import Dues.Text.Number
import Dues.Text.Split

/-! # Query templates

Queries are written once, with numbered parameters `$1`, `$2` and a marker for the function that
replaces a null, and rendered for the database that runs them.
-/

namespace Dues.Query

open Dues.Text (isDecimalDigit dropStart?)

inductive Backend where
  | postgres
  | sqlite
  | mysql
  deriving Repr, DecidableEq

/-- The function that replaces a null. -/
def Backend.coalesce : Backend → String
  | .postgres => "COALESCE"
  | .sqlite => "IFNULL"
  | .mysql => "IFNULL"

/-- How a backend writes the parameter whose number has these digits. -/
def Backend.parameter (digits : List Char) : Backend → List Char
  | .postgres => '$' :: digits
  | .sqlite => '?' :: digits
  | .mysql => ['?']

/-- Stands for the function that replaces a null. -/
def marker : List Char := ['\x7b', 'c', 'o', 'a', 'l', 'e', 's', 'c', 'e', '\x7d']

/-- The text after a marker at the start of `cs`. -/
def afterMarker? (cs : List Char) : Option (List Char) := dropStart? marker cs

theorem length_of_dropStart? {start cs rest : List Char} (h : dropStart? start cs = some rest) :
    cs.length = start.length + rest.length := by
  induction start generalizing cs with
  | nil => simp_all [dropStart?]
  | cons a start ih =>
      cases cs with
      | nil => simp [dropStart?] at h
      | cons c cs =>
          by_cases hac : a = c
          · simp only [dropStart?, hac, if_true] at h
            have := ih h
            simp only [List.length_cons]
            omega
          · simp [dropStart?, hac] at h

/-- Replaces each marker by `word`. -/
def replaceMarkers (word : List Char) (cs : List Char) : List Char :=
  match cs with
  | [] => []
  | c :: cs =>
      match _h : afterMarker? (c :: cs) with
      | some rest => word ++ replaceMarkers word rest
      | none => c :: replaceMarkers word cs
termination_by cs.length
decreasing_by
  · have shorter := length_of_dropStart? _h
    have size : marker.length = 10 := rfl
    omega
  · simp

/-- Splits off the digits at the start. -/
def splitDigits : List Char → List Char × List Char
  | [] => ([], [])
  | c :: cs =>
      if isDecimalDigit c then
        let (digits, rest) := splitDigits cs
        (c :: digits, rest)
      else ([], c :: cs)

theorem splitDigits_snd_length (cs : List Char) : (splitDigits cs).2.length ≤ cs.length := by
  induction cs with
  | nil => simp [splitDigits]
  | cons c cs ih =>
      simp only [splitDigits]
      split
      · simp only [List.length_cons]
        omega
      · simp

/-- Writes each parameter the way `backend` does. A dollar without digits is text. -/
def rewriteParameters (backend : Backend) (cs : List Char) : List Char :=
  match cs with
  | [] => []
  | c :: cs =>
      if c = '$' ∧ (splitDigits cs).1 ≠ [] then
        backend.parameter (splitDigits cs).1 ++ rewriteParameters backend (splitDigits cs).2
      else c :: rewriteParameters backend cs
termination_by cs.length
decreasing_by
  · have := splitDigits_snd_length cs
    simp only [List.length_cons]
    omega
  · simp

def renderChars (backend : Backend) (template : List Char) : List Char :=
  rewriteParameters backend (replaceMarkers backend.coalesce.toList template)

def render (backend : Backend) (template : String) : String :=
  String.ofList (renderChars backend template.toList)

end Dues.Query
