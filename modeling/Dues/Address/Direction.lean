import Dues.Address.Direction.Table

/-! # Writing directions

Labels of a host name that mixes writing directions must be readable without ambiguity: each runs
in one direction, starts with a letter of it and ends in one of its letters or a number.
-/

namespace Dues.Address.Direction

open Dues.Text (CodePointSet)

inductive Class
  | leftToRight
  | rightToLeft
  | arabicLetter
  | arabicNumber
  | europeanNumber
  | europeanSeparator
  | commonSeparator
  | europeanTerminator
  | nonspacingMark
  | boundaryNeutral
  | otherNeutral
  | separator
  deriving DecidableEq

def classes : List (CodePointSet × Class) :=
  [(rightToLeft, .rightToLeft), (arabicLetter, .arabicLetter), (arabicNumber, .arabicNumber),
    (europeanNumber, .europeanNumber), (europeanSeparator, .europeanSeparator),
    (commonSeparator, .commonSeparator), (europeanTerminator, .europeanTerminator),
    (nonspacingMark, .nonspacingMark), (boundaryNeutral, .boundaryNeutral),
    (otherNeutral, .otherNeutral), (separator, .separator)]

def classOf (c : Char) : Class :=
  match classes.find? fun e => e.1.contains c with
  | some e => e.2
  | none => .leftToRight

/-- A label that makes the whole name subject to the rule. -/
def runsRightToLeft (label : List Char) : Bool :=
  label.any fun c => [Class.rightToLeft, .arabicLetter, .arabicNumber].contains (classOf c)

/-- Classes that labels of either direction may hold. -/
def neutral : List Class :=
  [.europeanNumber, .europeanSeparator, .commonSeparator, .europeanTerminator, .otherNeutral,
    .boundaryNeutral, .nonspacingMark]

/-- The class at the end, marks aside. -/
def lastClass (cs : List Class) : Option Class :=
  (cs.reverse.dropWhile (· == .nonspacingMark)).head?

def leftToRightOk (cs : List Class) : Bool :=
  cs.all (fun k => k == .leftToRight || neutral.contains k) &&
    match lastClass cs with
    | none => true
    | some k => k == .leftToRight || k == .europeanNumber

def rightToLeftOk (cs : List Class) : Bool :=
  cs.all (fun k => [Class.rightToLeft, .arabicLetter, .arabicNumber].contains k ||
    neutral.contains k) &&
  (match lastClass cs with
    | none => false
    | some k =>
        [Class.rightToLeft, .arabicLetter, .europeanNumber, .arabicNumber].contains k) &&
  !(cs.contains .europeanNumber && cs.contains .arabicNumber)

/-- The rule for one label of a name in which some label runs from right to left. -/
def labelOk (label : List Char) : Bool :=
  let cs := label.map classOf
  match cs with
  | [] => true
  | .leftToRight :: _ => leftToRightOk cs
  | .rightToLeft :: _ => rightToLeftOk cs
  | .arabicLetter :: _ => rightToLeftOk cs
  | _ => false

end Dues.Address.Direction
