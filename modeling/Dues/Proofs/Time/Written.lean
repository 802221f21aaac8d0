import Dues.Proofs.Text.Number
import Dues.Time.Written

/-! # Written dates are read back

Every date of the calendar, also one before the year 0 or after the year 9999, and every moment is
what the reader makes of its written form. A number ends where the mark behind it stands, and the
year where its sign or its four digits tell.
-/

namespace Dues.Time.Written

open Dues.Text (paddedDigits natOfDigits trimStart trimChars isBlank)

variable {limit width n : Nat} {rest : List Char}

/-- No digit comes next. -/
def Stops (rest : List Char) : Prop := rest.takeWhile Char.isDigit = []

theorem stops_nil : Stops [] := rfl

theorem stops_cons {c : Char} (mark : c.isDigit = false) : Stops (c :: rest) := by
  rw [Stops, List.takeWhile_cons_of_neg (by simp [mark])]

theorem readDigits_paddedDigits (stops : Stops rest)
    (fits : (paddedDigits width n).length ≤ limit) :
    readDigits limit (paddedDigits width n ++ rest) = some (n, rest) := by
  have digits : ((paddedDigits width n ++ rest).takeWhile Char.isDigit).take limit =
      paddedDigits width n := by
    rw [List.takeWhile_append_of_pos fun c mem => Text.isDigit_of_mem_paddedDigits mem, stops,
      List.append_nil, List.take_of_length_le fits]
  have some : (paddedDigits width n).isEmpty = false :=
    List.isEmpty_eq_false_iff.mpr (Text.paddedDigits_ne_nil width n)
  unfold readDigits
  dsimp only
  rw [digits, some, Text.natOfDigits_paddedDigits, List.drop_left]
  rfl

theorem trimStart_paddedDigits (width n : Nat) (rest : List Char) :
    trimStart (paddedDigits width n ++ rest) = paddedDigits width n ++ rest := by
  cases digits : paddedDigits width n with
  | nil => exact absurd digits (Text.paddedDigits_ne_nil width n)
  | cons c cs =>
      have digit := Text.isDigit_of_mem_paddedDigits (digits ▸ List.mem_cons_self)
      exact Text.trimStart_of_head (Text.isBlank_of_isDigit digit)

theorem trimStart_blank (width n : Nat) (rest : List Char) :
    trimStart (' ' :: (paddedDigits width n ++ rest)) = paddedDigits width n ++ rest :=
  trimStart_paddedDigits width n rest

theorem readField_paddedDigits (short : n < 100) (stops : Stops rest) :
    readField (paddedDigits 2 n ++ rest) = some (n, rest) := by
  have two : (paddedDigits 2 n).length = 2 := Text.length_paddedDigits (by decide) short
  rw [readField, trimStart_paddedDigits]
  exact readDigits_paddedDigits stops (Nat.le_of_eq two)

theorem readMark_cons (c : Char) : readMark c (c :: rest) = some rest := if_pos rfl

theorem readDigits_signed (stops : Stops rest) (n : Nat) :
    readDigits (paddedDigits 4 n ++ rest).length (paddedDigits 4 n ++ rest) = some (n, rest) := by
  apply readDigits_paddedDigits stops
  rw [List.length_append]
  exact Nat.le_add_right _ _

theorem readYear_minus (cs : List Char) : readYear ('-' :: cs) =
    (readDigits cs.length cs).map fun (n, after) => (-(n : Int), after) := by
  rw [readYear, Text.trimStart_of_head (by decide)]
  rfl

theorem readYear_plus (cs : List Char) : readYear ('+' :: cs) =
    (readDigits cs.length cs).map fun (n, after) => ((n : Int), after) := by
  rw [readYear, Text.trimStart_of_head (by decide)]
  rfl

theorem readYear_digit {c : Char} {cs : List Char} (digit : c.isDigit = true) :
    readYear (c :: cs) = (readDigits 4 (c :: cs)).map fun (n, after) => ((n : Int), after) := by
  rw [readYear, Text.trimStart_of_head (Text.isBlank_of_isDigit digit)]
  split
  next minus =>
    cases minus
    cases digit
  next plus =>
    cases plus
    cases digit
  next => rfl

theorem readYear_yearChars (year : Int) (stops : Stops rest) :
    readYear (yearChars year ++ rest) = some (year, rest) := by
  unfold yearChars
  split
  next before =>
    have size : -((year.natAbs : Nat) : Int) = year := by omega
    rw [List.cons_append, readYear_minus, readDigits_signed stops]
    exact congrArg (fun y => some (y, rest)) size
  next since =>
    have size : ((year.natAbs : Nat) : Int) = year := by omega
    split
    next four =>
      have length : (paddedDigits 4 year.natAbs).length = 4 :=
        Text.length_paddedDigits (by decide) (show year.natAbs < 10000 by omega)
      have read := readDigits_paddedDigits stops (Nat.le_of_eq length)
      cases digits : paddedDigits 4 year.natAbs with
      | nil => exact absurd digits (Text.paddedDigits_ne_nil 4 year.natAbs)
      | cons c cs =>
          have digit := Text.isDigit_of_mem_paddedDigits (digits ▸ List.mem_cons_self)
          rw [digits, List.cons_append] at read
          rw [List.cons_append, readYear_digit digit, read]
          exact congrArg (fun y => some (y, rest)) size
    next =>
      rw [List.cons_append, readYear_plus, readDigits_signed stops]
      exact congrArg (fun y => some (y, rest)) size

variable (d : Date) (m : Moment)

theorem readDateFields_dateChars (stops : Stops rest) :
    readDateFields (dateChars d ++ rest) = some ((d.year, d.month, d.day), rest) := by
  have months := d.month_mem
  have month : readField (paddedDigits 2 d.month ++ '-' :: (paddedDigits 2 d.day ++ rest)) =
      some (d.month, '-' :: (paddedDigits 2 d.day ++ rest)) :=
    readField_paddedDigits (by omega) (stops_cons (by decide))
  have short : d.day < 100 := by
    have bounds := d.day_mem
    have longest : monthLength d.year d.month ≤ 31 := by
      unfold monthLength
      split <;> (try split) <;> omega
    omega
  have day := readField_paddedDigits short stops
  unfold readDateFields dateChars
  simp only [List.append_assoc, List.cons_append]
  rw [readYear_yearChars d.year (stops_cons (by decide))]
  simp only [bind, Option.bind_some, readMark_cons, month, day]
  rfl

theorem not_blank_of_mem_paddedDigits {c : Char} (mem : c ∈ paddedDigits width n) :
    isBlank c = false :=
  Text.isBlank_of_isDigit (Text.isDigit_of_mem_paddedDigits mem)

theorem not_blank_of_mem_yearChars {year : Int} {c : Char} (mem : c ∈ yearChars year) :
    isBlank c = false := by
  unfold yearChars at mem
  split at mem
  next =>
    rcases List.mem_cons.mp mem with rfl | mem
    · decide
    · exact not_blank_of_mem_paddedDigits mem
  next =>
    split at mem
    next => exact not_blank_of_mem_paddedDigits mem
    next =>
      rcases List.mem_cons.mp mem with rfl | mem
      · decide
      · exact not_blank_of_mem_paddedDigits mem

theorem not_blank_of_mem_dateChars {d : Date} {c : Char} (mem : c ∈ dateChars d) :
    isBlank c = false := by
  rcases List.mem_append.mp mem with mem | mem
  · rcases List.mem_append.mp mem with mem | mem
    · exact not_blank_of_mem_yearChars mem
    · rcases List.mem_cons.mp mem with rfl | mem
      · decide
      · exact not_blank_of_mem_paddedDigits mem
  · rcases List.mem_cons.mp mem with rfl | mem
    · decide
    · exact not_blank_of_mem_paddedDigits mem

theorem of?_date : Date.of? d.year d.month d.day = some d :=
  dif_pos ⟨d.year_mem, d.month_mem, d.day_mem⟩

theorem readDate?_date : readDate? (trimChars (date d).toList) = some d := by
  have whole : trimChars (date d).toList = dateChars d := by
    rw [date, String.toList_ofList]
    exact Text.trimChars_of_not_blank fun c => not_blank_of_mem_dateChars
  rw [whole]
  have fields := readDateFields_dateChars d stops_nil
  rw [List.append_nil] at fields
  unfold readDate?
  simp only [bind, fields, Option.bind_some]
  exact of?_date d

theorem of?_moment : Moment.of? m.date m.hour m.minute m.second = some m :=
  dif_pos ⟨m.hour_lt, m.minute_lt, m.second_le⟩

/-- The blank in a moment stands within it. -/
theorem trimChars_moment : trimChars (moment m).toList = (moment m).toList := by
  have split : ∃ middle, (moment m).toList = dateChars m.date ++ middle ++ paddedDigits 2 m.second := by
    refine ⟨' ' :: paddedDigits 2 m.hour ++ ':' :: paddedDigits 2 m.minute ++ [':'], ?_⟩
    simp [moment]
  obtain ⟨middle, split⟩ := split
  rw [split]
  apply Text.trimChars_eq_self
  · intro c first
    cases head : dateChars m.date with
    | nil => simp [dateChars] at head
    | cons c' cs =>
        rw [head] at first
        cases first
        exact not_blank_of_mem_dateChars (head ▸ List.mem_cons_self)
  · intro c last
    have kept := List.getLast?_eq_some_getLast (Text.paddedDigits_ne_nil 2 m.second)
    rw [List.getLast?_append, kept, Option.some_or] at last
    exact not_blank_of_mem_paddedDigits (List.mem_of_mem_getLast? (kept.trans last))

theorem readMoment?_moment : readMoment? (trimChars (moment m).toList) = some m := by
  rw [trimChars_moment, moment, String.toList_ofList]
  have hours := m.hour_lt
  have minutes := m.minute_lt
  have seconds := m.second_le
  have second : readField (paddedDigits 2 m.second) = some (m.second, []) := by
    have read := readField_paddedDigits (n := m.second) (by omega) stops_nil
    rwa [List.append_nil] at read
  have minute : readField (paddedDigits 2 m.minute ++ ':' :: paddedDigits 2 m.second) =
      some (m.minute, ':' :: paddedDigits 2 m.second) :=
    readField_paddedDigits (by omega) (stops_cons (by decide))
  have hour : readField (paddedDigits 2 m.hour ++
      ':' :: (paddedDigits 2 m.minute ++ ':' :: paddedDigits 2 m.second)) =
        some (m.hour, ':' :: (paddedDigits 2 m.minute ++ ':' :: paddedDigits 2 m.second)) :=
    readField_paddedDigits (by omega) (stops_cons (by decide))
  unfold readMoment?
  simp only [List.append_assoc, List.cons_append]
  rw [readDateFields_dateChars m.date (stops_cons (by decide))]
  simp only [bind, Option.bind_some, trimStart_blank, hour, minute, second, readMark_cons, of?_date]
  exact of?_moment m

end Dues.Time.Written
