import Dues.Text.Json

/-! # Numbers and strings in a document

How numbers and strings are written, and that the readers take exactly what is written so. A string
ends with its mark. A number ends where nothing continues it, so what comes behind it matters.
-/

namespace Dues.Text.Json

/-! ### The grammar -/

def IsDigits (cs : List Char) : Prop := cs ≠ [] ∧ ∀ c ∈ cs, c.isDigit = true

/-- Nothing but zero itself begins with zero. -/
def IsWhole (cs : List Char) : Prop := IsDigits cs ∧ (cs.head? = some '0' → cs = ['0'])

/-- One of the signs, or none. -/
def IsSign (signs sign : List Char) : Prop := sign = [] ∨ ∃ c ∈ signs, sign = [c]

inductive IsFraction : List Char → Prop
  | absent : IsFraction []
  | given {digits : List Char} (digits' : IsDigits digits) : IsFraction ('.' :: digits)

inductive IsExponent : List Char → Prop
  | absent : IsExponent []
  | given {digits : List Char} (mark : Char) (marked : isExponentMark mark = true)
      (sign : List Char) (signed : IsSign ['+', '-'] sign) (digits' : IsDigits digits) :
      IsExponent (mark :: (sign ++ digits))

inductive IsNumber : List Char → Prop
  | mk {whole fraction exponent : List Char} (sign : List Char) (signed : IsSign ['-'] sign)
      (whole' : IsWhole whole) (fraction' : IsFraction fraction)
      (exponent' : IsExponent exponent) : IsNumber (sign ++ whole ++ fraction ++ exponent)

/-- Parts as they are written between quotation marks. -/
inductive SpellsParts : List Part → List Char → Prop
  | nil : SpellsParts [] []
  | octet {parts : List Part} {cs : List Char} (c : Char) (printed : 0x20 ≤ c.toNat)
      (open' : c ≠ '"') (plain : c ≠ '\\') (rest : SpellsParts parts cs) :
      SpellsParts (.octet c.toNat :: parts) (c :: cs)
  | escape {parts : List Part} {cs : List Char} (e : Char) (unit : Nat)
      (known : simpleEscape? e = some unit) (rest : SpellsParts parts cs) :
      SpellsParts (.unit unit :: parts) ('\\' :: e :: cs)
  | unit {parts : List Part} {cs : List Char} (a b c d : Char)
      (hex : [a, b, c, d].all isHexDigit = true) (rest : SpellsParts parts cs) :
      SpellsParts (.unit (natOfHex [a, b, c, d]) :: parts) ('\\' :: 'u' :: a :: b :: c :: d :: cs)

variable {j : Json} {c : Char} {cs rest digits : List Char} {parts : List Part}

/-! ### Numbers -/

/-- A text that goes on without a digit. -/
def Undigited (cs : List Char) : Prop := ∀ c ∈ cs.head?, c.isDigit = false

/-- A sign that no number goes on with. -/
def Ends (c : Char) : Prop := c.isDigit = false ∧ c ≠ '.' ∧ isExponentMark c = false

/-- A text that continues no number. -/
def Stops (cs : List Char) : Prop := ∀ c ∈ cs.head?, Ends c

theorem Stops.undigited (stops : Stops cs) : Undigited cs := fun c mem => (stops c mem).1

theorem readDigits_eq_some : readDigits cs = some (digits, rest) ↔
    IsDigits digits ∧ cs = digits ++ rest ∧ Undigited rest := by
  constructor
  · intro read
    unfold readDigits at read
    split at read
    next => cases read
    next _ some =>
      cases read
      refine ⟨⟨some, List.all_eq_true.mp List.all_takeWhile⟩, ?_, ?_⟩
      · exact List.takeWhile_append_dropWhile.symm
      · intro c mem
        have other := List.head?_dropWhile_not Char.isDigit cs
        rw [Option.mem_def.mp mem] at other
        exact other
  · rintro ⟨⟨some, all⟩, rfl, undigited⟩
    have none : rest.takeWhile Char.isDigit = [] ∧ rest.dropWhile Char.isDigit = rest := by
      cases rest with
      | nil => exact ⟨rfl, rfl⟩
      | cons c rest =>
          have other : ¬ c.isDigit = true := by
            rw [undigited c rfl]
            exact Bool.false_ne_true
          exact ⟨List.takeWhile_cons_of_neg other, List.dropWhile_cons_of_neg other⟩
    unfold readDigits
    rw [List.takeWhile_append_of_pos all, List.dropWhile_append_of_pos all, none.1, none.2,
      List.append_nil]
    split
    next => exact absurd rfl some
    next => rfl

theorem readWhole_eq_some : readWhole cs = some (digits, rest) ↔
    IsWhole digits ∧ cs = digits ++ rest ∧ Undigited rest := by
  constructor
  · intro read
    unfold readWhole at read
    split at read
    next c rest' =>
      split at read
      next => cases read
      next other =>
        cases read
        refine ⟨⟨⟨List.cons_ne_nil _ _, List.forall_mem_singleton.mpr rfl⟩, fun _ => rfl⟩, rfl, ?_⟩
        rintro _ ⟨⟩
        exact Bool.eq_false_iff.mpr other
    next alone =>
      obtain ⟨number, rfl, undigited⟩ := readDigits_eq_some.mp read
      refine ⟨⟨number, fun zero => ?_⟩, rfl, undigited⟩
      obtain ⟨behind, rfl⟩ := List.head?_eq_some_iff.mp zero
      cases behind with
      | nil => rfl
      | cons c behind => exact absurd rfl (alone c (behind ++ rest))
  · rintro ⟨⟨number, leading⟩, rfl, undigited⟩
    unfold readWhole
    split
    next c rest' same =>
      have zero : digits = ['0'] := by
        cases digits with
        | nil => exact absurd rfl number.1
        | cons d digits =>
            obtain ⟨rfl, _⟩ := List.cons.inj same
            exact leading rfl
      subst zero
      obtain ⟨_, rfl⟩ := List.cons.inj same
      rw [if_neg (Bool.eq_false_iff.mp (undigited c rfl))]
    next => exact readDigits_eq_some.mpr ⟨number, rfl, undigited⟩

theorem readSign_eq_some {signs sign : List Char} (read : readSign signs cs = (sign, rest)) :
    cs = sign ++ rest ∧ IsSign signs sign := by
  unfold readSign at read
  split at read
  next =>
    cases read
    exact ⟨rfl, .inl rfl⟩
  next c cs =>
    split at read
    next mem =>
      cases read
      exact ⟨rfl, .inr ⟨c, mem, rfl⟩⟩
    next =>
      cases read
      exact ⟨rfl, .inl rfl⟩

/-- Digits are no sign, so what is in front of them is the sign. -/
theorem readSign_digits {signs sign : List Char} (signed : IsSign signs sign)
    (other : signs.any Char.isDigit = false) (number : IsDigits digits) (rest : List Char) :
    readSign signs (sign ++ (digits ++ rest)) = (sign, digits ++ rest) := by
  rcases signed with rfl | ⟨c, mem, rfl⟩
  · cases digits with
    | nil => exact absurd rfl number.1
    | cons d digits =>
        refine if_neg fun mem => ?_
        exact List.any_eq_false.mp other d mem (number.2 d List.mem_cons_self)
  · exact if_pos mem

theorem readFraction_sound {fraction : List Char} (read : readFraction cs = some (fraction, rest)) :
    IsFraction fraction ∧ cs = fraction ++ rest := by
  unfold readFraction at read
  split at read
  next =>
    obtain ⟨⟨digits, after⟩, found, same⟩ := Option.map_eq_some_iff.mp read
    cases same
    obtain ⟨number, rfl, _⟩ := readDigits_eq_some.mp found
    exact ⟨.given number, rfl⟩
  next =>
    cases read
    exact ⟨.absent, rfl⟩

theorem readFraction_complete {fraction : List Char} (given : IsFraction fraction)
    (undigited : Undigited rest) (pointless : ∀ c ∈ rest.head?, c ≠ '.') :
    readFraction (fraction ++ rest) = some (fraction, rest) := by
  cases given with
  | absent =>
      rw [List.nil_append, readFraction]
      rintro behind rfl
      exact pointless '.' rfl rfl
  | given number =>
      rw [List.cons_append, readFraction, readDigits_eq_some.mpr ⟨number, rfl, undigited⟩]
      rfl

theorem readExponent_sound {exponent : List Char} (read : readExponent cs = some (exponent, rest)) :
    IsExponent exponent ∧ cs = exponent ++ rest := by
  unfold readExponent at read
  split at read
  next =>
    cases read
    exact ⟨.absent, rfl⟩
  next c cs =>
    split at read
    next marked =>
      dsimp only at read
      cases signed : readSign ['+', '-'] cs with
      | mk sign behind =>
          rw [signed] at read
          obtain ⟨⟨digits, after⟩, found, same⟩ := Option.map_eq_some_iff.mp read
          cases same
          obtain ⟨number, rfl, _⟩ := readDigits_eq_some.mp found
          obtain ⟨rfl, signed'⟩ := readSign_eq_some signed
          refine ⟨.given c marked sign signed' number, ?_⟩
          rw [List.cons_append, List.append_assoc]
    next =>
      cases read
      exact ⟨.absent, rfl⟩

theorem readExponent_complete {exponent : List Char} (given : IsExponent exponent)
    (stops : Stops rest) : readExponent (exponent ++ rest) = some (exponent, rest) := by
  cases given with
  | absent =>
      cases rest with
      | nil => rfl
      | cons c rest => exact if_neg (Bool.eq_false_iff.mp (stops c rfl).2.2)
  | given mark marked sign signed number =>
      rw [List.cons_append, List.append_assoc, readExponent, if_pos marked,
        readSign_digits signed (by decide) number]
      dsimp only
      rw [readDigits_eq_some.mpr ⟨number, rfl, stops.undigited⟩]
      rfl

theorem readNumber_sound (read : readNumber cs = some (j, rest)) :
    ∃ number, IsNumber number ∧ j = .number number ∧ cs = number ++ rest := by
  unfold readNumber at read
  cases signed : readSign ['-'] cs with
  | mk sign cs₁ =>
      rw [signed] at read
      obtain ⟨⟨whole, cs₂⟩, readWhole', read⟩ := Option.bind_eq_some_iff.mp read
      obtain ⟨⟨fraction, cs₃⟩, readFraction', read⟩ := Option.bind_eq_some_iff.mp read
      obtain ⟨⟨exponent, cs₄⟩, readExponent', read⟩ := Option.bind_eq_some_iff.mp read
      cases read
      obtain ⟨whole', rfl, _⟩ := readWhole_eq_some.mp readWhole'
      obtain ⟨fraction', rfl⟩ := readFraction_sound readFraction'
      obtain ⟨exponent', rfl⟩ := readExponent_sound readExponent'
      obtain ⟨rfl, signed'⟩ := readSign_eq_some signed
      refine ⟨_, .mk sign signed' whole' fraction' exponent', rfl, ?_⟩
      simp only [List.append_assoc]

theorem undigited_exponent {exponent : List Char} (given : IsExponent exponent)
    (stops : Stops rest) :
    Undigited (exponent ++ rest) ∧ ∀ c ∈ (exponent ++ rest).head?, c ≠ '.' := by
  cases given with
  | absent => exact ⟨stops.undigited, fun c mem => (stops c mem).2.1⟩
  | given mark marked =>
      have either : mark = 'e' ∨ mark = 'E' := by simpa [isExponentMark] using marked
      constructor
      · rintro _ ⟨⟩
        rcases either with rfl | rfl <;> rfl
      · rintro _ ⟨⟩
        rcases either with rfl | rfl <;> decide

theorem undigited_fraction {fraction : List Char} (given : IsFraction fraction)
    (undigited : Undigited rest) : Undigited (fraction ++ rest) := by
  cases given with
  | absent => exact undigited
  | given => rintro _ ⟨⟩; rfl

theorem readNumber_complete {number : List Char} (given : IsNumber number) (stops : Stops rest) :
    readNumber (number ++ rest) = some (.number number, rest) := by
  obtain @⟨whole, fraction, exponent, sign, signed, whole', fraction', exponent'⟩ := given
  obtain ⟨undigited, pointless⟩ := undigited_exponent exponent' stops
  have wholes : readWhole (whole ++ (fraction ++ (exponent ++ rest))) = _ :=
    readWhole_eq_some.mpr ⟨whole', rfl, undigited_fraction fraction' undigited⟩
  simp only [List.append_assoc]
  rw [readNumber, readSign_digits signed (by decide) whole'.1]
  dsimp only [bind]
  rw [wholes, Option.bind_some]
  dsimp only
  rw [readFraction_complete fraction' undigited pointless, Option.bind_some]
  dsimp only
  rw [readExponent_complete exponent' stops]
  simp only [Option.bind_some, List.append_assoc]
  rfl

theorem IsWhole.head {whole : List Char} (whole' : IsWhole whole) :
    ∃ d behind, whole = d :: behind ∧ d.isDigit = true := by
  cases whole with
  | nil => exact absurd rfl whole'.1.1
  | cons d behind => exact ⟨d, behind, rfl, whole'.1.2 d List.mem_cons_self⟩

theorem IsNumber.head {number : List Char} (number' : IsNumber number) :
    ∃ d behind, number = d :: behind ∧ (d.isDigit = true ∨ d = '-') := by
  obtain @⟨whole, fraction, exponent, sign, signed, whole', _, _⟩ := number'
  obtain ⟨d, behind, rfl, digit⟩ := whole'.head
  rcases signed with rfl | ⟨c, mem, rfl⟩
  · exact ⟨d, _, rfl, .inl digit⟩
  · exact ⟨c, _, rfl, .inr (List.mem_singleton.mp mem)⟩

/-! ### Strings -/

theorem readParts_sound (read : readParts cs = some (parts, rest)) :
    ∃ text, SpellsParts parts text ∧ cs = text ++ '"' :: rest := by
  fun_induction readParts cs generalizing parts with
  | case1 => cases read
  | case2 behind =>
      cases read
      exact ⟨[], .nil, rfl⟩
  | case3 a b c d behind hex ih =>
      obtain ⟨⟨parts, after⟩, found, same⟩ := Option.map_eq_some_iff.mp read
      cases same
      obtain ⟨text, spelt, rfl⟩ := ih found
      exact ⟨_, .unit a b c d hex spelt, rfl⟩
  | case4 => cases read
  | case5 => cases read
  | case6 e behind _ unit known ih =>
      obtain ⟨⟨parts, after⟩, found, same⟩ := Option.map_eq_some_iff.mp read
      cases same
      obtain ⟨text, spelt, rfl⟩ := ih found
      exact ⟨_, .escape e unit known spelt, rfl⟩
  | case7 => cases read
  | case8 c behind closing _ _ raw ih =>
      obtain ⟨⟨parts, after⟩, found, same⟩ := Option.map_eq_some_iff.mp read
      cases same
      obtain ⟨text, spelt, rfl⟩ := ih found
      rw [Bool.or_eq_true, decide_eq_true_iff, decide_eq_true_iff, not_or] at raw
      exact ⟨_, .octet c (Nat.not_lt.mp raw.1) closing raw.2 spelt, rfl⟩

theorem simpleEscape?_u : simpleEscape? 'u' = none := by decide

theorem readParts_complete {text : List Char} (spelt : SpellsParts parts text) (rest : List Char) :
    readParts (text ++ '"' :: rest) = some (parts, rest) := by
  induction spelt with
  | nil => rfl
  | octet c printed closing plain _ ih =>
      have raw : ¬ (decide (c.toNat < 0x20) || decide (c = '\\')) = true := by
        rw [Bool.or_eq_true, decide_eq_true_iff, decide_eq_true_iff, not_or]
        exact ⟨Nat.not_lt.mpr printed, plain⟩
      rw [List.cons_append, readParts, if_neg raw, ih]
      · rfl
      · exact closing
      · exact fun _ _ _ _ _ same => absurd same plain
      · exact fun _ _ same => absurd same plain
  | escape e unit known _ ih =>
      rw [List.cons_append, List.cons_append, readParts, known]
      · dsimp only
        rw [ih]
        rfl
      · rintro _ _ _ _ _ rfl
        cases simpleEscape?_u.symm.trans known
  | unit a b c d hex _ ih =>
      simp only [List.cons_append]
      rw [readParts, if_pos hex, ih]
      rfl

theorem readText_complete {text : List Char} (spelt : SpellsParts parts text) (rest : List Char) :
    readText (text ++ '"' :: rest) = some (textOf parts, rest) := by
  rw [readText, readParts_complete spelt]
  rfl

theorem readText_sound {text : Option (List Char)} (read : readText cs = some (text, rest)) :
    ∃ parts written, SpellsParts parts written ∧ textOf parts = text ∧
      cs = written ++ '"' :: rest := by
  obtain ⟨⟨parts, after⟩, found, same⟩ := Option.map_eq_some_iff.mp read
  cases same
  obtain ⟨written, spelt, rfl⟩ := readParts_sound found
  exact ⟨parts, written, spelt, rfl, rfl⟩

end Dues.Text.Json
