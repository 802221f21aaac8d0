import Mathlib.Data.List.TakeWhile
import Mathlib.Data.Option.Basic
import Dues.Proofs.Text.Json.Tokens

/-! # What is read as a document

The grammar of the values, as a relation between a form and the text before and behind it. The
reader finds exactly what the grammar says. Its fuel is always enough, because every step reads a
character, and it never reads too far, because only a number could go on and nothing that may follow
a value would continue a number. So what is cut off or goes on behind its end is no value.
-/

namespace Dues.Text.Json

/-! ### The grammar -/

/-- What a text can begin with. Items and members end with the bracket behind them. -/
inductive Form
  | value (j : Json)
  | items (js : List Json)
  | members (ms : List (Option (List Char) × Json))
  | sign (c : Char)

/-- A text begins with a form and goes on with `rest`. Blanks may stand before every form. -/
inductive Spells : Form → List Char → List Char → Prop
  | blank {form : Form} {c : Char} {cs rest : List Char} (space : isSpace c = true)
      (spelt : Spells form cs rest) : Spells form (c :: cs) rest
  | sign (c : Char) (solid : isSpace c = false) (rest : List Char) :
      Spells (.sign c) (c :: rest) rest
  | nullWord (rest : List Char) : Spells (.value .null) ('n' :: 'u' :: 'l' :: 'l' :: rest) rest
  | trueWord (rest : List Char) :
      Spells (.value (.bool true)) ('t' :: 'r' :: 'u' :: 'e' :: rest) rest
  | falseWord (rest : List Char) :
      Spells (.value (.bool false)) ('f' :: 'a' :: 'l' :: 's' :: 'e' :: rest) rest
  | number {cs : List Char} (number : IsNumber cs) (rest : List Char) :
      Spells (.value (.number cs)) (cs ++ rest) rest
  | string {parts : List Part} {cs : List Char} (spelt : SpellsParts parts cs) (rest : List Char) :
      Spells (.value (.string (textOf parts))) ('"' :: (cs ++ '"' :: rest)) rest
  | emptyArray {cs rest : List Char} (closed : Spells (.sign ']') cs rest) :
      Spells (.value (.array [])) ('[' :: cs) rest
  | array {js : List Json} {cs rest : List Char} (items : Spells (.items js) cs rest) :
      Spells (.value (.array js)) ('[' :: cs) rest
  | emptyObject {cs rest : List Char} (closed : Spells (.sign '\x7d') cs rest) :
      Spells (.value (.object [])) ('\x7b' :: cs) rest
  | object {ms : List (Option (List Char) × Json)} {cs rest : List Char}
      (members : Spells (.members ms) cs rest) : Spells (.value (.object ms)) ('\x7b' :: cs) rest
  | lastItem {j : Json} {cs cs' rest : List Char} (item : Spells (.value j) cs cs')
      (closed : Spells (.sign ']') cs' rest) : Spells (.items [j]) cs rest
  | item {j : Json} {js : List Json} {cs cs' cs'' rest : List Char}
      (item : Spells (.value j) cs cs') (comma : Spells (.sign ',') cs' cs'')
      (items : Spells (.items js) cs'' rest) : Spells (.items (j :: js)) cs rest
  | lastMember {parts : List Part} {name : List Char} {j : Json} {cs cs' cs'' rest : List Char}
      (spelt : SpellsParts parts name) (colon : Spells (.sign ':') cs cs')
      (value : Spells (.value j) cs' cs'') (closed : Spells (.sign '\x7d') cs'' rest) :
      Spells (.members [(textOf parts, j)]) ('"' :: (name ++ '"' :: cs)) rest
  | member {parts : List Part} {name : List Char} {j : Json}
      {ms : List (Option (List Char) × Json)} {cs cs' cs'' cs''' rest : List Char}
      (spelt : SpellsParts parts name) (colon : Spells (.sign ':') cs cs')
      (value : Spells (.value j) cs' cs'') (comma : Spells (.sign ',') cs'' cs''')
      (members : Spells (.members ms) cs''' rest) :
      Spells (.members ((textOf parts, j) :: ms)) ('"' :: (name ++ '"' :: cs)) rest

/-- Octets that are a value as a whole. -/
def IsText (octets : List UInt8) (j : Json) : Prop :=
  ∃ rest, Spells (.value j) (charsOf octets) rest ∧ ∀ c ∈ rest, isSpace c = true

variable {form : Form} {j : Json} {c : Char} {cs rest : List Char} {fuel : Nat} {parts : List Part}

/-! ### Blanks -/

theorem skipSpace_blank (space : isSpace c = true) : skipSpace (c :: cs) = skipSpace cs :=
  List.dropWhile_cons_of_pos space

theorem skipSpace_solid (solid : isSpace c = false) : skipSpace (c :: cs) = c :: cs :=
  List.dropWhile_cons_of_neg (by rw [solid]; exact Bool.false_ne_true)

theorem sign?_eq_some : sign? c cs = some rest ↔ skipSpace cs = c :: rest := by
  unfold sign?
  split
  next none => rw [none]; simp
  next d behind some => rw [some]; simp

theorem Spells.of_skipSpace (spelt : Spells form (skipSpace cs) rest) : Spells form cs rest := by
  induction cs with
  | nil => exact spelt
  | cons c cs ih =>
      cases space : isSpace c with
      | true =>
          rw [skipSpace_blank space] at spelt
          exact .blank space (ih spelt)
      | false => rwa [skipSpace_solid space] at spelt

theorem skipSpace_eq_nil : skipSpace cs = [] ↔ ∀ c ∈ cs, isSpace c = true :=
  List.dropWhile_eq_nil_iff

/-! ### Everything that is read is spelt -/

theorem Spells.of_sign (behind : sign? c cs = some rest) (solid : isSpace c = false) :
    Spells (.sign c) cs rest := by
  refine .of_skipSpace ?_
  rw [sign?_eq_some.mp behind]
  exact .sign c solid rest

/-- What the readers find with some fuel is spelt. -/
structure Sound (fuel : Nat) : Prop where
  value : ∀ {cs j rest}, readValue fuel cs = some (j, rest) → Spells (.value j) cs rest
  items : ∀ {cs js rest}, readItems fuel cs = some (js, rest) → Spells (.items js) cs rest
  members : ∀ {cs ms rest}, readMembers fuel cs = some (ms, rest) → Spells (.members ms) cs rest

theorem Sound.next_value (sound : Sound fuel) {cs rest : List Char} {j : Json}
    (read : readValue (fuel + 1) cs = some (j, rest)) : Spells (.value j) cs rest := by
  refine .of_skipSpace ?_
  rw [readValue] at read
  split at read
  next behind same =>
    cases read
    rw [same]
    exact .nullWord _
  next behind same =>
    cases read
    rw [same]
    exact .trueWord _
  next behind same =>
    cases read
    rw [same]
    exact .falseWord _
  next behind same =>
    obtain ⟨⟨text, after⟩, found, same'⟩ := Option.map_eq_some_iff.mp read
    cases same'
    obtain ⟨parts, written, spelt, rfl, rfl⟩ := readText_sound found
    rw [same]
    exact .string spelt _
  next behind same =>
    rw [same]
    rcases (Option.orElse_eq_some _ _ _).mp read with closed | ⟨_, open'⟩
    · obtain ⟨after, closed', same'⟩ := Option.map_eq_some_iff.mp closed
      cases same'
      exact .emptyArray (.of_sign closed' rfl)
    · obtain ⟨⟨items, after⟩, found, same'⟩ := Option.map_eq_some_iff.mp open'
      cases same'
      exact .array (sound.items found)
  next behind same =>
    rw [same]
    rcases (Option.orElse_eq_some _ _ _).mp read with closed | ⟨_, open'⟩
    · obtain ⟨after, closed', same'⟩ := Option.map_eq_some_iff.mp closed
      cases same'
      exact .emptyObject (.of_sign closed' rfl)
    · obtain ⟨⟨members, after⟩, found, same'⟩ := Option.map_eq_some_iff.mp open'
      cases same'
      exact .object (sound.members found)
  next =>
    obtain ⟨number, number', rfl, same⟩ := readNumber_sound read
    rw [same]
    exact .number number' rest

theorem Sound.next_items (sound : Sound fuel) {cs rest : List Char} {js : List Json}
    (read : readItems (fuel + 1) cs = some (js, rest)) : Spells (.items js) cs rest := by
  rw [readItems] at read
  obtain ⟨⟨item, behind⟩, found, read⟩ := Option.bind_eq_some_iff.mp read
  have item' := sound.value found
  dsimp only at read
  split at read
  next closed =>
    cases read
    exact .lastItem item' (.of_sign closed rfl)
  next =>
    obtain ⟨behind', comma, read⟩ := Option.bind_eq_some_iff.mp read
    obtain ⟨⟨items, after⟩, found', read⟩ := Option.bind_eq_some_iff.mp read
    cases read
    exact .item item' (.of_sign comma rfl) (sound.items found')

theorem Sound.next_members (sound : Sound fuel) {cs rest : List Char}
    {ms : List (Option (List Char) × Json)}
    (read : readMembers (fuel + 1) cs = some (ms, rest)) : Spells (.members ms) cs rest := by
  refine .of_skipSpace ?_
  rw [readMembers] at read
  obtain ⟨quoted, begun, read⟩ := Option.bind_eq_some_iff.mp read
  obtain ⟨⟨name, behind⟩, named, read⟩ := Option.bind_eq_some_iff.mp read
  obtain ⟨behind', colon, read⟩ := Option.bind_eq_some_iff.mp read
  obtain ⟨⟨value, behind''⟩, found, read⟩ := Option.bind_eq_some_iff.mp read
  obtain ⟨parts, written, spelt, text, whole⟩ := readText_sound named
  have colon' := Spells.of_sign colon rfl
  have value' := sound.value found
  rw [sign?_eq_some.mp begun, whole]
  dsimp only at read
  split at read
  next closed =>
    cases read
    subst text
    exact .lastMember spelt colon' value' (.of_sign closed rfl)
  next =>
    obtain ⟨last, comma, read⟩ := Option.bind_eq_some_iff.mp read
    obtain ⟨⟨members, after⟩, found', read⟩ := Option.bind_eq_some_iff.mp read
    cases read
    subst text
    exact .member spelt colon' value' (.of_sign comma rfl) (sound.members found')

theorem sound (fuel : Nat) : Sound fuel := by
  induction fuel with
  | zero =>
      refine ⟨fun read => ?_, fun read => ?_, fun read => ?_⟩
      · rw [readValue] at read
        cases read
      · rw [readItems] at read
        cases read
      · rw [readMembers] at read
        cases read
  | succ fuel ih => exact ⟨ih.next_value, ih.next_items, ih.next_members⟩

/-! ### Everything that is spelt is read -/

theorem Spells.sign?_eq (spelt : Spells (.sign c) cs rest) : sign? c cs = some rest := by
  rw [sign?_eq_some]
  generalize same : Form.sign c = form at spelt
  induction spelt with
  | blank space _ ih =>
      rw [skipSpace_blank space]
      exact ih same
  | sign c solid rest =>
      cases same
      exact skipSpace_solid solid
  | _ => cases same

theorem mem_of_isSpace (space : isSpace c = true) : c ∈ [' ', '\n', '\t', '\r'] := by
  simpa [isSpace, or_assoc] using space

theorem ends_comma : Ends ',' := ⟨rfl, by decide, rfl⟩

theorem ends_bracket : Ends ']' := ⟨rfl, by decide, rfl⟩

theorem ends_brace : Ends '\x7d' := ⟨rfl, by decide, rfl⟩

theorem ends_of_isSpace (space : isSpace c = true) : Ends c := by
  have mem := mem_of_isSpace space
  simp only [List.mem_cons, List.not_mem_nil, or_false] at mem
  rcases mem with rfl | rfl | rfl | rfl <;> exact ⟨rfl, by decide, rfl⟩

theorem Spells.stops (spelt : Spells (.sign c) cs rest) (ends : Ends c) : Stops cs := by
  cases spelt with
  | blank space =>
      rintro _ ⟨⟩
      exact ends_of_isSpace space
  | sign =>
      rintro _ ⟨⟩
      exact ends

theorem solid_of_head (head : c.isDigit = true ∨ c = '-') : isSpace c = false := by
  refine Bool.eq_false_iff.mpr fun space => ?_
  rcases head with digit | rfl
  · exact absurd digit (Bool.eq_false_iff.mp (ends_of_isSpace space).1)
  · cases space

namespace Form

/-- What a form can begin with. -/
def Begins (c : Char) : Form → Prop
  | value _ | items _ => c ∈ ['n', 't', 'f', '"', '[', '\x7b', '-'] ∨ c.isDigit = true
  | members _ => c = '"'
  | sign c' => c = c'

theorem items_open (js : List Json) : ¬ (items js).Begins ']' := by
  rw [Begins]
  decide

theorem members_open (ms : List (Option (List Char) × Json)) : ¬ (members ms).Begins '\x7d' := by
  rw [Begins]
  decide

/-- The fuel that a form needs in a text of some length. -/
def need (length : Nat) : Form → Nat
  | value _ => 2 * length
  | items _ | members _ => 2 * length + 1
  | sign _ => 0

/-- What must follow a form. -/
def Follows (rest : List Char) : Form → Prop
  | value _ => Stops rest
  | _ => True

def ReadBy (fuel : Nat) (cs rest : List Char) : Form → Prop
  | value j => readValue fuel cs = some (j, rest)
  | items js => readItems fuel cs = some (js, rest)
  | members ms => readMembers fuel cs = some (ms, rest)
  | sign c => sign? c cs = some rest

end Form

theorem Spells.begins (spelt : Spells form cs rest) :
    ∃ c behind, skipSpace cs = c :: behind ∧ form.Begins c := by
  induction spelt with
  | blank space _ ih => rwa [skipSpace_blank space]
  | sign c solid rest => exact ⟨c, rest, skipSpace_solid solid, rfl⟩
  | nullWord => exact ⟨'n', _, rfl, .inl (by decide)⟩
  | trueWord => exact ⟨'t', _, rfl, .inl (by decide)⟩
  | falseWord => exact ⟨'f', _, rfl, .inl (by decide)⟩
  | number number rest =>
      obtain ⟨d, behind, rfl, head⟩ := number.head
      refine ⟨d, behind ++ rest, skipSpace_solid (solid_of_head head), head.symm.imp_left ?_⟩
      rintro rfl
      decide
  | string => exact ⟨'"', _, rfl, .inl (by decide)⟩
  | emptyArray => exact ⟨'[', _, rfl, .inl (by decide)⟩
  | array => exact ⟨'[', _, rfl, .inl (by decide)⟩
  | emptyObject => exact ⟨'\x7b', _, rfl, .inl (by decide)⟩
  | object => exact ⟨'\x7b', _, rfl, .inl (by decide)⟩
  | lastItem _ _ ih => exact ih
  | item _ _ _ ih => exact ih
  | lastMember => exact ⟨'"', _, rfl, rfl⟩
  | member => exact ⟨'"', _, rfl, rfl⟩

theorem Spells.shorter (spelt : Spells form cs rest) : rest.length < cs.length := by
  induction spelt with
  | number number rest =>
      obtain ⟨d, behind, rfl, _⟩ := number.head
      simp only [List.cons_append, List.length_cons, List.length_append]
      omega
  | blank _ _ ih => exact ih.trans (Nat.lt_succ_self _)
  | sign => exact Nat.lt_succ_self _
  | nullWord | trueWord | falseWord =>
      simp only [List.length_cons]
      omega
  | string =>
      simp only [List.length_cons, List.length_append]
      omega
  | emptyArray _ ih | array _ ih | emptyObject _ ih | object _ ih =>
      exact ih.trans (Nat.lt_succ_self _)
  | lastItem _ _ ih ih' => exact ih'.trans ih
  | item _ _ _ ih ih' ih'' => exact (ih''.trans ih').trans ih
  | lastMember _ _ _ _ ih ih' ih'' =>
      simp only [List.length_cons, List.length_append]
      omega
  | member _ _ _ _ _ colon value comma members =>
      simp only [List.length_cons, List.length_append]
      omega

theorem Spells.sign?_eq_none (spelt : Spells form cs rest) (other : ¬ form.Begins c) :
    sign? c cs = none := by
  obtain ⟨d, behind, same, begins⟩ := spelt.begins
  unfold sign?
  rw [same]
  refine if_neg ?_
  rintro rfl
  exact other begins

theorem sign?_blank (space : isSpace c = true) {sign : Char} : sign? sign (c :: cs) = sign? sign cs := by
  rw [sign?, sign?, skipSpace_blank space]

theorem readValue_blank (space : isSpace c = true) :
    readValue fuel (c :: cs) = readValue fuel cs := by
  cases fuel with
  | zero => rw [readValue, readValue]
  | succ fuel => rw [readValue, readValue, skipSpace_blank space]

theorem readItems_blank (space : isSpace c = true) :
    readItems fuel (c :: cs) = readItems fuel cs := by
  cases fuel with
  | zero => rw [readItems, readItems]
  | succ fuel => rw [readItems, readItems, readValue_blank space]

theorem readMembers_blank (space : isSpace c = true) :
    readMembers fuel (c :: cs) = readMembers fuel cs := by
  cases fuel with
  | zero => rw [readMembers, readMembers]
  | succ fuel => rw [readMembers, readMembers, sign?_blank space]

theorem Form.ReadBy.blank (space : isSpace c = true) (read : form.ReadBy fuel cs rest) :
    form.ReadBy fuel (c :: cs) rest := by
  cases form with
  | value j => exact (readValue_blank space).trans read
  | items js => exact (readItems_blank space).trans read
  | members ms => exact (readMembers_blank space).trans read
  | sign c' => exact (sign?_blank space).trans read

theorem exists_fuel {n : Nat} (enough : n + 1 ≤ fuel) : ∃ fuel', fuel = fuel' + 1 ∧ n ≤ fuel' :=
  ⟨fuel - 1, by omega, by omega⟩

theorem readValue_string {text : List Char} (spelt : SpellsParts parts text) (rest : List Char) :
    readValue (fuel + 1) ('"' :: (text ++ '"' :: rest)) = some (.string (textOf parts), rest) := by
  rw [readValue, skipSpace_solid rfl]
  exact congrArg (Option.map _) (readText_complete spelt rest)

theorem readValue_array (fuel : Nat) (cs : List Char) : readValue (fuel + 1) ('[' :: cs) =
    (((sign? ']' cs).map fun after => (.array [], after)) <|>
      (readItems fuel cs).map fun p => (.array p.1, p.2)) := by
  rw [readValue, skipSpace_solid rfl]
  rfl

theorem readValue_object (fuel : Nat) (cs : List Char) : readValue (fuel + 1) ('\x7b' :: cs) =
    (((sign? '\x7d' cs).map fun after => (.object [], after)) <|>
      (readMembers fuel cs).map fun p => (.object p.1, p.2)) := by
  rw [readValue, skipSpace_solid rfl]
  rfl

theorem readMembers_name {name vs after : List Char} (spelt : SpellsParts parts name)
    (colon : sign? ':' cs = some vs) (read : readValue fuel vs = some (j, after)) :
    readMembers (fuel + 1) ('"' :: (name ++ '"' :: cs)) =
      match sign? '\x7d' after with
      | some after => some ([(textOf parts, j)], after)
      | none => do
          let (members, after) ← readMembers fuel (← sign? ',' after)
          return ((textOf parts, j) :: members, after) := by
  have quoted : sign? '"' ('"' :: (name ++ '"' :: cs)) = some (name ++ '"' :: cs) := by
    rw [sign?_eq_some, skipSpace_solid rfl]
  rw [readMembers, quoted]
  dsimp only [bind, Option.bind]
  rw [readText_complete spelt]
  dsimp only
  rw [colon]
  dsimp only
  rw [read]
  rfl

theorem readValue_number (head : c.isDigit = true ∨ c = '-') (cs : List Char) :
    readValue (fuel + 1) (c :: cs) = readNumber (c :: cs) := by
  rw [readValue, skipSpace_solid (solid_of_head head)]
  split
  all_goals first
    | rfl
    | next same =>
      obtain ⟨rfl, _⟩ := List.cons.inj same
      exact absurd head (by decide)

/-- A value is read where nothing continues it, and the other forms wherever they are. -/
theorem Spells.complete (spelt : Spells form cs rest) :
    ∀ fuel, form.need cs.length ≤ fuel → form.Follows rest → form.ReadBy fuel cs rest := by
  induction spelt with
  | @blank form c cs rest space _ ih =>
      intro fuel enough follows
      refine (ih fuel (Nat.le_trans ?_ enough) follows).blank space
      cases form <;> simp only [Form.need, List.length_cons] <;> omega
  | sign c solid rest => exact fun _ _ _ => (Spells.sign c solid rest).sign?_eq
  | nullWord rest | trueWord rest | falseWord rest =>
      intro fuel enough _
      obtain ⟨fuel, rfl, _⟩ := exists_fuel enough
      rw [Form.ReadBy, readValue, skipSpace_solid rfl]
      rfl
  | number number rest =>
      intro fuel enough stops
      obtain ⟨d, behind, rfl, head⟩ := number.head
      obtain ⟨fuel, rfl, _⟩ := exists_fuel enough
      exact (readValue_number head _).trans (readNumber_complete number stops)
  | string spelt rest =>
      intro fuel enough _
      obtain ⟨fuel, rfl, _⟩ := exists_fuel enough
      exact readValue_string spelt rest
  | emptyArray closed =>
      intro fuel enough _
      obtain ⟨fuel, rfl, _⟩ := exists_fuel enough
      rw [Form.ReadBy, readValue_array, closed.sign?_eq]
      rfl
  | array items ih =>
      intro fuel enough _
      obtain ⟨fuel, rfl, enough'⟩ := exists_fuel enough
      have read : readItems fuel _ = _ := ih fuel enough' trivial
      rw [Form.ReadBy, readValue_array, items.sign?_eq_none (Form.items_open _), read]
      rfl
  | emptyObject closed =>
      intro fuel enough _
      obtain ⟨fuel, rfl, _⟩ := exists_fuel enough
      rw [Form.ReadBy, readValue_object, closed.sign?_eq]
      rfl
  | object members ih =>
      intro fuel enough _
      obtain ⟨fuel, rfl, enough'⟩ := exists_fuel enough
      have read : readMembers fuel _ = _ := ih fuel enough' trivial
      rw [Form.ReadBy, readValue_object, members.sign?_eq_none (Form.members_open _), read]
      rfl
  | lastItem item closed ih =>
      intro fuel enough _
      obtain ⟨fuel, rfl, enough'⟩ := exists_fuel enough
      have read : readValue fuel _ = _ := ih fuel enough' (closed.stops ends_bracket)
      rw [Form.ReadBy, readItems, read]
      dsimp only [bind, Option.bind]
      rw [closed.sign?_eq]
      rfl
  | item item comma items ih _ ih' =>
      intro fuel enough _
      obtain ⟨fuel, rfl, enough'⟩ := exists_fuel enough
      have shorter := comma.shorter.trans item.shorter
      have read : readValue fuel _ = _ := ih fuel enough' (comma.stops ends_comma)
      have read' : readItems fuel _ = _ := ih' fuel (show 2 * _ + 1 ≤ fuel by omega) trivial
      rw [Form.ReadBy, readItems, read]
      dsimp only [bind, Option.bind]
      rw [comma.sign?_eq_none (by decide : ']' ≠ ','), comma.sign?_eq]
      dsimp only
      rw [read']
      rfl
  | lastMember spelt colon value closed _ ih =>
      intro fuel enough _
      obtain ⟨fuel, rfl, enough'⟩ := exists_fuel enough
      have shorter := colon.shorter
      simp only [List.length_cons, List.length_append] at enough'
      have read : readValue fuel _ = _ :=
        ih fuel (show 2 * _ ≤ fuel by omega) (closed.stops ends_brace)
      rw [Form.ReadBy, readMembers_name spelt colon.sign?_eq read, closed.sign?_eq]
  | member spelt colon value comma members _ ih _ ih' =>
      intro fuel enough _
      obtain ⟨fuel, rfl, enough'⟩ := exists_fuel enough
      have shorter := colon.shorter
      have shorter' := comma.shorter.trans value.shorter
      simp only [List.length_cons, List.length_append] at enough'
      have read : readValue fuel _ = _ :=
        ih fuel (show 2 * _ ≤ fuel by omega) (comma.stops ends_comma)
      have read' : readMembers fuel _ = _ := ih' fuel (show 2 * _ + 1 ≤ fuel by omega) trivial
      rw [Form.ReadBy, readMembers_name spelt colon.sign?_eq read,
        comma.sign?_eq_none (by decide : '\x7d' ≠ ','), comma.sign?_eq]
      dsimp only [bind, Option.bind]
      rw [read']
      rfl

/-- Octets are read as the value that they are as a whole, and only as that. -/
theorem ofOctets?_eq_some {octets : List UInt8} : ofOctets? octets = some j ↔ IsText octets j := by
  have size : (charsOf octets).length = octets.length := List.length_map _
  constructor
  · intro read
    unfold ofOctets? at read
    split at read
    next value rest found =>
      split at read
      next blank =>
        cases read
        refine ⟨rest, (sound _).value found, skipSpace_eq_nil.mp ?_⟩
        exact List.isEmpty_iff.mp blank
      next => cases read
    next => cases read
  · rintro ⟨rest, spelt, blank⟩
    have stops : Stops rest := by
      cases rest with
      | nil => exact fun _ mem => nomatch mem
      | cons c rest =>
          rintro _ ⟨⟩
          exact ends_of_isSpace (blank c List.mem_cons_self)
    have enough : 2 * (charsOf octets).length ≤ 2 * octets.length + 2 := by omega
    have read : readValue _ (charsOf octets) = _ := spelt.complete _ enough stops
    rw [ofOctets?, read]
    dsimp only
    rw [skipSpace_eq_nil.mpr blank]
    rfl

end Dues.Text.Json
