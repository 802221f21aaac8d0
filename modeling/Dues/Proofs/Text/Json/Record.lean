import Mathlib.Data.List.Forall2
import Dues.Text.Json

/-! # What a record says

The fields of a record, and what stands in them. A field that is given twice is no field, a name or
a text that is not one spoils the record, and what nobody asked for is passed over.
-/

namespace Dues.Text.Json

variable {α : Type} {members : List (Option (List Char) × Json)} {name text : String}
  {names : List String} {field : Option Json} {fields : List (Option Json)} {j : Json}

/-- The field called `name`: missing where no member has the name, else what the only one that has
it holds. -/
inductive HasField (members : List (Option (List Char) × Json)) (name : String) :
    Option Json → Prop
  | missing (unnamed : ∀ m ∈ members, m.1 ≠ some name.toList) : HasField members name none
  | given {before after : List (Option (List Char) × Json)} (j : Json)
      (here : members = before ++ (some name.toList, j) :: after)
      (first : ∀ m ∈ before, m.1 ≠ some name.toList) (last : ∀ m ∈ after, m.1 ≠ some name.toList) :
      HasField members name (some j)

/-- The fields of a record in the order of `names`. -/
inductive IsRecord (names : List String) : Json → List (Option Json) → Prop
  | object {members : List (Option (List Char) × Json)} {fields : List (Option Json)}
      (named : ∀ m ∈ members, m.1 ≠ none) (fields' : List.Forall₂ (HasField members) names fields) :
      IsRecord names (.object members) fields
  | array (items : List Json) (size : items.length = names.length) :
      IsRecord names (.array items) (items.map some)

/-- A value that is a text. -/
def Tells (j : Json) (text : String) : Prop := j = .string (some text.toList)

/-- What a field says that may be missing or null. -/
inductive Optionally (tells : Json → α → Prop) : Option Json → Option α → Prop
  | missing : Optionally tells none none
  | null : Optionally tells (some .null) none
  | given (j : Json) (a : α) (said : tells j a) : Optionally tells (some j) (some a)

theorem text?_eq_some : j.text? = some text ↔ j.Tells text := by
  unfold text? Tells
  constructor
  · intro read
    split at read
    next cs =>
      cases read
      rw [String.toList_ofList]
    next => cases read
  · rintro rfl
    dsimp only
    rw [String.ofList_toList]

theorem Tells.unique {text' : String} (told : j.Tells text) (told' : j.Tells text') :
    text = text' :=
  Option.some_inj.mp ((text?_eq_some.mpr told).symm.trans (text?_eq_some.mpr told'))

theorem requiredText?_eq_some : requiredText? field = some text ↔
    ∃ j, field = some j ∧ j.Tells text := by
  rw [requiredText?, Option.bind_eq_some_iff]
  exact exists_congr fun j => and_congr_right fun _ => text?_eq_some

theorem optional?_eq_some {read : Json → Option α} {tells : Json → α → Prop}
    (exact' : ∀ j a, read j = some a ↔ tells j a) (null : ∀ a, ¬ tells .null a)
    {result : Option α} : optional? read field = some result ↔ Optionally tells field result := by
  cases field with
  | none =>
      constructor
      · rintro ⟨⟩
        exact .missing
      · rintro ⟨⟩
        rfl
  | some j =>
      cases j with
      | null =>
          constructor
          · rintro ⟨⟩
            exact .null
          · intro said
            cases said with
            | null => rfl
            | given _ a said => exact absurd said (null a)
      | _ =>
          refine Option.map_eq_some_iff.trans ⟨?_, ?_⟩
          · rintro ⟨a, found, rfl⟩
            exact .given _ a ((exact' _ a).mp found)
          · intro said
            cases said with
            | given _ a said => exact ⟨a, (exact' _ a).mpr said, rfl⟩

theorem member?_eq_some : member? name members = some field ↔ HasField members name field := by
  unfold member?
  constructor
  · intro read
    split at read
    next none =>
      cases read
      refine .missing fun m mem same => ?_
      exact absurd (beq_iff_eq.mpr same) (List.filter_eq_nil_iff.mp none m mem)
    next m one =>
      cases read
      obtain ⟨before, after, rfl, first, here, last⟩ := List.filter_eq_cons_iff.mp one
      obtain ⟨_, j⟩ := m
      cases beq_iff_eq.mp here
      refine .given j rfl (fun m mem same => ?_) fun m mem same => ?_
      · exact absurd (beq_iff_eq.mpr same) (first m mem)
      · exact absurd (beq_iff_eq.mpr same) (List.filter_eq_nil_iff.mp last m mem)
    next => cases read
  · intro has
    cases has with
    | missing unnamed =>
        have none : members.filter (fun m => m.1 == some name.toList) = [] :=
          List.filter_eq_nil_iff.mpr fun m mem same => unnamed m mem (beq_iff_eq.mp same)
        rw [none]
    | given j here first last =>
        have one : members.filter (fun m => m.1 == some name.toList) = [(some name.toList, j)] := by
          refine List.filter_eq_cons_iff.mpr ⟨_, _, here, ?_, beq_self_eq_true _, ?_⟩
          · exact fun m mem same => first m mem (beq_iff_eq.mp same)
          · exact List.filter_eq_nil_iff.mpr fun m mem same => last m mem (beq_iff_eq.mp same)
        rw [one]

theorem mapM_member?_eq_some : (names.mapM fun name => member? name members) = some fields ↔
    List.Forall₂ (HasField members) names fields := by
  induction names generalizing fields with
  | nil =>
      constructor
      · rintro ⟨⟩
        exact .nil
      · rintro ⟨⟩
        rfl
  | cons name names ih =>
      rw [List.mapM_cons]
      constructor
      · intro read
        obtain ⟨field, found, read⟩ := Option.bind_eq_some_iff.mp read
        obtain ⟨fields, found', read⟩ := Option.bind_eq_some_iff.mp read
        cases read
        exact .cons (member?_eq_some.mp found) (ih.mp found')
      · intro has
        cases has with
        | cons here rest => rw [member?_eq_some.mpr here, ih.mpr rest]; rfl

theorem fields?_eq_some : fields? names j = some fields ↔ IsRecord names j fields := by
  constructor
  · intro read
    unfold fields? at read
    split at read
    next members =>
      split at read
      next named =>
        refine .object (fun m mem none => ?_) (mapM_member?_eq_some.mp read)
        have some := List.all_eq_true.mp named m mem
        rw [none] at some
        cases some
      next => cases read
    next items =>
      split at read
      next size =>
        cases read
        exact .array items size
      next => cases read
    next => cases read
  · intro record
    cases record with
    | object named fields' =>
        refine (if_pos ?_).trans (mapM_member?_eq_some.mpr fields')
        exact List.all_eq_true.mpr fun m mem => Option.isSome_iff_ne_none.mpr (named m mem)
    | array items size => exact if_pos size

theorem IsRecord.unique {fields' : List (Option Json)} (record : IsRecord names j fields)
    (record' : IsRecord names j fields') : fields = fields' :=
  Option.some_inj.mp ((fields?_eq_some.mpr record).symm.trans (fields?_eq_some.mpr record'))

end Dues.Text.Json
