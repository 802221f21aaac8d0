import Dues.Proofs.Purchase.Bookkeeping
import Dues.Proofs.Register.Profile

/-! # Values after any notes

Notes are made one after the other, and one that cannot be made is left out. Behind them there is
read for each user and each field what was noted last for the two, or what was there before.
-/

namespace Dues

open Dues.Action (deskOf outcome Keeps)
open Dues.Register (ValueType ProfileField setValue value?)

namespace Household

variable {d : Desk} {n : Note} {notes : List Note} {userId id : Int} {name : String}

/-- The desk behind some notes. -/
def behind (notes : List Note) (d : Desk) : Desk := deskOf ((notes.forM note : Action Fault Unit) d)

/-- The text that was noted last for a user in the field with a name. -/
def lastText (notes : List Note) (userId : Int) (name : String) : Option String :=
  (notes.filter fun n => n.userId == userId && n.field.name == name).getLast?.map fun n =>
    n.type.encode n.value

theorem behind_cons (n : Note) (notes : List Note) (d : Desk) :
    behind (n :: notes) d = behind notes (deskOf (setValue n.field n.userId n.value d)) := by
  have noted : (note n : Action Fault Unit) d =
      .ok () (deskOf (setValue n.field n.userId n.value d)) := by
    unfold note
    cases setValue n.field n.userId n.value d <;> rfl
  exact congrArg deskOf (Action.bind_of_ok noted)

theorem lastText_cons (n : Note) (notes : List Note) (userId : Int) (name : String) :
    lastText (n :: notes) userId name = (lastText notes userId name).or
      (if n.userId = userId ∧ n.field.name = name then some (n.type.encode n.value) else none) := by
  unfold lastText
  by_cases own : n.userId = userId ∧ n.field.name = name
  · rw [List.filter_cons_of_pos (by simp [own]), if_pos own, List.getLast?_cons]
    cases (notes.filter fun n => n.userId == userId && n.field.name == name).getLast? <;> rfl
  · rw [List.filter_cons_of_neg (by simpa using own), if_neg own, Option.or_none]

theorem behind_profiled (notes : List Note) (h : d.Profiled) : (behind notes d).Profiled :=
  notes_keep (fun n _ => note_keeps (Register.setValue_profiled n.field n.userId n.value)) d h

theorem behind_upToValues (notes : List Note) (h : d.Profiled) :
    d.UpToValues (behind notes d) := by
  induction notes generalizing d with
  | nil => exact (Desk.Equivalent.refl d).upToValues
  | cons n notes ih =>
      rw [behind_cons]
      exact (Register.setValue_upToValues h n.field n.userId n.value).trans
        (ih (Register.setValue_profiled n.field n.userId n.value d h))

theorem texts_note (h : d.Profiled) (there : d.place name userId = .ok id) (n : Note) :
    (deskOf (setValue n.field n.userId n.value d)).store.texts userId id =
      if n.userId = userId ∧ n.field.name = name then [n.type.encode n.value]
      else d.store.texts userId id := by
  by_cases own : n.userId = userId ∧ n.field.name = name
  · obtain ⟨rfl, rfl⟩ := own
    rw [if_pos ⟨rfl, rfl⟩, Register.texts_setValue h there]
  · rw [if_neg own, Register.texts_setValue_other h]
    rintro ⟨rfl, there'⟩
    exact own ⟨rfl, h.place_injective there' there⟩

/-- Each place holds the text that was noted last for it, or what it held before. -/
theorem texts_behind (notes : List Note) (h : d.Profiled)
    (there : d.place name userId = .ok id) :
    (behind notes d).store.texts userId id =
      (lastText notes userId name).elim (d.store.texts userId id) fun text => [text] := by
  induction notes generalizing d with
  | nil => rfl
  | cons n notes ih =>
      -- the place is the same behind the note, so the induction is about its text there
      have same := Register.setValue_upToValues h n.field n.userId n.value
      rw [behind_cons, ih (Register.setValue_profiled n.field n.userId n.value d h)
        ((same.place name userId).trans there), texts_note h there, lastText_cons]
      cases lastText notes userId name with
      | some text => rfl
      | none =>
          by_cases own : n.userId = userId ∧ n.field.name = name
          · rw [if_pos own, if_pos own]
            rfl
          · rw [if_neg own, if_neg own]
            rfl

/-- Behind any notes, made or left out, profile values are found by user and field as before. For
each user and field there is read what was noted last, or what was read before. -/
theorem values_are_keyed (h : d.Profiled) (notes : List Note) :
    (behind notes d).KeyedValues ∧
    ∀ {t : ValueType} (field : ProfileField t) (userId id : Int),
      d.store.fieldId? field.name = .ok (some id) → d.store.users.contains userId = true →
        outcome (value? field userId (behind notes d)) =
          (lastText notes userId field.name).elim (outcome (value? field userId d))
            fun text => field.reading (some text) := by
  refine ⟨(behind_profiled notes h).keyedValues, fun field userId id looked there => ?_⟩
  have kept := texts_behind notes h (h.place_of_fieldId? looked there)
  have looked' := ((behind_upToValues notes h).fieldId? field.name).trans looked
  rw [Register.value?_of_texts (behind_profiled notes h) looked' kept,
    Register.value?_of_texts h looked rfl]
  cases lastText notes userId field.name <;> rfl

/-- A new installation with one account. -/
def oneAccount : Desk :=
  { Desk.initial with store := { Store.initial with
      users := Store.initial.users.insert ⟨"ada@example.org", Register.lockedPassword, true⟩ } }

/-- A name, one for somebody who is not there, and another name. -/
def threeNotes : List Note :=
  [⟨.text, .firstName, 1, "Ada"⟩, ⟨.text, .firstName, 2, "Charles"⟩,
    ⟨.text, .firstName, 1, "Augusta"⟩]

theorem values_are_keyed_of_one_account :
    oneAccount.Profiled ∧ (behind threeNotes oneAccount).KeyedValues ∧
      (∃ e, outcome (setValue .firstName 2 "Charles" oneAccount) = .error e) ∧
      outcome (value? .firstName 1 (behind threeNotes oneAccount)) = .ok (some "Augusta") := by
  have frame : Desk.initial.Frame [.users] oneAccount :=
    ⟨rfl, ⟨rfl, rfl, rfl, rfl, fun apart => absurd List.mem_cons_self apart, fun _ => rfl,
      fun _ => rfl, fun _ => rfl⟩, fun _ mem => .inl mem⟩
  have running := Desk.initial_running.of_frame frame (by decide)
  have profiled : oneAccount.Profiled := running.profiled fun i v row => by
    have empty : oneAccount.store.values.find? i = none :=
      Store.Table.find?_of_empty (by decide +kernel)
    cases row.symm.trans empty
  obtain ⟨keyed, reads⟩ := values_are_keyed profiled threeNotes
  obtain ⟨id, looked⟩ := ProfileField.firstName_defined
  have nobody := profiled.keyedValues.refuses .firstName 2 "Charles" (.inl (by decide +kernel))
  refine ⟨profiled, keyed, nobody, ?_⟩
  rw [reads .firstName 1 id looked (by decide +kernel)]
  rfl

end Household

end Dues
