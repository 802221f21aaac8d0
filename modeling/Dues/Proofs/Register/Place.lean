import Dues.Proofs.Register.Removal

/-! # Places for profile values

Each user has one place for each profile field, and a place holds one value at most. Which rows the
values are kept in does not matter to anyone who reads them.
-/

namespace Dues

open Dues.Register (RegisterError)

namespace Store

variable {s s' s'' : Store} {userId fieldId : Int}

theorem head?_texts (s : Store) (userId fieldId : Int) : (s.texts userId fieldId).head? =
    (s.values.first? (isValueOf userId fieldId)).map fun r => r.2.text := by
  unfold texts textsIn Table.first?
  rw [List.head?_filterMap]
  induction s.values.rows with
  | nil => rfl
  | cons r rows ih =>
      cases own : isValueOf userId fieldId r.2 with
      | true => simp [own]
      | false => simp [own, ih]

/-- Two stores that differ at most in the rows that profile values are kept in, and not in how many
of them there are for whom, in which field and with which text. -/
structure UpToRows (s s' : Store) : Prop where
  rest : ∃ values, s' = { s with values }
  values : (s'.values.rows.map (·.2)).Perm (s.values.rows.map (·.2))

theorem count_rows (s : Store) (v : ValueRow) :
    (s.values.rows.map (·.2)).count v = (s.texts v.userId v.fieldId).count v.text := by
  unfold texts textsIn
  rw [List.count_filterMap, List.count, List.countP_map]
  refine List.countP_congr fun r _ => ?_
  obtain ⟨_, userId, fieldId, text⟩ := r
  obtain ⟨user, field, other⟩ := v
  by_cases own : isValueOf user field ⟨userId, fieldId, text⟩ = true
  · obtain ⟨rfl, rfl⟩ := isValueOf_eq_true.mp own
    simp [own]
  · have apart := mt isValueOf_eq_true.mpr own
    simp only [own, Function.comp_apply, beq_iff_eq, ValueRow.mk.injEq]
    constructor
    · rintro ⟨rfl, rfl, _⟩
      exact absurd ⟨rfl, rfl⟩ apart
    · intro none
      cases none

theorem upToRows_of_texts (rest : ∃ values, s' = { s with values })
    (texts : ∀ userId fieldId, s'.texts userId fieldId = s.texts userId fieldId) :
    s.UpToRows s' := by
  refine ⟨rest, List.perm_iff_count.mpr fun v => ?_⟩
  rw [count_rows, count_rows, texts]

end Store

namespace Desk

/-- Two desks that differ in profile values at most. -/
structure UpToValues (d d' : Desk) : Prop where
  connected : d'.connected = d.connected
  rest : ∃ values, d'.store = { d.store with values }
  number : ∀ name, d'.number name = d.number name

namespace UpToValues

variable {d d' d'' : Desk}

theorem trans (h : d.UpToValues d') (h' : d'.UpToValues d'') : d.UpToValues d'' where
  connected := h'.connected.trans h.connected
  rest := by
    obtain ⟨values, same⟩ := h.rest
    obtain ⟨values', same'⟩ := h'.rest
    exact ⟨values', by rw [same', same]⟩
  number name := (h'.number name).trans (h.number name)

theorem rest_of_common (h : d.UpToValues d') (h' : d.UpToValues d'') :
    ∃ values, d''.store = { d'.store with values } := by
  obtain ⟨values, same⟩ := h.rest
  obtain ⟨values', same'⟩ := h'.rest
  exact ⟨values', by rw [same', same]⟩

theorem users (h : d.UpToValues d') : d'.store.users = d.store.users := by
  obtain ⟨values, same⟩ := h.rest
  rw [same]

theorem fields (h : d.UpToValues d') : d'.store.fields = d.store.fields := by
  obtain ⟨values, same⟩ := h.rest
  rw [same]

theorem has (h : d.UpToValues d') (t : Store.TableName) : d'.store.has t = d.store.has t := by
  obtain ⟨values, same⟩ := h.rest
  rw [same]
  rfl

theorem fieldId? (h : d.UpToValues d') (name : String) :
    d'.store.fieldId? name = d.store.fieldId? name := by
  obtain ⟨values, same⟩ := h.rest
  rw [same]
  rfl

end UpToValues

theorem Equivalent.upToValues {d d' : Desk} (h : d.Equivalent d') : d.UpToValues d' :=
  ⟨h.connected, ⟨d.store.values, h.store⟩, h.number⟩

end Desk

/-- A desk at which profile values are kept as their tables promise: there is one value at most for
a user and a field, and both are there. Each number that was looked up is the field's, or the field
is gone and the number is no other's. -/
structure Desk.Profiled (d : Desk) : Prop where
  connected : d.connected = true
  fields : d.store.has .fields = true
  values : d.store.has .values = true
  known : ∀ f ∈ d.fieldIds, d.store.fieldId? f.1 = .ok (some f.2) ∨
    d.store.fieldId? f.1 = .ok none ∧ d.store.fields.contains f.2 = false
  single : ∀ userId fieldId, (d.store.texts userId fieldId).length ≤ 1
  owned : ∀ userId fieldId, d.store.texts userId fieldId ≠ [] →
    d.store.users.contains userId = true ∧ d.store.fields.contains fieldId = true

/-- Values that belong to someone are kept as promised, whatever fields have been removed. -/
theorem Desk.Running.profiled {d : Desk} (h : d.Running)
    (owners : ∀ i v, d.store.values.find? i = some v → d.store.users.contains v.userId = true) :
    d.Profiled where
  connected := h.connected
  fields := h.has .fields
  values := h.has .values
  known := h.known
  single := h.single
  owned userId fieldId kept := by
    obtain ⟨i, v, row, own⟩ := Store.texts_ne_nil.mp kept
    exact ⟨(Store.isValueOf_eq_true.mp own).1 ▸ owners i v row, h.defined userId fieldId kept⟩

namespace Desk

variable {d d' : Desk} {name other : String} {userId user id fieldId : Int} {e : RegisterError}

/-- Where the values of a user for a field are kept, if there is such a user and such a field. -/
def place (d : Desk) (name : String) (userId : Int) : Except RegisterError Int := do
  let id ← d.number name
  if d.store.users.contains userId && d.store.fields.contains id then .ok id
  else .error (.store .foreignKeyViolation)

theorem place_of_number (number : d.number name = .ok id) : d.place name userId =
    if d.store.users.contains userId && d.store.fields.contains id then .ok id
    else .error (.store .foreignKeyViolation) := by
  rw [place, number]
  rfl

theorem place_eq_ok : d.place name userId = .ok id ↔ d.number name = .ok id ∧
    d.store.users.contains userId = true ∧ d.store.fields.contains id = true := by
  cases number : d.number name with
  | error e =>
      rw [place, number]
      exact ⟨fun h => (nomatch h), fun h => (nomatch h.1)⟩
  | ok found =>
      rw [place_of_number number]
      split
      next there =>
        obtain ⟨user, field⟩ := Bool.and_eq_true_iff.mp there
        constructor
        · intro h
          cases h
          exact ⟨rfl, user, field⟩
        · rintro ⟨⟨⟩, _⟩
          rfl
      next missing =>
        refine ⟨fun h => (nomatch h), ?_⟩
        rintro ⟨⟨⟩, there⟩
        exact absurd (Bool.and_eq_true_iff.mpr there) missing

theorem UpToValues.place (h : d.UpToValues d') (name : String) (userId : Int) :
    d'.place name userId = d.place name userId := by
  unfold Desk.place
  rw [h.number, h.users, h.fields]

namespace Profiled

theorem number_cases (h : d.Profiled) (name : String) :
    (∃ id, d.store.fieldId? name = .ok (some id) ∧ d.number name = .ok id) ∨
      d.store.fieldId? name = .ok none ∧ (d.number name = .error (.unknownField name) ∨
        ∃ id, d.number name = .ok id ∧ d.store.fields.contains id = false) :=
  Desk.number_cases h.connected h.fields h.known name

theorem number_of_fieldId? (h : d.Profiled) (looked : d.store.fieldId? name = .ok (some id)) :
    d.number name = .ok id := by
  rcases h.number_cases name with ⟨_, looked', number⟩ | ⟨unknown, _⟩
  · cases looked.symm.trans looked'
    exact number
  · cases looked.symm.trans unknown

theorem fieldId?_of_place (h : d.Profiled) (there : d.place name userId = .ok id) :
    d.store.fieldId? name = .ok (some id) := by
  obtain ⟨number, _, inUse⟩ := place_eq_ok.mp there
  rcases h.number_cases name with ⟨_, looked, number'⟩ | ⟨_, unknown | ⟨_, number', gone⟩⟩
  · cases number.symm.trans number'
    exact looked
  · cases number.symm.trans unknown
  · cases number.symm.trans number'
    cases inUse.symm.trans gone

theorem place_of_fieldId? (h : d.Profiled) (looked : d.store.fieldId? name = .ok (some id))
    (there : d.store.users.contains userId = true) : d.place name userId = .ok id :=
  place_eq_ok.mpr ⟨h.number_of_fieldId? looked, there, Store.contains_of_fieldId? looked⟩

/-- There is no place for someone who is not there, nor for a field that is not. -/
theorem place_error (h : d.Profiled) (missing : d.place name userId = .error e) :
    (d.store.users.contains userId = false ∨ d.store.fieldId? name = .ok none) ∧
      (e = .unknownField name ∨ e = .store .foreignKeyViolation) := by
  rcases h.number_cases name with ⟨id, looked, number⟩ | ⟨unknown, failed | ⟨id, number, gone⟩⟩
  · rw [place_of_number number, Store.contains_of_fieldId? looked, Bool.and_true] at missing
    split at missing
    next => cases missing
    next nobody =>
      cases missing
      exact ⟨.inl (Bool.eq_false_iff.mpr nobody), .inr rfl⟩
  · rw [place, failed] at missing
    cases missing
    exact ⟨.inr unknown, .inl rfl⟩
  · rw [place_of_number number, gone, Bool.and_false, if_neg Bool.false_ne_true] at missing
    cases missing
    exact ⟨.inr unknown, .inr rfl⟩

theorem place_isError (h : d.Profiled)
    (missing : d.store.users.contains userId = false ∨ d.store.fieldId? name = .ok none) :
    ∃ e, d.place name userId = .error e := by
  cases there : d.place name userId with
  | error e => exact ⟨e, rfl⟩
  | ok id =>
      have looked := h.fieldId?_of_place there
      obtain ⟨_, user, _⟩ := place_eq_ok.mp there
      rcases missing with nobody | unknown
      · cases user.symm.trans nobody
      · cases looked.symm.trans unknown

theorem place_injective (h : d.Profiled) (there : d.place name userId = .ok id)
    (there' : d.place other user = .ok id) : name = other :=
  Store.fieldId?_injective (h.fieldId?_of_place there) (h.fieldId?_of_place there')

/-- The store refuses a value just where there is no place for it. -/
theorem refusal?_eq (h : d.Profiled) (userId id : Int) : d.store.refusal? userId id =
    if d.store.users.contains userId && d.store.fields.contains id then none
    else some .foreignKeyViolation := by
  rw [Store.refusal?, if_pos h.values]
  cases empty : (d.store.texts userId id).isEmpty with
  | true => cases d.store.users.contains userId && d.store.fields.contains id <;> rfl
  | false =>
      obtain ⟨user, field⟩ := h.owned userId id fun none => by
        rw [none] at empty
        cases empty
      rw [user, field]
      rfl

theorem of_frame (h : d.Profiled) (frame : d.Frame [.values] d')
    (single : ∀ userId fieldId, (d'.store.texts userId fieldId).length ≤ 1)
    (owned : ∀ userId fieldId, d'.store.texts userId fieldId ≠ [] →
      d'.store.users.contains userId = true ∧ d'.store.fields.contains fieldId = true) :
    d'.Profiled where
  connected := frame.connected.trans h.connected
  fields := (frame.store.has .fields).trans h.fields
  values := (frame.store.has .values).trans h.values
  known := frame.known_or_gone h.known
  single := single
  owned := owned

end Profiled

end Desk

end Dues
