import Dues.Proofs.Register.Place
import Dues.Proofs.Register.Value

/-! # Profile values by user and field

Keeping a value fills the place of its user and its field and no other one, whatever was in it.
It is refused where there is no such place, and then nothing has changed.
-/

namespace Dues

open Dues.Action (deskOf outcome)
open Dues.Register (ValueType ProfileField RegisterError setValue value? valueOrZero)

namespace Register

/-- What is read of the texts in a place. -/
def ProfileField.reading {t : ValueType} (field : ProfileField t) :
    Option String → Except RegisterError (Option t.Value)
  | none => .ok none
  | some text =>
      match t.decode text with
      | some value => .ok (some value)
      | none => .error (.invalidValue field.name text)

theorem ProfileField.reading_some {t : ValueType} {field : ProfileField t} {text : String}
    {value : t.Value} (decoded : t.decode text = some value) :
    field.reading (some text) = .ok (some value) := by
  simp only [reading, decoded]

/-- What is read depends on what the name leads to and on the texts there. -/
theorem outcome_value? {t : ValueType} (field : ProfileField t) (userId : Int) {d : Desk}
    (reached : d.connected = true) (has : d.store.has .values = true) :
    outcome (value? field userId d) =
      (d.number field.name >>= fun id => field.reading (d.store.texts userId id).head?) := by
  unfold value?
  rcases fieldNumber_number field.name d with ⟨e, number, run⟩ | ⟨id, mid, number, run, same⟩
  · rw [Action.bind_of_error run, number]
    rfl
  · have read : (Action.read fun s => s.value? userId id) mid =
        .ok (d.store.values.first? (Store.isValueOf userId id)) mid := by
      refine Action.read_ok.mpr ⟨same.connected.trans reached, Store.value?_ok.mpr ⟨?_, ?_⟩, rfl⟩
      · rwa [same.store]
      · rw [same.store]
        rfl
    rw [Action.bind_of_ok run, Action.bind_of_ok (Action.orFail_ok.mpr read), number]
    change _ = field.reading (d.store.texts userId id).head?
    rw [Store.head?_texts]
    cases d.store.values.first? (Store.isValueOf userId id) with
    | none => rfl
    | some row =>
        unfold ProfileField.reading
        dsimp only [Option.map_some]
        cases t.decode row.2.text with
        | none => rfl
        | some value => rfl

theorem outcome_valueOrZero {t : ValueType} (field : ProfileField t) (userId : Int) (d : Desk) :
    outcome (valueOrZero field userId d) =
      (outcome (value? field userId d)).map fun found => found.getD t.zero := by
  unfold valueOrZero
  cases run : value? field userId d with
  | ok found d' =>
      rw [Action.bind_of_ok run]
      rfl
  | error e d' =>
      rw [Action.bind_of_error run]
      rfl

end Register

namespace Register

open Desk (place)

variable {d : Desk} {t : ValueType} {field : ProfileField t} {userId user id fieldId : Int}
  {value : t.Value}

/-- A value is kept in its place, or there is no such place. -/
theorem setValue_place (h : d.Profiled) (field : ProfileField t) (userId : Int) (value : t.Value) :
    (∃ e d', d.place field.name userId = .error e ∧ setValue field userId value d = .error e d' ∧
      d.Equivalent d') ∨
    ∃ id d', d.place field.name userId = .ok id ∧ setValue field userId value d = .ok () d' ∧
      d.UpToValues d' ∧ d.store.Kept userId id (t.encode value) d'.store := by
  have written := setValue_written field userId value d
  generalize setValue field userId value d = r at written
  cases written with
  | unknown e number => exact .inl ⟨e, d, by rw [place, number]; rfl, rfl, .refl d⟩
  | refused id mid e number same cause =>
      have refused := cause h.connected
      rw [h.refusal?_eq] at refused
      rw [Desk.place_of_number number]
      split at refused
      next => cases refused
      next missing =>
        cases refused
        exact .inl ⟨_, mid, if_neg missing, rfl, same⟩
  | kept id mid s' number same granted kept =>
      rw [h.refusal?_eq] at granted
      rw [Desk.place_of_number number]
      split at granted
      next there =>
        refine .inr ⟨id, _, if_pos there, rfl,
          ⟨same.connected, ⟨s'.values, kept.rest⟩, fun name => ?_⟩, kept⟩
        have fields : mid.store.SameFields s' := by
          rw [same.store, kept.rest]
          exact ⟨rfl, rfl⟩
        exact (Desk.number_withStore fields name).trans (same.number name)
      next => cases granted

theorem outcome_setValue (h : d.Profiled) (field : ProfileField t) (userId : Int)
    (value : t.Value) :
    outcome (setValue field userId value d) =
      (d.place field.name userId).map fun _ => () := by
  rcases setValue_place h field userId value with
    ⟨e, d', missing, run, _⟩ | ⟨id, d', there, run, _⟩
  · rw [run, missing]
    rfl
  · rw [run, there]
    rfl

theorem setValue_upToValues (h : d.Profiled) (field : ProfileField t) (userId : Int)
    (value : t.Value) : d.UpToValues (deskOf (setValue field userId value d)) := by
  rcases setValue_place h field userId value with
    ⟨e, d', _, run, same⟩ | ⟨id, d', _, run, same, _⟩
  · rw [run]
    exact same.upToValues
  · rw [run]
    exact same

theorem texts_setValue (h : d.Profiled) (there : d.place field.name userId = .ok id) :
    (deskOf (setValue field userId value d)).store.texts userId id = [t.encode value] := by
  rcases setValue_place h field userId value with
    ⟨_, _, missing, _⟩ | ⟨_, d', there', run, _, kept⟩
  · cases there.symm.trans missing
  · cases there.symm.trans there'
    rw [run]
    exact kept.alone (h.single userId id)

theorem texts_setValue_other (h : d.Profiled)
    (apart : ¬ (user = userId ∧ d.place field.name userId = .ok fieldId)) :
    (deskOf (setValue field userId value d)).store.texts user fieldId =
      d.store.texts user fieldId := by
  rcases setValue_place h field userId value with
    ⟨_, d', _, run, same⟩ | ⟨id, d', there, run, _, kept⟩
  · rw [run]
    exact congrArg (fun s : Store => s.texts user fieldId) same.store
  · rw [run]
    refine kept.others user fieldId ?_
    by_cases field : fieldId = id
    · subst field
      exact .inr fun own => apart ⟨own, there⟩
    · exact .inl field

theorem setValue_profiled (field : ProfileField t) (userId : Int) (value : t.Value) :
    Action.Keeps Desk.Profiled (setValue field userId value) := by
  intro d h
  have same := setValue_upToValues h field userId value
  refine h.of_frame (setValue_touches field userId value d) (fun user fieldId => ?_)
    fun user fieldId kept => ?_
  · by_cases own : user = userId ∧ d.place field.name userId = .ok fieldId
    · obtain ⟨rfl, there⟩ := own
      rw [texts_setValue h there]
      exact Nat.le_refl 1
    · rw [texts_setValue_other h own]
      exact h.single user fieldId
  · rw [same.users, same.fields]
    by_cases own : user = userId ∧ d.place field.name userId = .ok fieldId
    · obtain ⟨rfl, there⟩ := own
      exact (Desk.place_eq_ok.mp there).2
    · rw [texts_setValue_other h own] at kept
      exact h.owned user fieldId kept

theorem outcome_value?_congr {d' : Desk} (h : d.Profiled) (same : d.UpToValues d')
    (field : ProfileField t) (userId : Int) (texts : ∀ id, d.number field.name = .ok id →
      d'.store.texts userId id = d.store.texts userId id) :
    outcome (value? field userId d') = outcome (value? field userId d) := by
  rw [outcome_value? field userId h.connected h.values, outcome_value? field userId
    (same.connected.trans h.connected) ((same.has .values).trans h.values), same.number]
  cases number : d.number field.name with
  | error e => rfl
  | ok id =>
      change field.reading _ = field.reading _
      rw [texts id number]

theorem apart_of_ne (h : d.Profiled) {t' : ValueType} {other : ProfileField t'}
    (apart : user ≠ userId ∨ other.name ≠ field.name)
    (number : d.number other.name = .ok id) :
    ¬ (user = userId ∧ d.place field.name userId = .ok id) := by
  rintro ⟨rfl, there⟩
  obtain ⟨_, user, inUse⟩ := Desk.place_eq_ok.mp there
  have there' := Desk.place_eq_ok.mpr ⟨number, user, inUse⟩
  exact apart.elim (fun ne => ne rfl) fun ne => ne (h.place_injective there' there)

theorem value?_setValue_other (h : d.Profiled) {t' : ValueType} (other : ProfileField t')
    (apart : user ≠ userId ∨ other.name ≠ field.name) :
    outcome (value? other user (deskOf (setValue field userId value d))) =
      outcome (value? other user d) :=
  outcome_value?_congr h (setValue_upToValues h field userId value) other user fun _ number =>
    texts_setValue_other h (apart_of_ne h apart number)

theorem value?_of_texts (h : d.Profiled) (looked : d.store.fieldId? field.name = .ok (some id))
    {texts : List String} (held : d.store.texts userId id = texts) :
    outcome (value? field userId d) = field.reading texts.head? := by
  rw [outcome_value? field userId h.connected h.values, h.number_of_fieldId? looked]
  change field.reading _ = _
  rw [held]

theorem value?_setValue (h : d.Profiled) (looked : d.store.fieldId? field.name = .ok (some id))
    (there : d.store.users.contains userId = true) {read : t.Value}
    (decoded : t.decode (t.encode value) = some read) :
    outcome (value? field userId (deskOf (setValue field userId value d))) = .ok (some read) := by
  have behind := setValue_profiled field userId value d h
  have looked' := ((setValue_upToValues h field userId value).fieldId? field.name).trans looked
  rw [value?_of_texts behind looked' (texts_setValue h (h.place_of_fieldId? looked there))]
  exact ProfileField.reading_some decoded

theorem setValue_setValue (h : d.Profiled) (field : ProfileField t) (userId : Int)
    (value next : t.Value) :
    (deskOf (setValue field userId next d)).store.UpToRows
      (deskOf (setValue field userId next (deskOf (setValue field userId value d)))).store := by
  have behind := setValue_profiled field userId value d h
  have first := setValue_upToValues h field userId value
  have both := first.trans (setValue_upToValues behind field userId next)
  have alone := setValue_upToValues h field userId next
  have place := first.place field.name userId
  refine Store.upToRows_of_texts (alone.rest_of_common both) fun user fieldId => ?_
  by_cases own : user = userId ∧ d.place field.name userId = .ok fieldId
  · obtain ⟨rfl, there⟩ := own
    rw [texts_setValue behind (place.trans there), texts_setValue h there]
  · rw [texts_setValue_other behind (by rwa [place]), texts_setValue_other h own,
      texts_setValue_other h own]

section Commute

variable {t' : ValueType} {other : ProfileField t'} {value' : t'.Value}

/-- Behind two values for different places, each place holds what it holds behind its own value. -/
theorem texts_setValue_comm (h : d.Profiled)
    (apart : user ≠ userId ∨ other.name ≠ field.name) (someone fieldId : Int) :
    (deskOf (setValue field userId value
        (deskOf (setValue other user value' d)))).store.texts someone fieldId =
      (deskOf (setValue other user value'
        (deskOf (setValue field userId value d)))).store.texts someone fieldId := by
  have behind := setValue_profiled field userId value d h
  have behind' := setValue_profiled other user value' d h
  have place := (setValue_upToValues h field userId value).place other.name user
  have place' := (setValue_upToValues h other user value').place field.name userId
  by_cases first : someone = userId ∧ d.place field.name userId = .ok fieldId
  · obtain ⟨rfl, there⟩ := first
    -- this place is not the other value's as well: nobody has two fields in one place
    have second : ¬ (someone = user ∧ d.place other.name user = .ok fieldId) := by
      rintro ⟨rfl, there'⟩
      exact apart.elim (fun ne => ne rfl) fun ne => ne (h.place_injective there' there)
    rw [texts_setValue behind' (place'.trans there), texts_setValue_other behind (by rwa [place]),
      texts_setValue h there]
  · rw [texts_setValue_other behind' (by rwa [place'])]
    by_cases second : someone = user ∧ d.place other.name user = .ok fieldId
    · obtain ⟨rfl, there⟩ := second
      rw [texts_setValue h there, texts_setValue behind (place.trans there)]
    · rw [texts_setValue_other h second, texts_setValue_other behind (by rwa [place]),
        texts_setValue_other h first]

theorem setValue_comm (h : d.Profiled) (apart : user ≠ userId ∨ other.name ≠ field.name) :
    (deskOf (setValue other user value'
        (deskOf (setValue field userId value d)))).store.UpToRows
      (deskOf (setValue field userId value (deskOf (setValue other user value' d)))).store := by
  have first := (setValue_upToValues h field userId value).trans
    (setValue_upToValues (setValue_profiled field userId value d h) other user value')
  have second := (setValue_upToValues h other user value').trans
    (setValue_upToValues (setValue_profiled other user value' d h) field userId value)
  exact Store.upToRows_of_texts (first.rest_of_common second) (texts_setValue_comm h apart)

end Commute

/-- Whether a value can be kept does not depend on the values that are kept. -/
theorem outcome_setValue_behind (h : d.Profiled) {t' : ValueType} (other : ProfileField t')
    (user : Int) (value' : t'.Value) :
    outcome (setValue other user value' (deskOf (setValue field userId value d))) =
      outcome (setValue other user value' d) := by
  rw [outcome_setValue (setValue_profiled field userId value d h), outcome_setValue h,
    (setValue_upToValues h field userId value).place]

theorem value?_of_empty (h : d.Profiled) (looked : d.store.fieldId? field.name = .ok (some id))
    (empty : d.store.texts userId id = []) : outcome (value? field userId d) = .ok none :=
  value?_of_texts h looked empty

/-- A value is refused only if its user or its field is not there. -/
theorem setValue_refused (h : d.Profiled) {e : RegisterError}
    (failed : outcome (setValue field userId value d) = .error e) :
    (d.store.users.contains userId = false ∨ d.store.fieldId? field.name = .ok none) ∧
      (e = .unknownField field.name ∨ e = .store .foreignKeyViolation) ∧
      d.Equivalent (deskOf (setValue field userId value d)) := by
  rcases setValue_place h field userId value with
    ⟨_, d', missing, run, same⟩ | ⟨_, _, _, run, _⟩
  · rw [run] at failed ⊢
    cases failed
    obtain ⟨why, which⟩ := h.place_error missing
    exact ⟨why, which, same⟩
  · rw [run] at failed
    cases failed

end Register

/-- Profile values as whoever keeps and reads them finds them: one at most for each user and each
field. -/
structure Desk.KeyedValues (d : Desk) : Prop where
  /-- A value for a user and a field that are there is kept, in one row, and is read as it was
  written. -/
  keeps : ∀ {t : ValueType} (field : ProfileField t) (userId id : Int) (value : t.Value),
    d.store.fieldId? field.name = .ok (some id) → d.store.users.contains userId = true →
    t.Fits value →
      outcome (setValue field userId value d) = .ok () ∧
      (deskOf (setValue field userId value d)).store.texts userId id = [t.encode value] ∧
      ∃ read, t.decode (t.encode value) = some read ∧
        outcome (value? field userId (deskOf (setValue field userId value d))) = .ok (some read) ∧
        outcome (valueOrZero field userId (deskOf (setValue field userId value d))) = .ok read
  /-- What is read of other fields and for other users is what was read before. -/
  others : ∀ {t t' : ValueType} (field : ProfileField t) (other : ProfileField t')
    (userId user : Int) (value : t.Value), user ≠ userId ∨ other.name ≠ field.name →
      outcome (value? other user (deskOf (setValue field userId value d))) =
        outcome (value? other user d)
  /-- A later value comes to what it would come to if there had been no earlier one. -/
  replaces : ∀ {t : ValueType} (field : ProfileField t) (userId : Int) (value next : t.Value),
    outcome (setValue field userId next (deskOf (setValue field userId value d))) =
        outcome (setValue field userId next d) ∧
      (deskOf (setValue field userId next d)).store.UpToRows
        (deskOf (setValue field userId next (deskOf (setValue field userId value d)))).store
  /-- It does not matter which of two values for different users or fields comes first. -/
  commutes : ∀ {t t' : ValueType} (field : ProfileField t) (other : ProfileField t')
    (userId user : Int) (value : t.Value) (value' : t'.Value),
    user ≠ userId ∨ other.name ≠ field.name →
      outcome (setValue other user value' (deskOf (setValue field userId value d))) =
          outcome (setValue other user value' d) ∧
        (deskOf (setValue other user value'
          (deskOf (setValue field userId value d)))).store.UpToRows
          (deskOf (setValue field userId value (deskOf (setValue other user value' d)))).store
  /-- Where there is no row nothing is read, and then zero is taken for the value. -/
  unset : ∀ {t : ValueType} (field : ProfileField t) (userId id : Int),
    d.store.fieldId? field.name = .ok (some id) → d.store.texts userId id = [] →
      outcome (value? field userId d) = .ok none ∧
        outcome (valueOrZero field userId d) = .ok t.zero
  /-- A value for a user or a field that is not there is refused. -/
  refuses : ∀ {t : ValueType} (field : ProfileField t) (userId : Int) (value : t.Value),
    d.store.users.contains userId = false ∨ d.store.fieldId? field.name = .ok none →
      ∃ e, outcome (setValue field userId value d) = .error e
  /-- No other value is refused, and none because of another one. Nothing has changed then. -/
  refused : ∀ {t : ValueType} (field : ProfileField t) (userId : Int) (value : t.Value)
    (e : RegisterError), outcome (setValue field userId value d) = .error e →
      (d.store.users.contains userId = false ∨ d.store.fieldId? field.name = .ok none) ∧
        (e = .unknownField field.name ∨ e = .store .foreignKeyViolation) ∧
        d.Equivalent (deskOf (setValue field userId value d))

theorem Desk.Profiled.keyedValues {d : Desk} (h : d.Profiled) : d.KeyedValues where
  keeps field userId id value looked there fits := by
    have place := h.place_of_fieldId? looked there
    obtain ⟨read, decoded⟩ := Option.isSome_iff_exists.mp (ValueType.decode_encode_isSome fits)
    have found := Register.value?_setValue h looked there decoded
    refine ⟨?_, Register.texts_setValue h place, read, decoded, found, ?_⟩
    · rw [Register.outcome_setValue h, place]
      rfl
    · rw [Register.outcome_valueOrZero, found]
      rfl
  others field other userId user value apart := Register.value?_setValue_other h other apart
  replaces field userId value next :=
    ⟨Register.outcome_setValue_behind h field userId next,
      Register.setValue_setValue h field userId value next⟩
  commutes field other userId user value value' apart :=
    ⟨Register.outcome_setValue_behind h other user value', Register.setValue_comm h apart⟩
  unset field userId id looked empty := by
    have none := Register.value?_of_empty h looked empty
    refine ⟨none, ?_⟩
    rw [Register.outcome_valueOrZero, none]
    rfl
  refuses field userId value missing := by
    obtain ⟨e, nowhere⟩ := h.place_isError missing
    refine ⟨e, ?_⟩
    rw [Register.outcome_setValue h, nowhere]
    rfl
  refused field userId value e failed := Register.setValue_refused h failed

end Dues
