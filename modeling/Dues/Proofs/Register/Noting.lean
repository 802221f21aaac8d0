import Dues.Proofs.Register.Basic

/-! # What keeping a value comes to

A profile value is overwritten where there is one for the user and the field, and is a new row where
there is none. Where it cannot be kept, the store stays as it is.
-/

namespace Dues

open Store (Table)

namespace Store

variable {s : Store} {userId fieldId i : Int} {text : String} {v : ValueRow} {values : Table ValueRow}

/-- The values once one is kept for a user and a field: in the place of the one that was there, or
as a new row. -/
inductive Noted (s : Store) (userId fieldId : Int) (text : String) : Table ValueRow → Prop
  | replaced (id : Int) (old : ValueRow) (row : s.values.find? id = some old)
      (own : old.userId = userId ∧ old.fieldId = fieldId) :
      s.Noted userId fieldId text
        (s.values.update (fun i _ => i == id) fun v => { v with text })
  | added (free : ∀ i v, s.values.find? i = some v → ¬ (v.userId = userId ∧ v.fieldId = fieldId))
      (user : ∃ user, s.users.find? userId = some user) :
      s.Noted userId fieldId text (s.values.insert ⟨userId, fieldId, text⟩)

/-- Whose value it is stays, and there is a new one only where there was none. -/
theorem Noted.keys (h : s.Noted userId fieldId text values) (row : values.find? i = some v) :
    (∃ old, s.values.find? i = some old ∧ old.userId = v.userId ∧ old.fieldId = v.fieldId) ∨
      (i = s.values.nextId ∧ v.userId = userId ∧ v.fieldId = fieldId ∧
        (∃ user, s.users.find? userId = some user) ∧
        ∀ j w, s.values.find? j = some w → ¬ (w.userId = userId ∧ w.fieldId = fieldId)) := by
  cases h with
  | replaced id old _ own =>
      rw [Table.find?_update] at row
      obtain ⟨before, found, changed⟩ := Option.map_eq_some_iff.mp row
      apply Or.inl
      refine ⟨before, found, ?_⟩
      split at changed
      next =>
        cases changed
        exact ⟨rfl, rfl⟩
      next =>
        cases changed
        exact ⟨rfl, rfl⟩
  | added free user =>
      rw [Table.find?_insert] at row
      split at row
      next new =>
        cases row
        exact .inr ⟨new, rfl, rfl, user, free⟩
      next => exact .inl ⟨v, row, rfl, rfl⟩

theorem Noted.texts (h : s.Noted userId fieldId text values) (row : values.find? i = some v) :
    s.values.find? i = some v ∨ (v.userId = userId ∧ v.fieldId = fieldId ∧ v.text = text) := by
  cases h with
  | replaced id old found own =>
      rw [Table.find?_update] at row
      obtain ⟨before, found', changed⟩ := Option.map_eq_some_iff.mp row
      split at changed
      next chosen =>
        cases changed
        obtain rfl : i = id := beq_iff_eq.mp chosen
        cases found.symm.trans found'
        exact .inr ⟨own.1, own.2, rfl⟩
      next =>
        cases changed
        exact .inl found'
  | added free user =>
      rw [Table.find?_insert] at row
      split at row
      next =>
        cases row
        exact .inr ⟨rfl, rfl, rfl⟩
      next => exact .inl row

theorem Noted.holds (h : s.Noted userId fieldId text values) :
    ∃ i, values.find? i = some ⟨userId, fieldId, text⟩ := by
  cases h with
  | replaced id old row own =>
      obtain ⟨rfl, rfl⟩ := own
      refine ⟨id, ?_⟩
      rw [Table.find?_update, row, Option.map_some, if_pos (beq_self_eq_true id)]
  | added => exact ⟨s.values.nextId, by rw [Table.find?_insert, if_pos rfl]⟩

theorem Noted.others (h : s.Noted userId fieldId text values) (row : s.values.find? i = some v)
    (other : v.fieldId ≠ fieldId) : values.find? i = some v := by
  cases h with
  | replaced id old found own =>
      have apart : i ≠ id := by
        rintro rfl
        cases found.symm.trans row
        exact other own.2
      rw [Table.find?_update, row, Option.map_some, if_neg (by simpa using apart)]
  | added => exact Table.find?_insert_of_some _ row

/-- Whether a text is kept for a user in the field with a name. -/
def Holds (s : Store) (userId : Int) (name text : String) : Prop :=
  ∃ fieldId i, s.fieldId? name = .ok (some fieldId) ∧
    s.values.find? i = some ⟨userId, fieldId, text⟩

end Store

namespace Register

variable {d : Desk}

/-- The number of a field is that which the store has, wherever it comes from. -/
theorem fieldNumber_installed (h : d.Installed) (name : String) :
    (∃ e, fieldNumber name d = .error e d) ∨
      ∃ id mid, fieldNumber name d = .ok id mid ∧ d.store.fieldId? name = .ok (some id) := by
  rcases fieldNumber_cases name d with ⟨id, mem, run⟩ | ⟨e, run, _⟩ | ⟨id, looked, run⟩
  · exact .inr ⟨id, d, run, h.known _ mem⟩
  · exact .inl ⟨e, run⟩
  · exact .inr ⟨id, _, run, looked⟩

theorem fieldNumber_ok (h : d.Installed) {name : String} {id : Int} {d' : Desk}
    (ok : fieldNumber name d = .ok id d') : d.store.fieldId? name = .ok (some id) := by
  rcases fieldNumber_installed h name with ⟨e, failed⟩ | ⟨_, _, run, looked⟩
  · cases failed.symm.trans ok
  · cases run.symm.trans ok
    exact looked

/-- Keeping a value notes it under the number that its field has at the desk, or leaves the store as
it is. -/
theorem setValue_noted {t : ValueType} (field : ProfileField t) (userId : Int) (value : t.Value)
    (d : Desk) :
    (∃ e d', setValue field userId value d = .error e d' ∧ d'.store = d.store) ∨
      ∃ fieldId mid values d', setValue field userId value d = .ok () d' ∧
        fieldNumber field.name d = .ok fieldId mid ∧
        d.store.Noted userId fieldId (t.encode value) values ∧
        d'.store = { d.store with values } := by
  unfold setValue
  cases number : fieldNumber field.name d with
  | error e mid =>
      have frame := fieldNumber_touches field.name d
      rw [number] at frame
      exact .inl ⟨e, mid, Action.bind_of_error number, frame.store.eq⟩
  | ok fieldId mid =>
      have same := ((fieldNumber_touches _).of_ok number).store.eq
      rw [Action.bind_of_ok number]
      rcases Action.read_cases (fun s => s.value? userId fieldId) mid with
        ⟨o, looked, read⟩ | ⟨e, failed, _⟩
      · have first := (Store.value?_ok.mp looked).2
        have read := Action.orFail_ok (f := RegisterError.store) |>.mpr read
        dsimp only
        rw [Action.bind_of_ok read]
        cases o with
        | some row =>
            obtain ⟨old, own⟩ := Store.Table.first?_eq_some first
            have keys : row.2.userId = userId ∧ row.2.fieldId = fieldId := by simpa using own
            rcases Action.write_cases
                (fun s => (s.updateValue row.1 (t.encode value)).map ((), ·)) mid with
              ⟨_, s', wrote, run⟩ | ⟨e, failed⟩
            · have values := (Store.updateValue_ok.mp (written_ok.mp wrote)).2
              rw [same] at values old
              exact .inr ⟨fieldId, mid, _, _, Action.orFail_ok.mpr run, rfl,
                .replaced row.1 row.2 old keys, values.symm⟩
            · exact .inl ⟨_, mid, Action.orFail_of_error failed, same⟩
        | none =>
            rcases Action.write_cases
                (fun s => (s.insertValue ⟨userId, fieldId, t.encode value⟩).map ((), ·)) mid with
              ⟨_, s', wrote, run⟩ | ⟨e, failed⟩
            · obtain ⟨_, free, ⟨user, _⟩, values⟩ := Store.insertValue_ok.mp (written_ok.mp wrote)
              rw [same] at free user values
              exact .inr ⟨fieldId, mid, _, _, Action.orFail_ok.mpr run, rfl,
                .added free (Store.Table.contains_eq_true.mp user), values⟩
            · exact .inl ⟨_, mid, Action.orFail_of_error failed, same⟩
      · exact .inl ⟨_, mid, Action.bind_of_error (Action.orFail_of_error failed), same⟩

theorem setValue_cases (h : d.Installed) {t : ValueType} (field : ProfileField t) (userId : Int)
    (value : t.Value) :
    (∃ e d', setValue field userId value d = .error e d' ∧ d'.store = d.store) ∨
      ∃ fieldId values d', setValue field userId value d = .ok () d' ∧
        d.store.fieldId? field.name = .ok (some fieldId) ∧
        d.store.Noted userId fieldId (t.encode value) values ∧
        d'.store = { d.store with values } := by
  rcases setValue_noted field userId value d with
    refused | ⟨fieldId, mid, values, d', set, number, noted, store⟩
  · exact .inl refused
  · exact .inr ⟨fieldId, values, d', set, fieldNumber_ok h number, noted, store⟩

theorem setValue_holds (h : d.Installed) {t : ValueType} {field : ProfileField t} {userId : Int}
    {value : t.Value} {d' : Desk} (ok : setValue field userId value d = .ok () d') :
    d'.store.Holds userId field.name (t.encode value) := by
  rcases setValue_cases h field userId value with
    ⟨e, _, failed, _⟩ | ⟨fieldId, values, _, set, looked, noted, store⟩
  · cases failed.symm.trans ok
  · cases set.symm.trans ok
    obtain ⟨i, row⟩ := noted.holds
    rw [store]
    exact ⟨fieldId, i, looked, row⟩

theorem setValue_keeps_held {t : ValueType} (field : ProfileField t) (other : Int) (value : t.Value)
    {userId : Int} {name text : String} (apart : field.name ≠ name) :
    Action.Keeps (fun d => d.Installed ∧ d.store.Holds userId name text)
      (setValue field other value) := by
  rintro d ⟨h, fieldId, i, looked, row⟩
  have touches := setValue_touches field other value d
  rcases setValue_cases h field other value with
    ⟨e, d', failed, same⟩ | ⟨otherId, values, d', set, looked', noted, store⟩
  · rw [failed] at touches ⊢
    refine ⟨h.of_frame touches, fieldId, i, ?_⟩
    change d'.store.fieldId? name = _ ∧ d'.store.values.find? i = _
    rw [same]
    exact ⟨looked, row⟩
  · rw [set] at touches ⊢
    refine ⟨h.of_frame touches, fieldId, i, ?_⟩
    change d'.store.fieldId? name = _ ∧ d'.store.values.find? i = _
    rw [store]
    refine ⟨looked, noted.others row ?_⟩
    rintro rfl
    exact apart (Store.fieldId?_injective looked' looked)

end Register

end Dues
