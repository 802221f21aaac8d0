import Dues.Proofs.Register.Lookup

/-! # Fields that are gone

A profile field can be removed while the desk is open, and its values go with it. A number that was
looked up before then leads nowhere: numbers are not given out twice, so it is no other field's, and
whatever is to be kept under it is refused by the store.
-/

namespace Dues

open Store (Table TableName)
open Dues.Action (Keeps Touches)
open Dues.Register (ValueType ProfileField RegisterError)

namespace Store

variable {s s' : Store} {name other : String} {userId fieldId : Int} {n : Nat}

/-- The store without the field with a name. -/
def withoutField (s : Store) (name : String) : Store :=
  let gone := (s.fields.select fun f => f.internalName == name).map (·.1)
  { s with
    fields := s.fields.delete fun _ f => f.internalName == name
    values := s.values.delete fun _ v => gone.contains v.fieldId }

theorem deleteField_ok (ok : s.deleteField name = .ok (n, s')) :
    s.has .fields = true ∧ s' = s.withoutField name := by
  obtain ⟨has, done⟩ := require_bind.mp ok
  cases done
  exact ⟨has, rfl⟩

theorem fieldId?_withoutField (has : s.has .fields = true) :
    (s.withoutField name).fieldId? name = .ok none := by
  refine fieldId?_ok.mpr ⟨has, Option.map_eq_none_iff.mpr (Table.first?_eq_none.mpr ?_)⟩
  intro i f row
  rw [withoutField, Table.find?_delete, Option.filter_eq_some_iff, Bool.not_eq_true'] at row
  exact row.2

theorem fieldId?_withoutField_other (apart : other ≠ name) :
    (s.withoutField name).fieldId? other = s.fieldId? other := by
  have same : (s.withoutField name).fields.first? (fun f => f.internalName == other) =
      s.fields.first? fun f => f.internalName == other := by
    change (s.fields.delete fun _ f => f.internalName == name).first? _ = _
    refine Table.first?_delete fun i f chosen => ?_
    rw [beq_iff_eq.mp chosen]
    exact beq_false_of_ne apart
  unfold fieldId?
  rw [same]
  rfl

theorem contains_withoutField : (s.withoutField name).fields.contains fieldId = true ↔
    ∃ field, s.fields.find? fieldId = some field ∧ field.internalName ≠ name := by
  rw [Table.contains_eq_true]
  simp only [withoutField, Table.find?_delete, Option.filter_eq_some_iff, Bool.not_eq_true',
    beq_eq_false_iff_ne]

theorem texts_ne_nil : s.texts userId fieldId ≠ [] ↔
    ∃ i v, s.values.find? i = some v ∧ isValueOf userId fieldId v = true := by
  rw [ne_eq, texts_eq_nil, Table.first?_eq_none]
  simp only [Classical.not_forall, Bool.not_eq_false, exists_prop]

theorem length_texts_withoutField :
    ((s.withoutField name).texts userId fieldId).length ≤ (s.texts userId fieldId).length :=
  (List.Sublist.filterMap _ List.filter_sublist).length_le

/-- A value is still there only if its field is. -/
theorem texts_withoutField (kept : (s.withoutField name).texts userId fieldId ≠ [])
    (defined : s.texts userId fieldId ≠ [] → s.fields.contains fieldId = true) :
    (s.withoutField name).fields.contains fieldId = true := by
  obtain ⟨i, v, row, own⟩ := texts_ne_nil.mp kept
  rw [withoutField, Table.find?_delete, Option.filter_eq_some_iff, Bool.not_eq_true'] at row
  obtain ⟨row, stays⟩ := row
  obtain ⟨field, found⟩ :=
    Table.contains_eq_true.mp (defined (texts_ne_nil.mpr ⟨i, v, row, own⟩))
  refine contains_withoutField.mpr ⟨field, found, fun same => ?_⟩
  have gone : fieldId ∈ (s.fields.select fun f => f.internalName == name).map (·.1) :=
    List.mem_map.mpr ⟨(fieldId, field), Table.mem_select.mpr ⟨found, beq_iff_eq.mpr same⟩, rfl⟩
  rw [(isValueOf_eq_true.mp own).2] at stays
  cases stays.symm.trans (List.contains_iff_mem.mpr gone)

end Store

/-- A desk that is open, be it that fields have been removed since the installation. Each number
that was looked up is the field's, or the field is gone and the number is no other's. There is one
value at most for a user and a field, and its field is there. -/
structure Desk.Running (d : Desk) : Prop where
  connected : d.connected = true
  catalog : d.store.catalog = Store.initial.catalog
  roles : d.store.roles = Store.initial.roles
  known : ∀ f ∈ d.fieldIds, d.store.fieldId? f.1 = .ok (some f.2) ∨
    d.store.fieldId? f.1 = .ok none ∧ d.store.fields.contains f.2 = false
  single : ∀ userId fieldId, (d.store.texts userId fieldId).length ≤ 1
  defined : ∀ userId fieldId, d.store.texts userId fieldId ≠ [] →
    d.store.fields.contains fieldId = true

namespace Desk.Running

variable {d d' : Desk} {ts : List TableName}

theorem has (h : d.Running) (t : TableName) : d.store.has t = true := by
  unfold Store.has
  rw [h.catalog]
  exact Store.initial_has t

theorem of_frame (h : d.Running) (frame : d.Frame ts d') (values : .values ∉ ts) : d'.Running where
  connected := frame.connected.trans h.connected
  catalog := frame.store.catalog.trans h.catalog
  roles := frame.store.roles.trans h.roles
  known := frame.known_or_gone h.known
  single userId fieldId := by
    rw [Store.texts_congr (frame.store.values values)]
    exact h.single userId fieldId
  defined userId fieldId := by
    rw [Store.texts_congr (frame.store.values values), frame.store.fields]
    exact h.defined userId fieldId

theorem of_kept (h : d.Running) {userId fieldId : Int} {text : String}
    (frame : d.Frame [.values] d') (inUse : d.store.fields.contains fieldId = true)
    (kept : d.store.Kept userId fieldId text d'.store) : d'.Running where
  connected := frame.connected.trans h.connected
  catalog := frame.store.catalog.trans h.catalog
  roles := frame.store.roles.trans h.roles
  known := frame.known_or_gone h.known
  single user field := by
    by_cases own : field = fieldId ∧ user = userId
    · obtain ⟨rfl, rfl⟩ := own
      rw [kept.alone (h.single user field)]
      exact Nat.le_refl 1
    · rw [kept.others user field (by omega)]
      exact h.single user field
  defined user field there := by
    rw [frame.store.fields]
    by_cases own : field = fieldId
    · rw [own]
      exact inUse
    · rw [kept.others user field (.inl own)] at there
      exact h.defined user field there

theorem reopened (h : d.Running) : Running { d with fieldIds := [] } :=
  ⟨h.connected, h.catalog, h.roles, fun _ mem => (nomatch mem), h.single, h.defined⟩

theorem withoutField (h : d.Running) (name : String) :
    Running { d with store := d.store.withoutField name } where
  connected := h.connected
  catalog := h.catalog
  roles := h.roles
  known f mem := by
    by_cases removed : f.1 = name
    · refine .inr ⟨removed ▸ Store.fieldId?_withoutField (h.has .fields), ?_⟩
      refine Bool.eq_false_iff.mpr fun there => ?_
      obtain ⟨field, row, apart⟩ := Store.contains_withoutField.mp there
      rcases h.known f mem with looked | ⟨_, gone⟩
      · obtain ⟨field', row', named⟩ := Store.field_of_fieldId? looked
        cases row.symm.trans row'
        exact apart (named.trans removed)
      · cases gone.symm.trans (Store.Table.contains_eq_true.mpr ⟨field, row⟩)
    · rw [Store.fieldId?_withoutField_other removed]
      refine (h.known f mem).imp_right fun ⟨unknown, gone⟩ => ⟨unknown, ?_⟩
      refine Bool.eq_false_iff.mpr fun there => ?_
      obtain ⟨field, row, _⟩ := Store.contains_withoutField.mp there
      cases gone.symm.trans (Store.Table.contains_eq_true.mpr ⟨field, row⟩)
  single userId fieldId := Nat.le_trans Store.length_texts_withoutField (h.single userId fieldId)
  defined userId fieldId kept := Store.texts_withoutField kept (h.defined userId fieldId)

end Desk.Running

theorem Action.Touches.running {ε α : Type} {ts : List TableName} {act : Action ε α}
    (h : Touches ts act) (values : .values ∉ ts) : Keeps Desk.Running act :=
  fun d before => before.of_frame (h d) values

namespace Register

variable {d : Desk} {userId : Int}

theorem removeField_running (name : String) : Keeps Desk.Running (removeField name) := by
  intro d before
  rcases Action.write_cases (fun s => s.deleteField name) d with ⟨n, s', removed, run⟩ | ⟨e, failed⟩
  · obtain ⟨_, rfl⟩ := Store.deleteField_ok removed
    rw [removeField, Action.orFail_ok.mpr run]
    exact before.withoutField name
  · rw [removeField, Action.orFail_of_error failed]
    exact before

/-- A value is kept in its field, as the only one; or it is refused, and then the user or the field
is not there. -/
theorem setValue_running (h : d.Running) {t : ValueType} (field : ProfileField t) (userId : Int)
    (value : t.Value) :
    (∃ e d', setValue field userId value d = .error e d' ∧ d'.store = d.store ∧
      (d.store.users.contains userId = true → d.store.fieldId? field.name = .ok none)) ∨
    ∃ fieldId d', setValue field userId value d = .ok () d' ∧
      d.store.fieldId? field.name = .ok (some fieldId) ∧
      d.store.Kept userId fieldId (t.encode value) d'.store := by
  have numbers := Desk.number_cases h.connected (h.has .fields) h.known field.name
  have written := setValue_written field userId value d
  generalize setValue field userId value d = r at written
  cases written with
  | unknown e number =>
      refine .inl ⟨e, d, rfl, rfl, fun _ => ?_⟩
      rcases numbers with ⟨_, _, number'⟩ | ⟨unknown, _⟩
      · cases number.symm.trans number'
      · exact unknown
  | refused id mid e number same cause =>
      refine .inl ⟨.store e, mid, rfl, same.store, fun user => ?_⟩
      rcases numbers with ⟨_, looked, number'⟩ | ⟨unknown, _⟩
      · cases number.symm.trans number'
        have refused := cause h.connected
        rw [Store.refusal?, h.has, if_pos rfl, user, Store.contains_of_fieldId? looked,
          Bool.true_and, Bool.not_true, Bool.and_false] at refused
        cases refused
      · exact unknown
  | kept id mid s' number same granted kept =>
      rcases numbers with ⟨_, looked, number'⟩ | ⟨_, unknown | ⟨_, number', gone⟩⟩
      · cases number.symm.trans number'
        exact .inr ⟨id, _, rfl, looked, kept⟩
      · cases number.symm.trans unknown
      · cases number.symm.trans number'
        have empty : d.store.texts userId id = [] :=
          Decidable.byContradiction fun there => by
            cases gone.symm.trans (h.defined userId id there)
        rw [Store.refusal?, h.has, if_pos rfl, empty, gone, Bool.and_false] at granted
        cases granted

theorem setValue_keeps_running {t : ValueType} (field : ProfileField t) (userId : Int)
    (value : t.Value) : Keeps Desk.Running (setValue field userId value) := by
  intro d before
  have touches := setValue_touches field userId value d
  rcases setValue_running before field userId value with
    ⟨e, d', run, same, _⟩ | ⟨fieldId, d', run, looked, kept⟩
  · rw [run] at touches ⊢
    have frame : d.Frame [] d' := ⟨touches.connected, same ▸ .refl _, touches.known⟩
    exact before.of_frame frame List.not_mem_nil
  · rw [run] at touches ⊢
    exact before.of_kept touches (Store.contains_of_fieldId? looked) kept

end Register

end Dues
