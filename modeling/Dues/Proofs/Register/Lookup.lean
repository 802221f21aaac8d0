import Dues.Proofs.Register.Transparency

/-! # Desks that find the same

The number of a field is found among those that were looked up before, and in the store otherwise.
A desk may know a number from before its field was removed, and then it finds that number still. But
no number that is looked up changes what any name leads to, so two desks with one store at which all
names lead to the same numbers cannot be told apart.
-/

namespace Dues

open Dues.Register (ValueType ProfileField RegisterError fieldNumber)

namespace Action

variable {ε α : Type}

/-- What came of an action, apart from the desk behind it. -/
def outcome : EStateM.Result ε Desk α → Except ε α
  | .ok a _ => .ok a
  | .error e _ => .error e

end Action

namespace Desk

/-- What a name leads to: what was looked up before goes first. -/
def number (d : Desk) (name : String) : Except RegisterError Int :=
  match d.fieldIds.lookup name with
  | some id => .ok id
  | none =>
      if d.connected then
        match d.store.fieldId? name with
        | .ok (some id) => .ok id
        | .ok none => .error (.unknownField name)
        | .error e => .error (.store e)
      else .error (.store .closed)

/-- Two desks with one store at which all names lead to the same. -/
structure Equivalent (d d' : Desk) : Prop where
  connected : d'.connected = d.connected
  store : d'.store = d.store
  number : ∀ name, d'.number name = d.number name

variable {d d' d'' : Desk} {name : String} {id : Int} {store : Store}

theorem number_of_known (known : d.fieldIds.lookup name = some id) : d.number name = .ok id := by
  rw [number, known]

/-- Names lead to the same while tables other than that of fields are exchanged. -/
theorem number_withStore (same : d.store.SameFields store) (name : String) :
    ({ d with store } : Desk).number name = d.number name := by
  unfold number
  rw [same.fieldId?]

namespace Equivalent

theorem refl (d : Desk) : d.Equivalent d := ⟨rfl, rfl, fun _ => rfl⟩

theorem symm (h : d.Equivalent d') : d'.Equivalent d :=
  ⟨h.connected.symm, h.store.symm, fun name => (h.number name).symm⟩

theorem trans (h : d.Equivalent d') (h' : d'.Equivalent d'') : d.Equivalent d'' where
  connected := h'.connected.trans h.connected
  store := h'.store.trans h.store
  number name := (h'.number name).trans (h.number name)

theorem withStore (h : d.Equivalent d') (same : d.store.SameFields store) :
    Equivalent { d with store } { d' with store } where
  connected := h.connected
  store := rfl
  number name := by
    rw [number_withStore same, number_withStore (by rwa [h.store]), h.number]

end Equivalent

theorem Frame.known_or_gone {ts : List Store.TableName} (frame : d.Frame ts d')
    (known : ∀ f ∈ d.fieldIds, d.store.fieldId? f.1 = .ok (some f.2) ∨
      d.store.fieldId? f.1 = .ok none ∧ d.store.fields.contains f.2 = false) :
    ∀ f ∈ d'.fieldIds, d'.store.fieldId? f.1 = .ok (some f.2) ∨
      d'.store.fieldId? f.1 = .ok none ∧ d'.store.fields.contains f.2 = false := by
  intro f mem
  rw [frame.store.fieldId?, frame.store.fields]
  rcases frame.known f mem with mem | looked
  · exact known f mem
  · exact .inl looked

/-- The number of a field that is there, or that of one which is gone, or none. -/
theorem number_cases (connected : d.connected = true) (has : d.store.has .fields = true)
    (known : ∀ f ∈ d.fieldIds, d.store.fieldId? f.1 = .ok (some f.2) ∨
      d.store.fieldId? f.1 = .ok none ∧ d.store.fields.contains f.2 = false) (name : String) :
    (∃ id, d.store.fieldId? name = .ok (some id) ∧ d.number name = .ok id) ∨
      d.store.fieldId? name = .ok none ∧ (d.number name = .error (.unknownField name) ∨
        ∃ id, d.number name = .ok id ∧ d.store.fields.contains id = false) := by
  cases cached : d.fieldIds.lookup name with
  | some id =>
      have number := number_of_known cached
      obtain ⟨before, behind, split, _⟩ := List.lookup_eq_some_iff.mp cached
      rcases known (name, id) (by simp [split]) with looked | ⟨unknown, gone⟩
      · exact .inl ⟨id, looked, number⟩
      · exact .inr ⟨unknown, .inr ⟨id, number, gone⟩⟩
  | none =>
      obtain ⟨found, looked⟩ : ∃ found, d.store.fieldId? name = .ok found :=
        ⟨_, Store.fieldId?_ok.mpr ⟨has, rfl⟩⟩
      have number : d.number name = found.elim (.error (.unknownField name)) .ok := by
        rw [Desk.number, cached, if_pos connected, looked]
        cases found <;> rfl
      cases found with
      | none => exact .inr ⟨looked, .inl number⟩
      | some id => exact .inl ⟨id, looked, number⟩

theorem equivalent_of_lookup (new : d.fieldIds.lookup name = none)
    (found : d.number name = .ok id) :
    d.Equivalent { d with fieldIds := (name, id) :: d.fieldIds } := by
  refine ⟨rfl, rfl, fun other => ?_⟩
  by_cases same : other = name
  · subst same
    rw [found]
    exact number_of_known (by rw [List.lookup_cons, beq_self_eq_true])
  · unfold number
    rw [List.lookup_cons, beq_false_of_ne same]

end Desk

namespace Register

/-- The number of a field is what its name leads to. Looking it up makes no difference. -/
theorem fieldNumber_number (name : String) (d : Desk) :
    (∃ e, d.number name = .error e ∧ fieldNumber name d = .error e d) ∨
      ∃ id mid, d.number name = .ok id ∧ fieldNumber name d = .ok id mid ∧ d.Equivalent mid := by
  unfold fieldNumber
  rw [Action.bind_of_ok (rfl : (get : Action RegisterError Desk) d = .ok d d)]
  cases cached : d.fieldIds.lookup name with
  | some id => exact .inr ⟨id, d, Desk.number_of_known cached, rfl, .refl d⟩
  | none =>
      dsimp only
      by_cases reached : d.connected = true
      · cases looked : d.store.fieldId? name with
        | error e =>
            have leads : d.number name = .error (.store e) := by
              rw [Desk.number, cached, if_pos reached, looked]
            have read : Action.read (fun s => s.fieldId? name) d = .error e d := by
              rw [Action.read, if_pos reached, looked]
            exact .inl ⟨_, leads, Action.bind_of_error (Action.orFail_of_error read)⟩
        | ok found =>
            have leads : d.number name = found.elim (.error (.unknownField name)) .ok := by
              rw [Desk.number, cached, if_pos reached, looked]
              cases found <;> rfl
            have read : Action.read (fun s => s.fieldId? name) d = .ok found d :=
              Action.read_ok.mpr ⟨reached, looked, rfl⟩
            have run := Action.orFail_ok (f := RegisterError.store) |>.mpr read
            cases found with
            | none => exact .inl ⟨_, leads, Action.bind_of_ok run⟩
            | some id => exact .inr ⟨id, _, leads, Action.bind_of_ok run,
                Desk.equivalent_of_lookup cached leads⟩
      · have leads : d.number name = .error (.store .closed) := by
          rw [Desk.number, cached, if_neg reached]
        have read : Action.read (fun s => s.fieldId? name) d = .error .closed d := by
          rw [Action.read, if_neg reached]
        exact .inl ⟨_, leads, Action.bind_of_error (Action.orFail_of_error read)⟩

theorem fieldNumber_equivalent (name : String) : Respects Desk.Equivalent (fieldNumber name) := by
  intro d d' same
  have leads := same.number name
  rcases fieldNumber_number name d with ⟨e, number, run⟩ | ⟨id, mid, number, run, behind⟩
  · rcases fieldNumber_number name d' with ⟨e', number', run'⟩ | ⟨_, _, number', _⟩
    · cases number.symm.trans (leads.symm.trans number')
      rw [run, run']
      exact .error e same
    · cases number.symm.trans (leads.symm.trans number')
  · rcases fieldNumber_number name d' with ⟨_, number', _⟩ | ⟨_, mid', number', run', behind'⟩
    · cases number.symm.trans (leads.symm.trans number')
    · cases number.symm.trans (leads.symm.trans number')
      rw [run, run']
      exact .ok id ((behind.symm.trans same).trans behind')

/-- What can become of a value that is to be kept, at any desk: the name of its field leads nowhere,
or the store refuses the value, or it is kept. -/
inductive Written (d : Desk) (name : String) (userId : Int) (text : String) :
    EStateM.Result RegisterError Desk Unit → Prop
  | unknown (e : RegisterError) (number : d.number name = .error e) :
      Written d name userId text (.error e d)
  | refused (id : Int) (mid : Desk) (e : StoreError) (number : d.number name = .ok id)
      (same : d.Equivalent mid)
      (cause : d.connected = true → d.store.refusal? userId id = some e) :
      Written d name userId text (.error (.store e) mid)
  | kept (id : Int) (mid : Desk) (s' : Store) (number : d.number name = .ok id)
      (same : d.Equivalent mid) (granted : d.store.refusal? userId id = none)
      (kept : d.store.Kept userId id text s') :
      Written d name userId text (.ok () { mid with store := s' })

theorem setValue_written {t : ValueType} (field : ProfileField t) (userId : Int) (value : t.Value)
    (d : Desk) :
    Written d field.name userId (t.encode value) (setValue field userId value d) := by
  rw [setValue_eq]
  rcases fieldNumber_number field.name d with ⟨e, number, run⟩ | ⟨id, mid, number, run, same⟩
  · rw [Action.bind_of_error run]
    exact .unknown e number
  · rw [Action.bind_of_ok run]
    by_cases reached : mid.connected = true
    · rcases mid.store.keepValue_cases userId id (t.encode value) with
        ⟨e, refused, failed⟩ | ⟨granted, s', done, kept⟩
      · have wrote : Action.write (fun s =>
            (s.keepValue userId id (t.encode value)).map ((), ·)) mid = .error e mid := by
          rw [Action.write, if_pos reached, failed]
          rfl
        rw [Action.orFail_of_error wrote]
        rw [same.store] at refused
        exact .refused id mid e number same fun _ => refused
      · have wrote := write_succeeds (f := fun s => s.keepValue userId id (t.encode value))
          reached done
        rw [wrote]
        rw [same.store] at granted kept
        exact .kept id mid s' number same granted kept
    · have wrote : Action.write (fun s =>
          (s.keepValue userId id (t.encode value)).map ((), ·)) mid = .error .closed mid := by
        rw [Action.write, if_neg reached]
      rw [Action.orFail_of_error wrote]
      exact .refused id mid .closed number same fun reached' =>
        absurd (same.connected.trans reached') reached

end Register

instance : Desk.Congruence Desk.Equivalent where
  connected same := same.connected
  store same := same.store
  withStore same exchanged := same.withStore exchanged
  fieldNumber := Register.fieldNumber_equivalent

end Dues
