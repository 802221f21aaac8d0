import Dues.Proofs.Store.Basic

/-! # Texts by user and field

What is kept for a user in a field, apart from the rows that it is kept in. Keeping a text writes
over the first one that is there, and row numbers do not show in what is kept.
-/

namespace Dues.Store

open Dues.Text (sameIgnoringCase)

variable {s s' : Store} {userId fieldId : Int} {text : String} {v : ValueRow}

/-- The values that belong to a user and a field. -/
def isValueOf (userId fieldId : Int) (v : ValueRow) : Bool :=
  v.userId == userId && v.fieldId == fieldId

theorem isValueOf_eq_true :
    isValueOf userId fieldId v = true ↔ v.userId = userId ∧ v.fieldId = fieldId := by
  simp [isValueOf]

/-- The texts for a user and a field in some rows. -/
def textsIn (userId fieldId : Int) (rows : List (Int × ValueRow)) : List String :=
  rows.filterMap fun r => if isValueOf userId fieldId r.2 then some r.2.text else none

theorem textsIn_append (rows rows' : List (Int × ValueRow)) :
    textsIn userId fieldId (rows ++ rows') =
      textsIn userId fieldId rows ++ textsIn userId fieldId rows' := List.filterMap_append

theorem textsIn_cons_own {id : Int} (own : isValueOf userId fieldId v = true)
    (rows : List (Int × ValueRow)) :
    textsIn userId fieldId ((id, v) :: rows) = v.text :: textsIn userId fieldId rows :=
  List.filterMap_cons_some (if_pos own)

theorem textsIn_cons_other {id : Int} (other : isValueOf userId fieldId v = false)
    (rows : List (Int × ValueRow)) :
    textsIn userId fieldId ((id, v) :: rows) = textsIn userId fieldId rows :=
  List.filterMap_cons_none (if_neg (Bool.eq_false_iff.mp other))

theorem textsIn_eq_nil {rows : List (Int × ValueRow)} :
    textsIn userId fieldId rows = [] ↔ ∀ r ∈ rows, isValueOf userId fieldId r.2 = false := by
  simp [textsIn]

/-- The texts that are kept for a user in a field, in order. -/
def texts (s : Store) (userId fieldId : Int) : List String := textsIn userId fieldId s.values.rows

theorem texts_congr (same : s'.values = s.values) (userId fieldId : Int) :
    s'.texts userId fieldId = s.texts userId fieldId := by
  unfold texts
  rw [same]

theorem holdsValue_eq_any (s : Store) (userId fieldId : Int) (text : String) :
    s.holdsValue userId fieldId text =
      (s.texts userId fieldId).any fun kept => sameIgnoringCase kept text := by
  unfold holdsValue texts
  induction s.values.rows with
  | nil => rfl
  | cons r rows ih =>
      rw [List.any_cons, ih]
      cases own : isValueOf userId fieldId r.2 with
      | true =>
          rw [textsIn_cons_own own, List.any_cons]
          rw [isValueOf] at own
          rw [own, Bool.true_and]
      | false =>
          rw [textsIn_cons_other own]
          rw [isValueOf] at own
          rw [own, Bool.false_and, Bool.false_or]

theorem texts_eq_nil :
    s.texts userId fieldId = [] ↔ s.values.first? (isValueOf userId fieldId) = none := by
  rw [texts, textsIn_eq_nil, Table.first?, List.find?_eq_none]
  simp only [Bool.not_eq_true]

/-- Keeps a text for a user in a field. -/
def keepValue (s : Store) (userId fieldId : Int) (text : String) : Except StoreError Store := do
  match ← s.value? userId fieldId with
  | some (id, _) => s.updateValue id text
  | none => s.insertValue ⟨userId, fieldId, text⟩

/-- Why a text cannot be kept, none where it can. -/
def refusal? (s : Store) (userId fieldId : Int) : Option StoreError :=
  if s.has .values then
    if (s.texts userId fieldId).isEmpty && !(s.users.contains userId && s.fields.contains fieldId)
    then some .foreignKeyViolation
    else none
  else some (.missingTable .values)

/-- What a store has once a text is kept: it stands where the first one was, and the others are as
they were. -/
structure Kept (s : Store) (userId fieldId : Int) (text : String) (s' : Store) : Prop where
  rest : s' = { s with values := s'.values }
  own : s'.texts userId fieldId = text :: (s.texts userId fieldId).tail
  others : ∀ user field, field ≠ fieldId ∨ user ≠ userId → s'.texts user field = s.texts user field

theorem Kept.alone (h : s.Kept userId fieldId text s')
    (single : (s.texts userId fieldId).length ≤ 1) : s'.texts userId fieldId = [text] := by
  rw [h.own]
  have none : (s.texts userId fieldId).tail.length = 0 := by
    rw [List.length_tail, Nat.sub_eq_zero_iff_le]
    exact single
  rw [List.length_eq_zero_iff.mp none]

theorem isValueOf_other {user field : Int} (own : v.userId = userId ∧ v.fieldId = fieldId)
    (other : field ≠ fieldId ∨ user ≠ userId) : isValueOf user field v = false := by
  refine Bool.eq_false_iff.mpr fun mine => ?_
  obtain ⟨rfl, rfl⟩ := isValueOf_eq_true.mp mine
  rcases other with other | other
  · exact other own.2
  · exact other own.1

theorem kept_of_first {id : Int}
    (first : s.values.first? (isValueOf userId fieldId) = some (id, v)) :
    s.Kept userId fieldId text
      { s with values := s.values.update (fun i _ => i == id) fun v => { v with text } } := by
  obtain ⟨own, before, behind, rows, none⟩ := List.find?_eq_some_iff_append.mp first
  dsimp only at own
  have updated := Table.rows_update_id (t := s.values) (f := fun v => { v with text }) rows
  have free : textsIn userId fieldId before = [] :=
    textsIn_eq_nil.mpr fun r mem => Bool.not_eq_true' _ |>.mp (none r mem)
  refine ⟨rfl, ?_, fun user field other => ?_⟩
  · have written : isValueOf userId fieldId { v with text } = true := own
    unfold texts
    rw [updated, rows, textsIn_append, textsIn_append, free, textsIn_cons_own own,
      textsIn_cons_own written]
    rfl
  · have apart := isValueOf_other (isValueOf_eq_true.mp own) other
    have written : isValueOf user field { v with text } = false := apart
    unfold texts
    rw [updated, rows, textsIn_append, textsIn_append, textsIn_cons_other apart,
      textsIn_cons_other written]

theorem kept_of_none (free : s.texts userId fieldId = []) :
    s.Kept userId fieldId text { s with values := s.values.insert ⟨userId, fieldId, text⟩ } := by
  refine ⟨rfl, ?_, fun user field other => ?_⟩
  · have own : isValueOf userId fieldId ⟨userId, fieldId, text⟩ = true :=
      isValueOf_eq_true.mpr ⟨rfl, rfl⟩
    rw [free]
    unfold texts at free ⊢
    rw [Table.insert, textsIn_append, free, textsIn_cons_own own]
    rfl
  · have apart : isValueOf user field ⟨userId, fieldId, text⟩ = false :=
      isValueOf_other ⟨rfl, rfl⟩ other
    unfold texts
    rw [Table.insert, textsIn_append, textsIn_cons_other apart]
    exact List.append_nil _

/-- A text is kept, or refused for the reason that `refusal?` gives. -/
theorem keepValue_cases (s : Store) (userId fieldId : Int) (text : String) :
    (∃ e, s.refusal? userId fieldId = some e ∧ s.keepValue userId fieldId text = .error e) ∨
      s.refusal? userId fieldId = none ∧
        ∃ s', s.keepValue userId fieldId text = .ok s' ∧ s.Kept userId fieldId text s' := by
  unfold refusal?
  cases has : s.has .values with
  | false =>
      refine .inl ⟨_, rfl, ?_⟩
      rw [keepValue, value?, require, has]
      rfl
  | true =>
      have looked := value?_ok.mpr ⟨has, (rfl : s.values.first? (isValueOf userId fieldId) = _)⟩
      have kept : s.keepValue userId fieldId text =
          match s.values.first? (isValueOf userId fieldId) with
          | some (id, _) => s.updateValue id text
          | none => s.insertValue ⟨userId, fieldId, text⟩ := by
        rw [keepValue, looked]
        rfl
      rw [kept]
      cases first : s.values.first? (isValueOf userId fieldId) with
      | some row =>
          have there : (s.texts userId fieldId).isEmpty = false := by
            refine Bool.eq_false_iff.mpr fun empty => ?_
            cases first.symm.trans (texts_eq_nil.mp (List.isEmpty_iff.mp empty))
          rw [there]
          exact .inr ⟨rfl, _, updateValue_ok.mpr ⟨has, rfl⟩, kept_of_first first⟩
      | none =>
          have free := texts_eq_nil.mpr first
          have apart : ∀ i r, s.values.find? i = some r →
              ¬ (r.userId = userId ∧ r.fieldId = fieldId) := fun i r row own => by
            cases (isValueOf_eq_true.mpr own).symm.trans (Table.first?_eq_none.mp first i r row)
          rw [free]
          cases known : s.users.contains userId && s.fields.contains fieldId with
          | true =>
              exact .inr ⟨rfl, _, insertValue_ok.mpr
                ⟨has, apart, Bool.and_eq_true_iff.mp known, rfl⟩, kept_of_none free⟩
          | false =>
              have unused : (s.values.rows.any fun r =>
                  r.2.userId == userId && r.2.fieldId == fieldId) = false := by
                refine Bool.eq_false_iff.mpr fun taken => ?_
                obtain ⟨i, r, row, own⟩ := Table.any_rows.mp taken
                exact apart i r row (by simpa using own)
              refine .inl ⟨_, rfl, ?_⟩
              rw [insertValue, require, has]
              dsimp only [bind, Except.bind, if_true]
              rw [unused, known]
              rfl

end Dues.Store
