import Dues.Proofs.Store.Table
import Dues.Store.Basic

/-! # When access to the store succeeds

Each access to the store is put as a condition on the tables and on what comes out.
-/

namespace Dues.Store

open Dues.Time (Instant)

variable {s s' : Store} {id : Int}

theorem require_bind {α : Type} {t : TableName} {next : Unit → Except StoreError α} {a : α} :
    (s.require t >>= next) = .ok a ↔ s.has t = true ∧ next () = .ok a := by
  unfold require
  cases s.has t with
  | false => exact ⟨fun h => (nomatch h), fun h => (nomatch h.1)⟩
  | true => exact ⟨fun h => ⟨rfl, h⟩, And.right⟩

theorem pure_ok {α : Type} {a b : α} : (pure a : Except StoreError α) = .ok b ↔ a = b := by
  change Except.ok a = .ok b ↔ _
  rw [Except.ok.injEq]

theorem roleId?_ok {name : String} {o : Option Int} :
    s.roleId? name = .ok o ↔
      s.has .roles = true ∧ (s.roles.first? fun r => r.name == name).map (·.1) = o := by
  unfold roleId?
  rw [require_bind]
  exact and_congr_right fun _ => pure_ok

theorem fieldId?_ok {name : String} {o : Option Int} :
    s.fieldId? name = .ok o ↔
      s.has .fields = true ∧ (s.fields.first? fun f => f.internalName == name).map (·.1) = o := by
  unfold fieldId?
  rw [require_bind]
  exact and_congr_right fun _ => pure_ok

theorem field_of_fieldId? {name : String} (h : s.fieldId? name = .ok (some id)) :
    ∃ field, s.fields.find? id = some field ∧ field.internalName = name := by
  obtain ⟨⟨_, field⟩, found, rfl⟩ := Option.map_eq_some_iff.mp (fieldId?_ok.mp h).2
  obtain ⟨row, named⟩ := Table.first?_eq_some found
  exact ⟨field, row, beq_iff_eq.mp named⟩

theorem contains_of_fieldId? {name : String} (h : s.fieldId? name = .ok (some id)) :
    s.fields.contains id = true := by
  obtain ⟨field, row, _⟩ := field_of_fieldId? h
  exact Table.contains_eq_true.mpr ⟨field, row⟩

theorem fieldId?_injective {name other : String} (h : s.fieldId? name = .ok (some id))
    (h' : s.fieldId? other = .ok (some id)) : name = other := by
  obtain ⟨field, row, rfl⟩ := field_of_fieldId? h
  obtain ⟨field', row', rfl⟩ := field_of_fieldId? h'
  cases row.symm.trans row'
  rfl

theorem contains_of_roleId? {name : String} (h : s.roleId? name = .ok (some id)) :
    s.roles.contains id = true := by
  obtain ⟨⟨_, row⟩, found, rfl⟩ := Option.map_eq_some_iff.mp (roleId?_ok.mp h).2
  exact Table.contains_eq_true.mpr ⟨row, (Table.first?_eq_some found).1⟩

theorem insertUser_ok {user : User} :
    s.insertUser user = .ok (id, s') ↔
      s.has .users = true ∧ (∀ i u, s.users.find? i = some u → u.loginName ≠ user.loginName) ∧
        id = s.users.nextId ∧ s' = { s with users := s.users.insert user } := by
  unfold insertUser
  rw [require_bind]
  refine and_congr_right fun _ => ?_
  split
  next taken =>
    obtain ⟨i, u, found, same⟩ := Table.any_rows.mp taken
    exact ⟨fun h => (nomatch h), fun h => absurd (beq_iff_eq.mp same) (h.1 i u found)⟩
  next free =>
    have apart : ∀ i u, s.users.find? i = some u → u.loginName ≠ user.loginName := by
      intro i u found same
      exact free (Table.any_rows.mpr ⟨i, u, found, beq_iff_eq.mpr same⟩)
    constructor
    · intro h
      cases h
      exact ⟨apart, rfl, rfl⟩
    · rintro ⟨-, rfl, rfl⟩
      rfl

theorem usersNamed_ok {name : String} {l : List (Int × User)} :
    s.usersNamed name = .ok l ↔
      s.has .users = true ∧
        (s.users.select fun u => Text.sameIgnoringCase u.loginName name) = l := by
  unfold usersNamed
  rw [require_bind]
  exact and_congr_right fun _ => pure_ok

/-- No two accounts have login names that differ in case at most. -/
def LoginsDiffer (users : Table User) : Prop :=
  ∀ i j u v, users.find? i = some u → users.find? j = some v →
    Text.sameIgnoringCase u.loginName v.loginName = true → i = j

theorem insertMember_ok {m : Member} :
    s.insertMember m = .ok (id, s') ↔
      s.has .members = true ∧ (s.users.contains m.userId = true ∧ s.roles.contains m.roleId = true) ∧
        id = s.members.nextId ∧ s' = { s with members := s.members.insert m } := by
  unfold insertMember
  rw [require_bind]
  refine and_congr_right fun _ => ?_
  split
  next refs =>
    constructor
    · intro h
      cases h
      exact ⟨Bool.and_eq_true_iff.mp refs, rfl, rfl⟩
    · rintro ⟨-, rfl, rfl⟩
      rfl
  next broken =>
    exact ⟨fun h => (nomatch h), fun h => absurd (Bool.and_eq_true_iff.mpr h.1) broken⟩

/-- The memberships of a user in a role. -/
def isMembership (userId roleId : Int) (m : Member) : Bool := m.userId == userId && m.roleId == roleId

theorem member?_ok {userId roleId : Int} {o : Option (Int × Member)} :
    s.member? userId roleId = .ok o ↔
      s.has .members = true ∧ s.members.first? (isMembership userId roleId) = o := by
  unfold member?
  rw [require_bind]
  exact and_congr_right fun _ => pure_ok

/-- The memberships of a user in a role, with another end. -/
def withEnd (s : Store) (userId roleId : Int) (ends : Instant) : Table Member :=
  s.members.update (fun _ => isMembership userId roleId) fun m => { m with ends }

theorem setEnd_ok {userId roleId : Int} {ends : Instant} {n : Nat} :
    s.setEnd userId roleId ends = .ok (n, s') ↔
      s.has .members = true ∧ n = s.members.count (fun _ => isMembership userId roleId) ∧
        s' = { s with members := s.withEnd userId roleId ends } := by
  unfold setEnd
  rw [require_bind]
  refine and_congr_right fun _ => ?_
  constructor
  · intro h
    cases h
    exact ⟨rfl, rfl⟩
  · rintro ⟨rfl, rfl⟩
    rfl

theorem value?_ok {userId fieldId : Int} {o : Option (Int × ValueRow)} :
    s.value? userId fieldId = .ok o ↔
      s.has .values = true ∧
        (s.values.first? fun v => v.userId == userId && v.fieldId == fieldId) = o := by
  unfold value?
  rw [require_bind]
  exact and_congr_right fun _ => pure_ok

theorem updateValue_ok {text : String} :
    s.updateValue id text = .ok s' ↔
      s.has .values = true ∧
        { s with values := s.values.update (fun i _ => i == id) fun v => { v with text } } = s' := by
  unfold updateValue
  rw [require_bind]
  exact and_congr_right fun _ => pure_ok

theorem insertValue_ok {v : ValueRow} :
    s.insertValue v = .ok s' ↔
      s.has .values = true ∧
        (∀ i r, s.values.find? i = some r → ¬ (r.userId = v.userId ∧ r.fieldId = v.fieldId)) ∧
        (s.users.contains v.userId = true ∧ s.fields.contains v.fieldId = true) ∧
        s' = { s with values := s.values.insert v } := by
  unfold insertValue
  rw [require_bind]
  refine and_congr_right fun _ => ?_
  split
  next taken =>
    obtain ⟨i, r, found, same⟩ := Table.any_rows.mp taken
    exact ⟨fun h => (nomatch h), fun h => absurd (by simpa using same) (h.1 i r found)⟩
  next free =>
    have apart : ∀ i r, s.values.find? i = some r →
        ¬ (r.userId = v.userId ∧ r.fieldId = v.fieldId) := by
      rintro i r found ⟨user, field⟩
      exact free (Table.any_rows.mpr ⟨i, r, found, by simp [user, field]⟩)
    split
    next refs =>
      constructor
      · intro h
        cases h
        exact ⟨apart, Bool.and_eq_true_iff.mp refs, rfl⟩
      · rintro ⟨-, -, rfl⟩
        rfl
    next broken =>
      exact ⟨fun h => (nomatch h), fun h => absurd (Bool.and_eq_true_iff.mpr h.2.1) broken⟩

theorem insertSale_ok {record : SaleRecord} :
    s.insertSale record = .ok (id, s') ↔
      s.has .sales = true ∧ id = s.sales.nextId ∧
        s' = { s with sales := s.sales.insert record } := by
  unfold insertSale
  rw [require_bind]
  refine and_congr_right fun _ => ?_
  constructor
  · intro h
    cases h
    exact ⟨rfl, rfl⟩
  · rintro ⟨rfl, rfl⟩
    rfl

theorem sale?_ok {sale : Sale} :
    s.sale? id = .ok (some sale) ↔
      s.has .sales = true ∧ ∃ record, s.sales.find? id = some record ∧ record.sale? id = some sale := by
  unfold sale?
  rw [require_bind]
  refine and_congr_right fun _ => ?_
  cases s.sales.find? id with
  | none => exact ⟨fun h => (nomatch h), fun ⟨_, h, _⟩ => (nomatch h)⟩
  | some record =>
      dsimp only
      cases read : record.sale? id with
      | none =>
          constructor
          · intro h
            cases h
          · rintro ⟨_, ⟨⟩, h⟩
            exact nomatch read.symm.trans h
      | some other =>
          constructor
          · intro h
            cases h
            exact ⟨record, rfl, read⟩
          · rintro ⟨_, ⟨⟩, h⟩
            cases read.symm.trans h
            rfl

theorem updateSale_ok {record : SaleRecord} {n : Nat} :
    s.updateSale id record = .ok (n, s') ↔
      s.has .sales = true ∧ n = s.sales.count (fun i _ => i == id) ∧
        s' = { s with sales := s.sales.update (fun i _ => i == id) fun _ => record } := by
  unfold updateSale
  rw [require_bind]
  refine and_congr_right fun _ => ?_
  constructor
  · intro h
    cases h
    exact ⟨rfl, rfl⟩
  · rintro ⟨rfl, rfl⟩
    rfl

theorem deleteSale_ok {n : Nat} :
    s.deleteSale id = .ok (n, s') ↔
      s.has .sales = true ∧ n = s.sales.count (fun i _ => i == id) ∧
        s' = { s with sales := s.sales.delete fun i _ => i == id } := by
  unfold deleteSale
  rw [require_bind]
  refine and_congr_right fun _ => ?_
  constructor
  · intro h
    cases h
    exact ⟨rfl, rfl⟩
  · rintro ⟨rfl, rfl⟩
    rfl

end Dues.Store
