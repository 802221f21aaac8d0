import Dues.Proofs.Store.Basic
import Dues.Store.Upgrade
import Mathlib.Data.List.Nodup

/-! # What upgrades leave

The upgrades that are applied are always the first ones of the list, and how many they are says which
tables there are, with their columns, references and indexes, and which rows they start from. It does
not matter by which commands it came to that, nor what was kept in the tables meanwhile: taking an
upgrade back is always possible, and applying it again makes what was there before.
-/

namespace Dues

open Store (Table TableName TableDefinition)

/-! ## The first ones of a list without repetitions -/

section Nodup

variable {α β : Type} {f : α → β} {l : List α} {k : Nat} {a b : α}

theorem apart_behind (nodup : (l.map f).Nodup) (first : a ∈ l.take k) (last : b ∈ l.drop k) :
    f a ≠ f b := by
  intro same
  have disjoint := List.disjoint_take_drop nodup (Nat.le_refl k)
  rw [← List.map_take, ← List.map_drop] at disjoint
  exact disjoint (List.mem_map_of_mem first) (same ▸ List.mem_map_of_mem last)

theorem drop_of_next (next : l[k]? = some a) : l.drop k = a :: l.drop (k + 1) := by
  obtain ⟨below, rfl⟩ := List.getElem?_eq_some_iff.mp next
  exact List.drop_eq_getElem_cons below

theorem take_of_next (next : l[k]? = some a) : l.take (k + 1) = l.take k ++ [a] := by
  rw [List.take_add_one, next]
  rfl

theorem apart_from_next (nodup : (l.map f).Nodup) (next : l[k]? = some a) :
    ∀ b ∈ l.take k, f b ≠ f a := fun _ mem =>
  apart_behind nodup mem (by simp [drop_of_next next])

theorem filter_of_first {p : α → Bool} (first : ∀ a ∈ l.take k, p a = true)
    (last : ∀ b ∈ l.drop k, p b = false) :
    l.filter p = l.take k ∧ l.filter (fun a => !p a) = l.drop k := by
  have whole := List.take_append_drop k l
  constructor
  · calc l.filter p = (l.take k).filter p ++ (l.drop k).filter p := by
          rw [← List.filter_append, whole]
      _ = l.take k ++ [] := by
          rw [List.filter_eq_self.mpr first, List.filter_eq_nil_iff.mpr (by simpa using last)]
      _ = l.take k := List.append_nil _
  · calc l.filter (fun a => !p a)
        = (l.take k).filter (fun a => !p a) ++ (l.drop k).filter (fun a => !p a) := by
          rw [← List.filter_append, whole]
      _ = [] ++ l.drop k := by
          rw [List.filter_eq_nil_iff.mpr (by simpa using first),
            List.filter_eq_self.mpr (by simpa using last)]
      _ = l.drop k := List.nil_append _

theorem contains_first [BEq β] [LawfulBEq β] (mem : a ∈ l.take k) :
    ((l.take k).map f).contains (f a) = true :=
  List.contains_iff_mem.mpr (List.mem_map_of_mem mem)

theorem contains_last [BEq β] [LawfulBEq β] (nodup : (l.map f).Nodup) (mem : b ∈ l.drop k) :
    ((l.take k).map f).contains (f b) = false := by
  rw [Bool.eq_false_iff]
  intro taken
  obtain ⟨a, earlier, same⟩ := List.mem_map.mp (List.contains_iff_mem.mp taken)
  exact apart_behind nodup earlier mem same

end Nodup

/-! ## One upgrade -/

/-- A table that has just been made. -/
def Store.Table.bare {α : Type} : Table α := {}

/-- A store in which no table has been made. -/
def Store.bare : Store where
  roles := .bare
  users := .bare
  members := .bare
  fields := .bare
  values := .bare
  sales := .bare

namespace Upgrade

variable {s : Store} {k : Nat} {u : Upgrade}

def seededRoles : Table Role := roles.foldl (·.insert ·) .bare

def seededFields : Table FieldRow := fieldRows.foldl (·.insert ·) .bare

theorem seededRoles_rows :
    seededRoles.rows = (roles.zipIdx 1).map fun (role, i) => ((i : Int), role) := by
  decide +kernel

theorem seededFields_rows :
    seededFields.rows = (fieldRows.zipIdx 1).map fun (field, i) => ((i : Int), field) := by
  decide +kernel

theorem names_nodup : (all.map (·.name)).Nodup := by decide +kernel

theorem tables_nodup : (all.map (·.table.name)).Nodup := by decide +kernel

/-- The first upgrade seeds the roles and the fourth one the fields, which the others leave alone. -/
theorem seed_next (next : all[k]? = some u) (s : Store) (catalog : List TableDefinition) :
    let made := u.seed { s.clear u.table.name with catalog }
    made.catalog = catalog ∧ made.upgrades = s.upgrades ∧
      made.roles = (if k = 0 then seededRoles else s.roles) ∧
      made.fields = (if k = 3 then seededFields else s.fields) := by
  match k, next with
  | 0, rfl => exact ⟨rfl, rfl, rfl, rfl⟩
  | 1, rfl => exact ⟨rfl, rfl, rfl, rfl⟩
  | 2, rfl => exact ⟨rfl, rfl, rfl, rfl⟩
  | 3, rfl => exact ⟨rfl, rfl, rfl, rfl⟩
  | 4, rfl => exact ⟨rfl, rfl, rfl, rfl⟩
  | 5, rfl => exact ⟨rfl, rfl, rfl, rfl⟩

theorem clear_next (next : all[k]? = some u) (s : Store) :
    (s.clear u.table.name).roles = (if k = 0 then .bare else s.roles) ∧
      (s.clear u.table.name).fields = (if k = 3 then .bare else s.fields) := by
  match k, next with
  | 0, rfl => exact ⟨rfl, rfl⟩
  | 1, rfl => exact ⟨rfl, rfl⟩
  | 2, rfl => exact ⟨rfl, rfl⟩
  | 3, rfl => exact ⟨rfl, rfl⟩
  | 4, rfl => exact ⟨rfl, rfl⟩
  | 5, rfl => exact ⟨rfl, rfl⟩

theorem clear_upgrades (s : Store) (t : TableName) : (s.clear t).upgrades = s.upgrades := by
  cases t <;> rfl

end Upgrade

/-- The first `k` upgrades are applied, and nothing else made or seeded a table. -/
structure Store.AtLevel (s : Store) (k : Nat) : Prop where
  upgrades : s.upgrades = (Upgrade.all.take k).map (·.name)
  catalog : s.catalog = (Upgrade.all.take k).map (·.table)
  roles : s.roles = if 1 ≤ k then Upgrade.seededRoles else .bare
  fields : s.fields = if 4 ≤ k then Upgrade.seededFields else .bare

namespace Store.AtLevel

open Upgrade (all)

variable {s : Store} {k : Nat} {u : Upgrade}

theorem has (h : s.AtLevel k) (t : TableName) :
    s.has t = (all.take k).any fun u => u.table.name == t := by
  rw [Store.has, h.catalog, List.any_map]
  rfl

theorem applied (h : s.AtLevel k) : s.applied = all.take k := by
  rw [Store.applied, h.upgrades]
  exact (filter_of_first (fun _ => contains_first)
    fun _ => contains_last Upgrade.names_nodup).1

theorem pending (h : s.AtLevel k) : s.pending = all.drop k := by
  rw [Store.pending, h.upgrades]
  exact (filter_of_first (fun _ => contains_first)
    fun _ => contains_last Upgrade.names_nodup).2

theorem apply (h : s.AtLevel k) (next : all[k]? = some u) :
    ∃ s', u.apply s = .ok s' ∧ s'.AtLevel (k + 1) := by
  have missing : s.has u.table.name = false := by
    simpa [h.has] using apart_from_next Upgrade.tables_nodup next
  obtain ⟨catalog, upgrades, roles, fields⟩ := Upgrade.seed_next next s (s.catalog ++ [u.table])
  refine ⟨{ u.seed { s.clear u.table.name with catalog := s.catalog ++ [u.table] } with
    upgrades := s.upgrades ++ [u.name] }, ?_, ?_, ?_, ?_, ?_⟩
  · rw [Upgrade.apply, createTable, if_neg (by simp [missing])]
    simp only [bind, Except.bind, pure, Except.pure, upgrades]
  · rw [h.upgrades, take_of_next next, List.map_append]
    rfl
  · rw [catalog, h.catalog, take_of_next next, List.map_append]
    rfl
  · rw [roles, h.roles]
    split <;> grind
  · rw [fields, h.fields]
    split <;> grind

/-- Nothing refers to the table of the last upgrade in a way that keeps it from going. -/
theorem release (h : s.AtLevel (k + 1)) (next : all[k]? = some u) :
    ∃ s', s.releaseTable u.table.name = .ok s' ∧ s'.catalog = s.catalog ∧
      s'.upgrades = s.upgrades ∧ s'.roles = s.roles ∧ s'.fields = s.fields := by
  match k, next with
  | 0, rfl =>
      have nobody : s.has .members = false := by rw [h.has]; decide
      refine ⟨s, ?_, rfl, rfl, rfl, rfl⟩
      exact if_neg (by simp [nobody])
  | 1, rfl => exact ⟨_, rfl, rfl, rfl, rfl, rfl⟩
  | 2, rfl => exact ⟨_, rfl, rfl, rfl, rfl, rfl⟩
  | 3, rfl => exact ⟨_, rfl, rfl, rfl, rfl, rfl⟩
  | 4, rfl => exact ⟨_, rfl, rfl, rfl, rfl, rfl⟩
  | 5, rfl => exact ⟨_, rfl, rfl, rfl, rfl, rfl⟩

theorem revert (h : s.AtLevel (k + 1)) (next : all[k]? = some u) :
    ∃ s', u.revert s = .ok s' ∧ s'.AtLevel k := by
  have there : s.has u.table.name = true := by
    simp [h.has, take_of_next next]
  obtain ⟨free, released, catalog, upgrades, roles, fields⟩ := h.release next
  obtain ⟨clearedRoles, clearedFields⟩ := Upgrade.clear_next next free
  refine ⟨{ free.clear u.table.name with
    catalog := free.catalog.filter fun d => d.name != u.table.name
    upgrades := free.upgrades.filter (· != u.name) }, ?_, ?_, ?_, ?_, ?_⟩
  · rw [Upgrade.revert, dropTable, require, if_pos there, released]
    simp only [bind, Except.bind, pure, Except.pure, Upgrade.clear_upgrades]
  · change free.upgrades.filter (· != u.name) = _
    rw [upgrades, h.upgrades, take_of_next next]
    simpa [List.filter_append, -List.map_take] using apart_from_next Upgrade.names_nodup next
  · change free.catalog.filter (fun d => d.name != u.table.name) = _
    rw [catalog, h.catalog, take_of_next next]
    simpa [List.filter_append, -List.map_take] using apart_from_next Upgrade.tables_nodup next
  · change (free.clear u.table.name).roles = _
    rw [clearedRoles, roles, h.roles]
    grind
  · change (free.clear u.table.name).fields = _
    rw [clearedFields, fields, h.fields]
    grind

/-! ## Commands -/

theorem apply_all {l : List Upgrade} (h : s.AtLevel k) (next : l <+: all.drop k) :
    ∃ s', l.foldlM Upgrade.apply s = .ok s' ∧ s'.AtLevel (k + l.length) := by
  induction l generalizing s k with
  | nil => exact ⟨s, rfl, h⟩
  | cons u l ih =>
      obtain ⟨rest, behind⟩ := next
      have first : all[k]? = some u := by
        rw [← Nat.add_zero k, ← List.getElem?_drop, ← behind]
        rfl
      obtain ⟨mid, applied, level⟩ := h.apply first
      rw [drop_of_next first, List.cons_append, List.cons.injEq] at behind
      obtain ⟨s', rest, last⟩ := ih level ⟨rest, behind.2⟩
      refine ⟨s', ?_, ?_⟩
      · rw [List.foldlM_cons, applied]
        exact rest
      · rwa [List.length_cons, Nat.add_comm l.length, ← Nat.add_assoc]

theorem revert_all {l : List Upgrade} (h : s.AtLevel k) (le : k ≤ all.length)
    (next : l <+: (all.take k).reverse) :
    ∃ s', l.foldlM Upgrade.revert s = .ok s' ∧ s'.AtLevel (k - l.length) := by
  induction l generalizing s k with
  | nil => exact ⟨s, rfl, h⟩
  | cons u l ih =>
      obtain ⟨rest, behind⟩ := next
      cases k with
      | zero => cases behind
      | succ k =>
          have last := List.getElem?_eq_getElem le
          rw [take_of_next last, List.reverse_append, List.reverse_singleton, List.singleton_append,
            List.cons_append, List.cons.injEq] at behind
          obtain ⟨rfl, behind⟩ := behind
          obtain ⟨mid, reverted, level⟩ := h.revert last
          obtain ⟨s', rest, first⟩ := ih level (Nat.le_of_succ_le le) ⟨rest, behind⟩
          refine ⟨s', ?_, ?_⟩
          · rw [List.foldlM_cons, reverted]
            exact rest
          · rwa [List.length_cons, Nat.add_sub_add_right]

theorem upTo_takes {α : Type} (steps : Option Nat) (l : List α) : upTo steps l <+: l := by
  cases steps with
  | none => exact List.prefix_refl l
  | some n => exact List.take_prefix n l

theorem up (h : s.AtLevel k) (steps : Option Nat) :
    ∃ s', s.up steps = .ok s' ∧ s'.AtLevel (k + (upTo steps (all.drop k)).length) := by
  rw [Store.up, h.pending]
  exact h.apply_all (upTo_takes steps _)

theorem down (h : s.AtLevel k) (le : k ≤ all.length) (steps : Option Nat) :
    ∃ s', s.down steps = .ok s' ∧ s'.AtLevel (k - (upTo steps (all.take k).reverse).length) := by
  rw [Store.down, h.applied]
  exact h.revert_all le (upTo_takes steps _)

theorem bare : AtLevel .bare 0 := ⟨rfl, rfl, rfl, rfl⟩

end Store.AtLevel

/-- How many upgrades are applied after a command, if `k` were before. -/
def UpgradeCommand.level (k : Nat) : UpgradeCommand → Nat
  | .up none => Upgrade.all.length
  | .up (some n) => min (k + n) Upgrade.all.length
  | .down none => 0
  | .down (some n) => k - n
  | .fresh => Upgrade.all.length
  | .refresh => Upgrade.all.length
  | .reset => 0
  | .status => k

namespace Store.AtLevel

open Upgrade (all)

variable {s : Store} {k : Nat}

theorem upAll (h : s.AtLevel k) (le : k ≤ all.length) :
    ∃ s', s.up none = .ok s' ∧ s'.AtLevel all.length := by
  obtain ⟨s', done, level⟩ := h.up none
  refine ⟨s', done, ?_⟩
  rwa [upTo, List.length_drop, Nat.add_sub_cancel' le] at level

theorem downAll (h : s.AtLevel k) (le : k ≤ all.length) :
    ∃ s', s.down none = .ok s' ∧ s'.AtLevel 0 := by
  obtain ⟨s', done, level⟩ := h.down le none
  refine ⟨s', done, ?_⟩
  rwa [upTo, List.length_reverse, List.length_take, Nat.min_eq_left le, Nat.sub_self] at level

theorem upgrade (h : s.AtLevel k) (le : k ≤ all.length) (command : UpgradeCommand) :
    ∃ s', s.upgrade command = .ok s' ∧ s'.AtLevel (command.level k) ∧
      command.level k ≤ all.length := by
  have none_left : 0 ≤ all.length := Nat.zero_le _
  cases command with
  | up steps =>
      cases steps with
      | none =>
          obtain ⟨s', done, level⟩ := h.upAll le
          exact ⟨s', done, level, Nat.le_refl _⟩
      | some n =>
          obtain ⟨s', done, level⟩ := h.up (some n)
          have count : k + (upTo (some n) (all.drop k)).length = min (k + n) all.length := by
            simp only [upTo, List.length_take, List.length_drop]
            omega
          rw [count] at level
          exact ⟨s', done, level, Nat.min_le_right _ _⟩
  | down steps =>
      cases steps with
      | none =>
          obtain ⟨s', done, level⟩ := h.downAll le
          exact ⟨s', done, level, none_left⟩
      | some n =>
          obtain ⟨s', done, level⟩ := h.down le (some n)
          have count : k - (upTo (some n) (all.take k).reverse).length = k - n := by
            simp only [upTo, List.length_take, List.length_reverse]
            omega
          rw [count] at level
          exact ⟨s', done, level, Nat.le_trans (Nat.sub_le k n) le⟩
  | fresh =>
      obtain ⟨s', done, level⟩ := bare.upAll none_left
      exact ⟨s', done, level, Nat.le_refl _⟩
  | refresh =>
      obtain ⟨mid, reverted, bottom⟩ := h.downAll le
      obtain ⟨s', done, level⟩ := bottom.upAll none_left
      refine ⟨s', ?_, level, Nat.le_refl _⟩
      rw [Store.upgrade, reverted]
      exact done
  | reset =>
      obtain ⟨s', done, level⟩ := h.downAll le
      exact ⟨s', done, level, none_left⟩
  | status => exact ⟨s, rfl, h, le⟩

/-- Going down and up again by as many steps makes the tables and seeds that were there. -/
theorem down_up (h : s.AtLevel k) (le : k ≤ all.length) {n : Nat} (enough : n ≤ k) :
    ∃ below again, s.down (some n) = .ok below ∧ below.up (some n) = .ok again ∧
      again.AtLevel k := by
  obtain ⟨below, down, lower, bound⟩ := h.upgrade le (.down (some n))
  obtain ⟨again, up, level, _⟩ := lower.upgrade bound (.up (some n))
  have back : UpgradeCommand.level (UpgradeCommand.level k (.down (some n))) (.up (some n)) = k := by
    simp only [UpgradeCommand.level]
    omega
  exact ⟨below, again, down, up, back ▸ level⟩

theorem same {s' : Store} (h : s.AtLevel k) (h' : s'.AtLevel k) :
    s'.catalog = s.catalog ∧ s'.upgrades = s.upgrades ∧ s'.roles = s.roles ∧
      s'.fields = s.fields :=
  ⟨h'.catalog.trans h.catalog.symm, h'.upgrades.trans h.upgrades.symm,
    h'.roles.trans h.roles.symm, h'.fields.trans h.fields.symm⟩

theorem roles_rows (h : s.AtLevel k) (made : 1 ≤ k) :
    s.roles.rows = (Upgrade.roles.zipIdx 1).map fun (role, i) => ((i : Int), role) := by
  rw [h.roles, if_pos made, Upgrade.seededRoles_rows]

theorem fields_rows (h : s.AtLevel k) (made : 4 ≤ k) :
    s.fields.rows = (Upgrade.fieldRows.zipIdx 1).map fun (field, i) => ((i : Int), field) := by
  rw [h.fields, if_pos made, Upgrade.seededFields_rows]

end Store.AtLevel

/-! ## Upkeep -/

/-- What happens to a store over the years: upgrades, and users, members, values and sales that come,
change and go between them. -/
inductive Upkeep where
  | upgrade (command : UpgradeCommand)
  | keep (users : Table User) (members : Table Member) (values : Table ValueRow)
      (sales : Table SaleRecord)

namespace Upkeep

open Upgrade (all)

def level (k : Nat) : Upkeep → Nat
  | .upgrade command => command.level k
  | .keep .. => k

def act (s : Store) : Upkeep → Except StoreError Store
  | .upgrade command => s.upgrade command
  | .keep users members values sales => .ok { s with users, members, values, sales }

theorem act_atLevel {s : Store} {k : Nat} (h : s.AtLevel k) (le : k ≤ all.length)
    (step : Upkeep) :
    ∃ s', act s step = .ok s' ∧ s'.AtLevel (step.level k) ∧ step.level k ≤ all.length := by
  cases step with
  | upgrade command => exact h.upgrade le command
  | keep users members values sales =>
      exact ⟨_, rfl, ⟨h.upgrades, h.catalog, h.roles, h.fields⟩, le⟩

theorem acts_atLevel {s : Store} {k : Nat} (h : s.AtLevel k) (le : k ≤ all.length)
    (steps : List Upkeep) :
    ∃ s', steps.foldlM act s = .ok s' ∧ s'.AtLevel (steps.foldl level k) ∧
      steps.foldl level k ≤ all.length := by
  induction steps generalizing s k with
  | nil => exact ⟨s, rfl, h, le⟩
  | cons step rest ih =>
      obtain ⟨mid, first, there, bound⟩ := act_atLevel h le step
      obtain ⟨s', last, level⟩ := ih there bound
      refine ⟨s', ?_, level⟩
      rw [List.foldlM_cons, first]
      exact last

/-- From an empty database on, every command succeeds, whatever was kept in the tables of users,
members, values and sales meanwhile. The upgrades that are applied are the first `k` of the list, and
`k` alone says which tables there are, with their columns, defaults, references and indexes. The
roles and the profile fields are the rows that they start from, and going down and up again brings
back what was there. -/
theorem schema_depends_on_level (steps : List Upkeep) :
    ∃ s, steps.foldlM act .bare = .ok s ∧
      let k := steps.foldl level 0
      k ≤ all.length ∧
        s.upgrades = (all.take k).map (·.name) ∧ s.catalog = (all.take k).map (·.table) ∧
        (1 ≤ k → s.roles.rows = (Upgrade.roles.zipIdx 1).map fun (role, i) => ((i : Int), role)) ∧
        (4 ≤ k →
          s.fields.rows = (Upgrade.fieldRows.zipIdx 1).map fun (field, i) => ((i : Int), field)) ∧
        ∀ n ≤ k, ∃ below again, s.down (some n) = .ok below ∧ below.up (some n) = .ok again ∧
          again.catalog = s.catalog ∧ again.upgrades = s.upgrades ∧ again.roles = s.roles ∧
          again.fields = s.fields := by
  obtain ⟨s, done, h, le⟩ := acts_atLevel Store.AtLevel.bare (Nat.zero_le _) steps
  refine ⟨s, done, le, h.upgrades, h.catalog, h.roles_rows, h.fields_rows, fun n enough => ?_⟩
  obtain ⟨below, again, down, up, level⟩ := h.down_up le enough
  exact ⟨below, again, down, up, h.same level⟩

end Upkeep

end Dues
