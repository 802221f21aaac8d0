import Dues.Store.Table

/-! # Rows by their numbers

A table is known by what stands under each number. Inserting adds one number that was not in use,
and updating changes rows where they are.
-/

namespace Dues.Store.Table

variable {α : Type} {t : Table α} {i : Int} {a : α}

theorem find?_eq_some : t.find? i = some a ↔ (i, a) ∈ t.rows := by
  unfold find?
  constructor
  · intro h
    obtain ⟨⟨j, b⟩, found, rfl⟩ := Option.map_eq_some_iff.mp h
    have same : j = i := by simpa using List.find?_some found
    exact same ▸ List.mem_of_find?_eq_some found
  · intro mem
    have ordered := t.ascending
    generalize t.rows = rows at mem ordered
    induction rows with
    | nil => cases mem
    | cons r rows ih =>
        obtain ⟨first, ordered⟩ := List.pairwise_cons.mp ordered
        rcases List.mem_cons.mp mem with rfl | mem
        · simp
        · have later := first _ mem
          have apart : (r.1 == i) = false := beq_false_of_ne (Int.ne_of_lt later)
          rw [List.find?_cons, apart]
          exact ih mem ordered

theorem find?_of_empty (empty : t.rows = []) : t.find? i = none := by
  unfold find?
  rw [empty]
  rfl

theorem contains_eq_true : t.contains i = true ↔ ∃ a, t.find? i = some a := by
  simp only [find?_eq_some, contains, List.any_eq_true, beq_iff_eq]
  constructor
  · rintro ⟨⟨_, a⟩, mem, rfl⟩
    exact ⟨a, mem⟩
  · rintro ⟨a, mem⟩
    exact ⟨(i, a), mem, rfl⟩

theorem id_pos (h : t.find? i = some a) : 0 < i := (t.numbered _ (find?_eq_some.mp h)).1

theorem id_lt_nextId (h : t.find? i = some a) : i < t.nextId := by
  have := (t.numbered _ (find?_eq_some.mp h)).2
  unfold nextId
  omega

@[simp] theorem find?_nextId : t.find? t.nextId = none := by
  cases h : t.find? t.nextId with
  | none => rfl
  | some a => exact absurd (id_lt_nextId h) (Int.lt_irrefl _)

theorem nextId_pos : 0 < t.nextId := by
  unfold nextId
  omega

theorem nextId_insert (row : α) : (t.insert row).nextId = t.nextId + 1 := rfl

theorem find?_insert (row : α) :
    (t.insert row).find? i = if i = t.nextId then some row else t.find? i := by
  apply Option.ext
  intro a
  rw [find?_eq_some]
  simp only [insert, List.mem_append, List.mem_singleton, Prod.mk.injEq, ← find?_eq_some]
  split
  next h =>
    subst h
    simp [eq_comm]
  next h => simp [h]

theorem find?_update (p : Int → α → Bool) (f : α → α) :
    (t.update p f).find? i = (t.find? i).map fun a => if p i a then f a else a := by
  apply Option.ext
  intro a
  rw [find?_eq_some, Option.map_eq_some_iff]
  simp only [update, List.mem_map, find?_eq_some, Prod.mk.injEq]
  constructor
  · rintro ⟨⟨_, b⟩, mem, rfl, rfl⟩
    exact ⟨b, mem, rfl⟩
  · rintro ⟨b, mem, rfl⟩
    exact ⟨(i, b), mem, rfl, rfl⟩

theorem find?_insert_of_some (row : α) (h : t.find? i = some a) :
    (t.insert row).find? i = some a := by
  rw [find?_insert, if_neg (Int.ne_of_lt (id_lt_nextId h)), h]

theorem first?_eq_none {p : α → Bool} :
    t.first? p = none ↔ ∀ i a, t.find? i = some a → p a = false := by
  simp only [first?, List.find?_eq_none, find?_eq_some, Bool.not_eq_true]
  exact ⟨fun h i a mem => h (i, a) mem, fun h r mem => h r.1 r.2 mem⟩

theorem first?_eq_some {p : α → Bool} (h : t.first? p = some (i, a)) :
    t.find? i = some a ∧ p a = true := by
  have chosen := List.find?_some h
  exact ⟨find?_eq_some.mpr (List.mem_of_find?_eq_some h), chosen⟩

theorem mem_select {p : α → Bool} : (i, a) ∈ t.select p ↔ t.find? i = some a ∧ p a = true := by
  rw [select, List.mem_filter, find?_eq_some]

theorem select_eq_nil {p : α → Bool} :
    t.select p = [] ↔ ∀ i a, t.find? i = some a → p a = false := by
  simp only [select, List.filter_eq_nil_iff, find?_eq_some, Bool.not_eq_true]
  exact ⟨fun h i a mem => h (i, a) mem, fun h r mem => h r.1 r.2 mem⟩

theorem any_rows {p : Int × α → Bool} :
    t.rows.any p = true ↔ ∃ i a, t.find? i = some a ∧ p (i, a) = true := by
  simp only [List.any_eq_true, find?_eq_some]
  exact ⟨fun ⟨r, mem, h⟩ => ⟨r.1, r.2, mem, h⟩, fun ⟨i, a, mem, h⟩ => ⟨(i, a), mem, h⟩⟩

theorem find?_delete (p : Int → α → Bool) :
    (t.delete p).find? i = (t.find? i).filter fun a => !p i a := by
  apply Option.ext
  intro a
  rw [find?_eq_some, Option.filter_eq_some_iff, find?_eq_some, delete, List.mem_filter]

/-- What is looked for is found as before where nothing like it is removed. -/
theorem first?_delete {p : Int → α → Bool} {q : α → Bool}
    (apart : ∀ i a, q a = true → p i a = false) : (t.delete p).first? q = t.first? q := by
  rw [first?, first?, delete, List.find?_filter]
  congr 1
  funext r
  cases chosen : q r.2 with
  | true => simp [apart _ _ chosen]
  | false => simp

theorem rows_update_id {f : α → α} {before behind : List (Int × α)}
    (rows : t.rows = before ++ (i, a) :: behind) :
    (t.update (fun j _ => j == i) f).rows = before ++ (i, f a) :: behind := by
  have ordered := t.ascending
  rw [rows, List.pairwise_append, List.pairwise_cons] at ordered
  obtain ⟨_, ⟨later, _⟩, earlier⟩ := ordered
  have same : ∀ rest : List (Int × α), (∀ r ∈ rest, r.1 ≠ i) →
      rest.map (fun r => (r.1, if r.1 == i then f r.2 else r.2)) = rest := by
    intro rest apart
    refine (List.map_congr_left fun r mem => ?_).trans (List.map_id rest)
    rw [if_neg (by simpa using apart r mem)]
    rfl
  have first := same before fun r mem => Int.ne_of_lt (earlier r mem _ List.mem_cons_self)
  have last := same behind fun r mem => Int.ne_of_gt (later r mem)
  change t.rows.map (fun r => (r.1, if r.1 == i then f r.2 else r.2)) = _
  rw [rows, List.map_append, List.map_cons, first, last, beq_self_eq_true, if_pos rfl]

theorem count_id (h : t.find? i = some a) : (t.count fun j _ => j == i) = 1 := by
  have mem := find?_eq_some.mp h
  have ordered := t.ascending
  unfold count
  generalize t.rows = rows at mem ordered
  induction rows with
  | nil => cases mem
  | cons r rows ih =>
      obtain ⟨first, ordered⟩ := List.pairwise_cons.mp ordered
      rcases List.mem_cons.mp mem with rfl | mem
      · have rest : (rows.countP fun r => r.1 == i) = 0 := by
          rw [List.countP_eq_zero]
          intro r mem same
          have := first r mem
          simp only [beq_iff_eq] at same
          omega
        rw [List.countP_cons_of_pos (by simp), rest]
      · have later := first _ mem
        have apart : (r.1 == i) = false := beq_false_of_ne (Int.ne_of_lt later)
        simp only [List.countP_cons, apart]
        exact ih mem ordered

theorem ne_of_absent (h : t.find? i = none) : ∀ r ∈ t.rows, (r.1 == i) = false := by
  intro r mem
  apply beq_false_of_ne
  rintro rfl
  cases h.symm.trans (find?_eq_some.mpr mem)

theorem count_of_absent (h : t.find? i = none) : (t.count fun j _ => j == i) = 0 := by
  simpa [count, List.countP_eq_zero] using ne_of_absent h

theorem update_of_absent (h : t.find? i = none) (f : α → α) :
    t.update (fun j _ => j == i) f = t := by
  have same : (t.rows.map fun r => (r.1, if r.1 == i then f r.2 else r.2)) = t.rows := by
    refine (List.map_congr_left fun r mem => ?_).trans (List.map_id t.rows)
    simp [ne_of_absent h r mem]
  cases t
  simpa [update] using same

theorem delete_of_absent (h : t.find? i = none) : t.delete (fun j _ => j == i) = t := by
  have same : (t.rows.filter fun r => !(r.1 == i)) = t.rows := by
    rw [List.filter_eq_self]
    intro r mem
    simp [ne_of_absent h r mem]
  cases t
  simpa [delete] using same

end Dues.Store.Table
