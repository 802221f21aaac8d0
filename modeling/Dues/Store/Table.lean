/-! # Tables

A table keeps its rows in order of their numbers. A number is given out once: the next row is
numbered after the last one ever inserted, also when that one is gone.
-/

namespace Dues.Store

structure Table (α : Type) where
  rows : List (Int × α) := []
  lastId : Nat := 0
  /-- The rows are in order, so no two have the same number. -/
  ascending : rows.Pairwise (fun a b => a.1 < b.1) := by simp
  numbered : ∀ r ∈ rows, 0 < r.1 ∧ r.1 ≤ lastId := by simp
  deriving Repr

namespace Table

variable {α : Type}

def nextId (t : Table α) : Int := t.lastId + 1

def insert (t : Table α) (row : α) : Table α where
  rows := t.rows ++ [(t.nextId, row)]
  lastId := t.lastId + 1
  ascending := by
    refine List.pairwise_append.mpr ⟨t.ascending, by simp, fun a ha b hb => ?_⟩
    have := (t.numbered a ha).2
    simp only [List.mem_singleton] at hb
    simp only [hb, nextId]
    omega
  numbered := by
    intro r hr
    rcases List.mem_append.mp hr with hr | hr
    · have := t.numbered r hr
      omega
    · simp only [List.mem_singleton] at hr
      simp only [hr, nextId]
      omega

def find? (t : Table α) (id : Int) : Option α := (t.rows.find? fun r => r.1 == id).map (·.2)

def contains (t : Table α) (id : Int) : Bool := t.rows.any fun r => r.1 == id

/-- The rows that satisfy `p`, in order. -/
def select (t : Table α) (p : α → Bool) : List (Int × α) := t.rows.filter fun r => p r.2

/-- How many rows satisfy `p`. -/
def count (t : Table α) (p : Int → α → Bool) : Nat := t.rows.countP fun r => p r.1 r.2

/-- Changes the rows that satisfy `p`. -/
def update (t : Table α) (p : Int → α → Bool) (f : α → α) : Table α where
  rows := t.rows.map fun r => (r.1, if p r.1 r.2 then f r.2 else r.2)
  lastId := t.lastId
  ascending := List.pairwise_map.mpr t.ascending
  numbered := by
    intro r hr
    obtain ⟨old, hold, rfl⟩ := List.mem_map.mp hr
    exact t.numbered old hold

/-- Removes the rows that satisfy `p`. -/
def delete (t : Table α) (p : Int → α → Bool) : Table α where
  rows := t.rows.filter fun r => !p r.1 r.2
  lastId := t.lastId
  ascending := t.ascending.filter _
  numbered := fun r hr => t.numbered r (List.mem_filter.mp hr).1

/-- The first row that satisfies `p`, which is the one with the lowest number. -/
def first? (t : Table α) (p : α → Bool) : Option (Int × α) := t.rows.find? fun r => p r.2

end Table

end Dues.Store
