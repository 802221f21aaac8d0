import Mathlib.Data.List.Chain
import Dues.Proofs.Time.Date
import Dues.Time.London

/-! # London days

Clocks in London stay close to universal time, so they show a date whenever the year is one of the
calendar. They show midnight once every day but one, though they run backwards in autumn: no change
has ever moved them across a midnight, but for the day when London took up the common time and the
first seconds were left out.
-/

namespace Dues.Time.London

theorem offsetAfter_mem (current : Int) (changes : List (Int × Int)) (t : Int) :
    offsetAfter current changes t = current ∨ offsetAfter current changes t ∈ changes.map (·.2) := by
  induction changes generalizing current with
  | nil => exact .inl rfl
  | cons change rest ih =>
      rw [offsetAfter]
      split
      next => exact .inl rfl
      next =>
        rcases ih change.2 with same | later
        · exact .inr (by rw [same]; exact List.mem_cons_self)
        · exact .inr (List.mem_cons_of_mem _ later)

theorem changes_bounded :
    (changes.map (·.2)).all (fun o => decide (-75 ≤ o ∧ o ≤ 7200)) = true := by
  decide +kernel

theorem offset_bounds (t : Int) : -75 ≤ offset t ∧ offset t ≤ 7200 := by
  rcases offsetAfter_mem firstOffset changes t with same | mem
  · rw [offset, same]
    decide
  · exact of_decide_eq_true (List.all_eq_true.mp changes_bounded _ mem)

/-- Clocks have not been behind universal time since they were put to a common time. -/
theorem offset_nonneg {t : Int} (common : -3852662325 ≤ t) : 0 ≤ offset t := by
  have later : offset t = offsetAfter 0 changes.tail t := if_neg (Int.not_lt.mpr common)
  have counted : (changes.map (·.2)).all (fun o => decide (0 ≤ o)) = true := by decide +kernel
  rw [later]
  rcases offsetAfter_mem 0 changes.tail t with same | mem
  · exact Int.le_of_eq same.symm
  · exact of_decide_eq_true (List.all_eq_true.mp counted _ (List.mem_cons_of_mem _ mem))

/-- The clock times that each change moves clocks across, as first and first one after. They are
skipped where clocks are put forward, and shown twice where clocks are put back. -/
def shifts (current : Int) : List (Int × Int) → List (Int × Int)
  | [] => []
  | (start, next) :: rest => (start + min current next, start + max current next) :: shifts next rest

/-- Changes are listed in the order in which they happened. -/
def InOrder (moves : List (Int × Int)) : Prop := moves.Pairwise fun a b => a.1 ≤ b.1

theorem changes_inOrder : InOrder changes := by
  have : IsTrans (Int × Int) fun a b => a.1 ≤ b.1 := ⟨fun _ _ _ => Int.le_trans⟩
  have chain : changes.IsChain fun a b => a.1 ≤ b.1 := by decide +kernel
  exact List.isChain_iff_pairwise.mp chain

/-- A clock time that no change moves clocks across. -/
def Steady (shown current : Int) (moves : List (Int × Int)) : Prop :=
  ∀ g ∈ shifts current moves, shown < g.1 ∨ g.2 ≤ shown

variable {shown current : Int} {moves : List (Int × Int)}

theorem secondsShowing_of_passed {since : Int} (order : InOrder moves)
    (steady : Steady shown current moves) (after : ∀ change ∈ moves, since ≤ change.1) (passed : shown < since + current) :
    secondsShowing shown (some since) current moves = [] ∧
      ∀ t, since ≤ t → shown < t + offsetAfter current moves t := by
  induction moves generalizing since current with
  | nil =>
      refine ⟨?_, fun t le => ?_⟩
      · rw [secondsShowing, if_neg]
        simp only [Option.all_some, decide_eq_true_eq]
        omega
      · rw [offsetAfter]
        omega
  | cons change rest ih =>
      obtain ⟨start, next⟩ := change
      obtain ⟨first, order⟩ := List.pairwise_cons.mp order
      have start_ge : since ≤ start := after _ List.mem_cons_self
      have apart : shown < start + min current next ∨ start + max current next ≤ shown :=
        steady _ List.mem_cons_self
      obtain ⟨never, later⟩ := ih order (fun g mem => steady g (List.mem_cons_of_mem _ mem)) first
        (show shown < start + next by omega)
      refine ⟨?_, fun t le => ?_⟩
      · rw [secondsShowing, if_neg]
        · exact never
        · simp only [Option.all_some, Bool.and_eq_true, decide_eq_true_eq]
          omega
      · rw [offsetAfter]
        split
        next => omega
        next => exact later t (by omega)

/-- A steady time is shown once, and clocks are past it from then on. -/
theorem secondsShowing_of_steady {since : Option Int} (order : InOrder moves)
    (steady : Steady shown current moves) (after : ∀ change ∈ moves, since.all (· ≤ change.1) = true)
    (reached : since.all (· ≤ shown - current) = true) :
    ∃ s, secondsShowing shown since current moves = [s] ∧ since.all (· ≤ s) = true ∧
      ∀ t, since.all (· ≤ t) = true → (shown ≤ t + offsetAfter current moves t ↔ s ≤ t) := by
  induction moves generalizing since current with
  | nil =>
      refine ⟨shown - current, if_pos reached, reached, fun t _ => ?_⟩
      rw [offsetAfter]
      omega
  | cons change rest ih =>
      obtain ⟨start, next⟩ := change
      obtain ⟨first, order⟩ := List.pairwise_cons.mp order
      have apart : shown < start + min current next ∨ start + max current next ≤ shown :=
        steady _ List.mem_cons_self
      have steady : Steady shown next rest := fun g mem => steady g (List.mem_cons_of_mem _ mem)
      by_cases before : shown - current < start
      · -- it is shown before the change, so clocks are past it at the change and stay so
        obtain ⟨never, later⟩ := secondsShowing_of_passed order steady first
          (show shown < start + next by omega)
        refine ⟨shown - current, ?_, reached, fun t _ => ?_⟩
        · rw [secondsShowing, if_pos (Bool.and_eq_true_iff.mpr ⟨reached, decide_eq_true before⟩),
            never]
        · rw [offsetAfter]
          split
          next => omega
          next =>
            have passed := later t (by omega)
            omega
      · have reached' : (some start).all (· ≤ shown - next) = true := by
          simp only [Option.all_some, decide_eq_true_eq]
          omega
        have after' : ∀ change ∈ rest, (some start).all (· ≤ change.1) = true := by
          simpa only [Option.all_some, decide_eq_true_eq] using first
        have start_ge := after _ List.mem_cons_self
        obtain ⟨s, shows, start_le, reaches⟩ := ih order steady after' reached'
        simp only [Option.all_some, decide_eq_true_eq] at start_le reaches
        have since_le : since.all (· ≤ s) = true := by
          cases since with
          | none => rfl
          | some since =>
              simp only [Option.all_some, decide_eq_true_eq] at start_ge ⊢
              exact Int.le_trans start_ge start_le
        refine ⟨s, ?_, since_le, fun t _ => ?_⟩
        · rw [secondsShowing, if_neg, shows]
          rw [Bool.and_eq_true, decide_eq_true_eq]
          exact fun h => before h.2
        · rw [offsetAfter]
          split
          next => omega
          next => exact reaches t (by omega)

/-- The day that began without its first 75 seconds, 1 December 1847. -/
def shortDay : Int := -44591

theorem shifts_miss_midnight : (shifts firstOffset changes).all (fun g =>
    decide (g.2 ≤ -(-g.1 / secondsPerDay) * secondsPerDay ∨
      shortDay * secondsPerDay ≤ g.1 ∧ g.2 ≤ (shortDay + 1) * secondsPerDay)) = true := by
  decide +kernel

/-- Clocks in London show the midnight of every other day, and they do so once. -/
theorem midnight_shown {day : Int} (long : day ≠ shortDay) :
    ∃ s, secondsAt (secondsPerDay * day) = [s] ∧
      ∀ t, secondsPerDay * day ≤ t + offset t ↔ s ≤ t := by
  have steady : Steady (secondsPerDay * day) firstOffset changes := by
    intro g mem
    have clear := of_decide_eq_true (List.all_eq_true.mp shifts_miss_midnight g mem)
    unfold secondsPerDay shortDay at *
    omega
  have always : ∀ change ∈ changes, (none : Option Int).all (· ≤ change.1) = true := fun _ _ => rfl
  obtain ⟨s, shows, _, reaches⟩ := secondsShowing_of_steady changes_inOrder steady always rfl
  exact ⟨s, shows, fun t => reaches t rfl⟩

/-- No midnight comes long after the one of universal time, nor long before it. -/
theorem midnight_near {day s : Int} (reaches : ∀ t, secondsPerDay * day ≤ t + offset t ↔ s ≤ t) :
    secondsPerDay * day - 7200 ≤ s ∧ s ≤ secondsPerDay * day + 75 := by
  constructor
  · have shown := (reaches s).mpr (Int.le_refl s)
    have bounds := offset_bounds s
    omega
  · refine (reaches _).mp ?_
    have bounds := offset_bounds (secondsPerDay * day + 75)
    omega

/-- The calendar in London has a date while universal time is within its years. -/
theorem today_ok {now : Instant} {first last : Int} (years : firstYear < first ∧ last < lastYear)
    (from_first : .ofSeconds (secondsPerDay * yearStart first) 0 ≤ now)
    (to_last : now < .ofSeconds (secondsPerDay * yearStart (last + 1)) 0) :
    ∃ date, today now = .ok date := by
  have offset := offset_bounds now.seconds
  have from_first : secondsPerDay * yearStart first * Instant.perSecond + 0 ≤ now.nanoseconds :=
    from_first
  have to_last : now.nanoseconds < secondsPerDay * yearStart (last + 1) * Instant.perSecond + 0 :=
    to_last
  obtain ⟨day, hday⟩ : ∃ day, clock now / secondsPerDay = day := ⟨_, rfl⟩
  have near : yearStart first - 1 ≤ day ∧ day ≤ yearStart (last + 1) := by
    rw [← hday, clock]
    generalize London.offset now.seconds = ahead at offset ⊢
    unfold Instant.seconds secondsPerDay Instant.perSecond at *
    omega
  have spec := yearOfDay_spec day
  have bounds := yearStart_bounds (yearOfDay day)
  have bounds' := yearStart_bounds (yearOfDay day + 1)
  have boundsFirst := yearStart_bounds first
  have boundsLast := yearStart_bounds (last + 1)
  have year : isYear (yearOfDay day) := by
    unfold isYear firstYear lastYear at *
    omega
  obtain ⟨date, found⟩ := ofDayNumber?_isSome year
  refine ⟨date, ?_⟩
  unfold today
  rw [hday, found]

end Dues.Time.London
