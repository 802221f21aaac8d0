import Dues.Proofs.Purchase.Visit
import Dues.Proofs.Time.MembershipYear

/-! # How memberships are extended

A completed sale sets the end of the membership of each person on it to the end of the year that was
priced, and leaves all other members alone. The year is fixed when the sale is entered, so the end
moves back where a sale for an earlier year is completed after one for a later year.
-/

namespace Dues

open Dues.Register (memberRoleId)
open Dues.Time (Instant)
open Dues.Time.MembershipYear (ends covers)

namespace Fulfilment

variable {s between s' : Store} {sale : Sale} {found : Matches} {now : Instant}
  {withAssociate : Bool} {primaryId associateId known userId : Int} {login : String}

theorem userId_pos {ends : Instant} (h : s.Provided s' login known userId now ends) :
    0 < userId := by
  rcases h.users with ⟨positive, rfl, _⟩ | ⟨_, account⟩
  · exact positive
  · obtain ⟨user, row⟩ := Store.Table.contains_eq_true.mp account.contains
    exact Store.Table.id_pos row

/-- Providing for the persons of a sale pays for exactly its household. -/
theorem Provides.paidFor
    (h : Provides s between s' sale found now withAssociate primaryId associateId) (closed : Sale)
    (primary : closed.primary.userId = primaryId)
    (associate : closed.associate.userId = associateId) :
    Store.PaidFor (Household.users closed) (ends sale.year) s s' := by
  have first := h.primary.members.paidFor
  unfold Household.users
  rw [primary, associate]
  cases counts : withAssociate && sale.associate.isPresent with
  | true =>
      have second := h.associate counts
      rw [if_pos (userId_pos second)]
      exact first.trans second.members.paidFor
  | false =>
      obtain ⟨absent, _, same⟩ := h.alone counts
      rw [absent]
      exact first.trans (.refl same)

end Fulfilment

namespace Visit

variable {d : Desk} {v : Visit}

theorem serve_paidFor (h : d.Installed) {sale : Sale} (completes : v.completes d = some sale) :
    Store.PaidFor (Household.users sale) (ends sale.year) d.store (v.serve d).2.store := by
  obtain ⟨mid, fulfil, frame⟩ := serve_completes completes
  obtain ⟨entry, found, between, primaryId, associateId, _, rfl, provides⟩ :=
    Fulfilment.fulfil_provides h fulfil
  have paid := provides.paidFor (Fulfilment.provided entry found primaryId associateId) rfl rfl
  exact paid.congr (frame.store.members (by simp))

theorem serve_members (completes : v.completes d = none) :
    (v.serve d).2.store.members = d.store.members := by
  have effect := v.serve_effect d
  generalize v.serve d = r at effect
  cases effect with
  | idle answer d' frame => exact frame.store.members (by simp)
  | enters answer d' order desk => rw [desk, Checkout.entered]
  | fulfils sale some => cases some.symm.trans completes

end Visit

/-- Whether a user is paid up for a year. -/
def Store.Covers (s : Store) (userId year : Int) : Prop :=
  ∃ i m, s.members.find? i = some m ∧ Store.isMembership userId memberRoleId m = true ∧
    covers m.ends year = true

theorem Store.covers_iff {s : Store} {userId year : Int} : s.Covers userId year ↔
    (s.members.rows.any fun r =>
      Store.isMembership userId memberRoleId r.2 && covers r.2.ends year) = true := by
  rw [Store.Table.any_rows]
  simp only [Bool.and_eq_true]
  rfl

instance (s : Store) (userId year : Int) : Decidable (s.Covers userId year) :=
  decidable_of_iff _ Store.covers_iff.symm

theorem Store.PaidFor.covers {s s' : Store} {payers : List Int} {year userId : Int}
    (h : PaidFor payers (ends year) s s') (payer : userId ∈ payers) : s'.Covers userId year := by
  obtain ⟨i, m, row, own⟩ := h.members userId payer
  obtain ⟨user, role⟩ := isMembership_eq_true.mp own
  refine ⟨i, m, row, own, ?_⟩
  rw [h.ends_eq row role (user ▸ payer)]
  exact Time.MembershipYear.covers_ends year

/-- No membership of those who pay ends earlier than before. -/
def Store.KeepsEnds (s s' : Store) : Prop :=
  ∀ i m, s.members.find? i = some m → m.roleId = memberRoleId →
    ∃ m', s'.members.find? i = some m' ∧ m'.userId = m.userId ∧ m'.roleId = memberRoleId ∧
      m.ends ≤ m'.ends

theorem Store.KeepsEnds.of_members {s s' : Store} (same : s'.members = s.members) :
    s.KeepsEnds s' := fun _ m row role => ⟨m, same ▸ row, rfl, role, Int.le_refl _⟩

namespace Desk

/-- No visit of a run makes a membership end earlier. -/
def NeverShortens (d : Desk) (visits : List Visit) : Prop :=
  ∀ before v later, visits = before ++ v :: later →
    (d.after before).store.KeepsEnds (d.after (before ++ [v])).store

/-- The ends that a user was paid up to in a run, sale by sale. -/
def payments (d : Desk) (userId : Int) : List Visit → List Instant
  | [] => []
  | v :: visits =>
      let later := payments (v.serve d).2 userId visits
      match v.completes d with
      | some sale => if userId ∈ Household.users sale then ends sale.year :: later else later
      | none => later

/-- The members are those who have paid, and each membership ends as paid for last. -/
structure Ledgered (s : Store) (paid : Int → List Instant) : Prop where
  rows : ∀ i m, s.members.find? i = some m →
    m.roleId = memberRoleId ∧ (paid m.userId).getLast? = some m.ends
  members : ∀ userId, paid userId ≠ [] → s.IsMember userId

variable {s s' : Store} {paid : Int → List Instant} {payers : List Int} {ending : Instant}

theorem Ledgered.of_members (h : Ledgered s paid) (same : s'.members = s.members) :
    Ledgered s' paid where
  rows i m row := h.rows i m (same ▸ row)
  members u some := (Store.isMember_congr same u).mpr (h.members u some)

theorem Ledgered.paidFor (h : Ledgered s paid) (step : Store.PaidFor payers ending s s') :
    Ledgered s' fun u => paid u ++ if u ∈ payers then [ending] else [] where
  rows i m row := by
    cases before : s.members.find? i with
    | none =>
        obtain ⟨role, payer, same⟩ := step.enrolled i m row before
        refine ⟨role, ?_⟩
        rw [if_pos payer, List.getLast?_concat, same]
    | some old =>
        obtain ⟨role, last⟩ := h.rows i old before
        cases row.symm.trans (step.rows i old before)
        refine ⟨Store.paidRow_roleId.trans role, ?_⟩
        rw [Store.paidRow_userId]
        by_cases payer : old.userId ∈ payers
        · rw [if_pos payer, List.getLast?_concat, Store.paidRow, if_pos ⟨role, payer⟩]
        · rw [if_neg payer, List.append_nil, Store.paidRow, if_neg fun both => payer both.2, last]
  members u some := by
    by_cases payer : u ∈ payers
    · exact step.members u payer
    · rw [if_neg payer, List.append_nil] at some
      exact step.isMember_of_isMember (h.members u some)

theorem pairwise_concat_iff {l : List Instant} (ascending : l.Pairwise (· ≤ ·)) :
    (l ++ [ending]).Pairwise (· ≤ ·) ↔ ∀ last, l.getLast? = some last → last ≤ ending := by
  rw [List.pairwise_append]
  constructor
  · intro h last known
    obtain ⟨before, rfl⟩ := List.getLast?_eq_some_iff.mp known
    exact h.2.2 last (List.mem_append_right _ List.mem_cons_self) ending List.mem_cons_self
  · intro h
    refine ⟨ascending, List.pairwise_singleton _ _, fun a mem b same => ?_⟩
    obtain rfl := List.mem_singleton.mp same
    cases known : l.getLast? with
    | none =>
        rw [List.getLast?_eq_none_iff.mp known] at mem
        cases mem
    | some last =>
        obtain ⟨before, rfl⟩ := List.getLast?_eq_some_iff.mp known
        have toLast := h last known
        rcases List.mem_append.mp mem with mem | mem
        · have beforeLast := (List.pairwise_append.mp ascending).2.2 a mem last List.mem_cons_self
          exact Int.le_trans beforeLast toLast
        · rwa [List.mem_singleton.mp mem]

/-- A payment makes no membership end earlier just where it goes as far as the one before it. -/
theorem Ledgered.keepsEnds_iff (h : Ledgered s paid) (step : Store.PaidFor payers ending s s') :
    s.KeepsEnds s' ↔
      ∀ u ∈ payers, ∀ last, (paid u).getLast? = some last → last ≤ ending := by
  constructor
  · intro kept u payer last known
    have nonempty : paid u ≠ [] := by
      intro empty
      rw [empty] at known
      cases known
    obtain ⟨i, m, row, own⟩ := h.members u nonempty
    obtain ⟨rfl, role⟩ := Store.isMembership_eq_true.mp own
    cases known.symm.trans (h.rows i m row).2
    obtain ⟨m', row', _, _, later⟩ := kept i m row role
    cases row'.symm.trans (step.rows i m row)
    rwa [Store.paidRow, if_pos ⟨role, payer⟩] at later
  · intro later i m row role
    refine ⟨_, step.rows i m row, Store.paidRow_userId, Store.paidRow_roleId.trans role, ?_⟩
    unfold Store.paidRow
    split
    next payer => exact later m.userId payer.2 m.ends (h.rows i m row).2
    next => exact Int.le_refl _

theorem Ledgered.keepsEnds_iff_ascending (h : Ledgered s paid)
    (step : Store.PaidFor payers ending s s') (ascending : ∀ u, (paid u).Pairwise (· ≤ ·)) :
    s.KeepsEnds s' ↔ ∀ u, (paid u ++ if u ∈ payers then [ending] else []).Pairwise (· ≤ ·) := by
  rw [h.keepsEnds_iff step]
  refine forall_congr' fun u => ?_
  by_cases payer : u ∈ payers
  · rw [if_pos payer, pairwise_concat_iff (ascending u)]
    exact ⟨fun h => h payer, fun h _ => h⟩
  · rw [if_neg payer, List.append_nil]
    exact ⟨fun _ => ascending u, fun _ mem => absurd mem payer⟩

theorem neverShortens_cons {d : Desk} {v : Visit} {visits : List Visit} :
    d.NeverShortens (v :: visits) ↔
      d.store.KeepsEnds (v.serve d).2.store ∧ (v.serve d).2.NeverShortens visits := by
  constructor
  · intro h
    refine ⟨h [] v visits rfl, fun before w later same => ?_⟩
    exact h (v :: before) w later (by rw [same, List.cons_append])
  · rintro ⟨first, rest⟩ before w later same
    cases before with
    | nil =>
        cases same
        exact first
    | cons u before =>
        cases same
        exact rest before w later rfl

theorem payments_cons (d : Desk) (v : Visit) (visits : List Visit) (userId : Int) {sale : Sale}
    (completes : v.completes d = some sale) :
    d.payments userId (v :: visits) =
      (if userId ∈ Household.users sale then [ends sale.year] else []) ++
        (v.serve d).2.payments userId visits := by
  rw [payments, completes]
  dsimp only
  split <;> rfl

/-- Along a run from a desk where `paid` has been paid. The invariant is that the memberships end
as paid for last, so that one is shortened just where a payment goes less far than the last one. -/
theorem neverShortens_iff_of_ledgered {d : Desk} (h : d.Installed) (ledger : Ledgered d.store paid)
    (ascending : ∀ u, (paid u).Pairwise (· ≤ ·)) (visits : List Visit) :
    d.NeverShortens visits ↔ ∀ u, (paid u ++ d.payments u visits).Pairwise (· ≤ ·) := by
  induction visits generalizing d paid with
  | nil =>
      constructor
      · intro _ u
        rw [payments, List.append_nil]
        exact ascending u
      · intro _ before v later same
        cases before <;> cases same
  | cons v visits ih =>
      have installed := h.of_frame (v.serve_frame d)
      rw [neverShortens_cons]
      cases completes : v.completes d with
      | none =>
          have same := Visit.serve_members completes
          have later : ∀ u, d.payments u (v :: visits) = (v.serve d).2.payments u visits := by
            intro u
            rw [payments, completes]
          simp only [later]
          rw [ih installed (ledger.of_members same) ascending]
          exact and_iff_right (.of_members same)
      | some sale =>
          have step := Visit.serve_paidFor h completes
          have ledger' := ledger.paidFor step
          have kept := ledger.keepsEnds_iff_ascending step ascending
          simp only [payments_cons d v visits _ completes, ← List.append_assoc]
          constructor
          · rintro ⟨first, rest⟩
            exact (ih installed ledger' (kept.mp first)).mp rest
          · intro all
            have first := fun u => (List.pairwise_append.mp (all u)).1
            exact ⟨kept.mpr first, (ih installed ledger' first).mpr all⟩

end Desk

theorem Store.KeepsEnds.trans {s s' s'' : Store} (h : s.KeepsEnds s') (h' : s'.KeepsEnds s'') :
    s.KeepsEnds s'' := by
  intro i m row role
  obtain ⟨m₁, row₁, user₁, role₁, later₁⟩ := h i m row role
  obtain ⟨m₂, row₂, user₂, role₂, later₂⟩ := h' i m₁ row₁ role₁
  exact ⟨m₂, row₂, user₂.trans user₁, role₂, Int.le_trans later₁ later₂⟩

/-- Whoever is paid up for a year stays so while no membership is made to end earlier. -/
theorem Store.KeepsEnds.covers {s s' : Store} (h : s.KeepsEnds s') {userId year : Int}
    (paidUp : s.Covers userId year) : s'.Covers userId year := by
  obtain ⟨i, m, row, own, covered⟩ := paidUp
  obtain ⟨user, role⟩ := Store.isMembership_eq_true.mp own
  obtain ⟨m', row', user', role', later⟩ := h i m row role
  refine ⟨i, m', row', Store.isMembership_eq_true.mpr ⟨user'.trans user, role'⟩, ?_⟩
  exact decide_eq_true (Int.le_trans (of_decide_eq_true covered) later)

namespace Desk

theorem NeverShortens.keepsEnds {d : Desk} {visits : List Visit} (h : d.NeverShortens visits) :
    d.store.KeepsEnds (d.after visits).store := by
  induction visits generalizing d with
  | nil => exact .of_members rfl
  | cons v visits ih =>
      obtain ⟨first, rest⟩ := neverShortens_cons.mp h
      exact first.trans (ih rest)

theorem NeverShortens.drop {d : Desk} {before later : List Visit}
    (h : d.NeverShortens (before ++ later)) : (d.after before).NeverShortens later := by
  induction before generalizing d with
  | nil => exact h
  | cons v before ih => exact ih (neverShortens_cons.mp h).2

/-- The exact condition under which no completed sale makes a membership end earlier: the sales that
name any one user are completed in the order of the ends they pay for. Whoever was paid up for a
year then stays so. -/
theorem neverShortens_iff (visits : List Visit) :
    (initial.NeverShortens visits ↔
      ∀ userId, (initial.payments userId visits).Pairwise (· ≤ ·)) ∧
    ((∀ userId, (initial.payments userId visits).Pairwise (· ≤ ·)) →
      ∀ before later, visits = before ++ later → ∀ userId year,
        (initial.after before).store.Covers userId year →
          (initial.after visits).store.Covers userId year) := by
  have ledger : Ledgered initial.store fun _ => [] := by
    have empty : initial.store.members.rows = [] := by decide +kernel
    refine ⟨fun i m row => ?_, fun u some => absurd rfl some⟩
    rw [Store.Table.find?_eq_some, empty] at row
    cases row
  have exact_condition := neverShortens_iff_of_ledgered initial_installed ledger
    (fun _ => List.Pairwise.nil) visits
  simp only [List.nil_append] at exact_condition
  refine ⟨exact_condition, ?_⟩
  rintro ascending before later rfl userId year paidUp
  have kept := (exact_condition.mpr ascending).drop.keepsEnds
  rw [after_append]
  exact kept.covers paidUp

/-- A customer fills in the form in September 2025, for 2025, and again in October, for 2026. The
payment of the second sale is reported first. -/
def lateCallback : List Visit :=
  let form : Site.MembershipForm :=
    { firstName := "Ada", lastName := "Lovelace", email := "ada@example.org" }
  [.sampleStart 1757930400 form, .sampleStart 1760522400 form, .sampleReturn 1760608800 2,
    .sampleReturn 1760695200 1]

/-- The clock never goes back, and yet the customer, who was paid up for 2026, is so no more once
the older sale is completed. -/
theorem late_callback_shortens :
    (∀ v ∈ lateCallback, v.Admissible) ∧ (lateCallback.map Visit.now).Pairwise (· ≤ ·) ∧
      ¬ initial.NeverShortens lateCallback ∧ (initial.after (lateCallback.take 3)).store.Covers 1 2026 ∧
      ¬ (initial.after lateCallback).store.Covers 1 2026 := by
  have before : (initial.after (lateCallback.take 3)).store.Covers 1 2026 := by decide +kernel
  have behind : ¬ (initial.after lateCallback).store.Covers 1 2026 := by decide +kernel
  refine ⟨?_, by decide +kernel, fun kept => ?_, before, behind⟩
  · simp only [lateCallback, List.forall_mem_cons]
    exact ⟨Visit.admissible_sampleStart (by decide +kernel) (by decide +kernel),
      Visit.admissible_sampleStart (by decide +kernel) (by decide +kernel),
      Visit.admissible_sampleReturn (by decide +kernel),
      Visit.admissible_sampleReturn (by decide +kernel), List.forall_mem_nil _⟩
  rw [← List.take_append_drop 3 lateCallback] at kept
  have covered := kept.drop.keepsEnds.covers before
  rw [← after_append, List.take_append_drop] at covered
  exact behind covered

end Desk

end Dues
