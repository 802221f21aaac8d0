import Dues.Proofs.Purchase.Atomicity
import Dues.Proofs.Purchase.Completion
import Dues.Proofs.Time.SalesWindow

/-! # The time that a membership is for

A new membership begins when its sale is completed, and ends with the year that the sale was begun
for. A customer who comes back late may find the year over, and then the membership has ended before
it begins. There are three months at least from the start of a purchase until that can happen.
-/

namespace Dues

open Store (Table)
open Dues.Register (memberRoleId paidMember)
open Dues.Time (Instant)
open Dues.Time.MembershipYear (ends sold)

namespace Store

variable {s s' s'' : Store} {userId : Int} {now ending : Instant}

/-- How members may change while persons pay: memberships from before begin when they did, and new
ones begin now. -/
structure BeginsNow (now : Instant) (s s' : Store) : Prop where
  kept : ∀ i m, s.members.find? i = some m →
    ∃ m', s'.members.find? i = some m' ∧ m'.begins = m.begins
  new : ∀ i m, s.members.find? i = none → s'.members.find? i = some m → m.begins = now

namespace BeginsNow

theorem of_members (same : s'.members = s.members) : BeginsNow now s s' where
  kept i m row := ⟨m, by rwa [same], rfl⟩
  new i m fresh row := by
    rw [same, fresh] at row
    cases row

theorem trans (h : BeginsNow now s s') (h' : BeginsNow now s' s'') : BeginsNow now s s'' where
  kept i m row := by
    obtain ⟨m', row', begins⟩ := h.kept i m row
    obtain ⟨m'', row'', begins'⟩ := h'.kept i m' row'
    exact ⟨m'', row'', begins'.trans begins⟩
  new i m fresh row := by
    cases between : s'.members.find? i with
    | none => exact h'.new i m between row
    | some m' =>
        obtain ⟨_, row', begins⟩ := h'.kept i m' between
        cases row.symm.trans row'
        exact begins.trans (h.new i m' fresh between)

end BeginsNow

theorem paidRow_begins {payers : List Int} {m : Member} :
    (paidRow payers ending m).begins = m.begins := by
  unfold paidRow
  split <;> rfl

theorem PaidUp.beginsNow (h : s.PaidUp userId now ending s'.members) : BeginsNow now s s' := by
  refine ⟨fun i m row => ⟨_, h.paidFor.rows i m row, paidRow_begins⟩, fun i m fresh row => ?_⟩
  generalize s'.members = t at h row
  cases h with
  | extended =>
      rw [find?_withEnd, fresh] at row
      cases row
  | enrolled =>
      rw [Table.find?_insert, fresh] at row
      split at row
      next =>
        cases row
        rfl
      next => cases row

end Store

theorem Fulfilment.Provides.beginsNow {s between s' : Store} {sale : Sale} {found : Matches}
    {now : Instant} {withAssociate : Bool} {primaryId associateId : Int}
    (h : Provides s between s' sale found now withAssociate primaryId associateId) :
    s.BeginsNow now s' := by
  cases counts : withAssociate && sale.associate.isPresent with
  | true => exact h.primary.members.beginsNow.trans (h.associate counts).members.beginsNow
  | false => exact h.primary.members.beginsNow.trans (.of_members (h.alone counts).2.2)

namespace Visit

variable {d : Desk} {v : Visit} {i : Int}

theorem serve_beginsNow (h : d.Installed) {sale : Sale} (completes : v.completes d = some sale) :
    d.store.BeginsNow v.now (v.serve d).2.store := by
  obtain ⟨mid, fulfil, frame⟩ := serve_completes completes
  obtain ⟨_, _, _, _, _, _, _, provides⟩ := Fulfilment.fulfil_provides h fulfil
  exact provides.beginsNow.trans (.of_members (frame.store.members (by simp)))

theorem completes_of_new_member {m : Member} (new : d.store.members.find? i = none)
    (row : (v.serve d).2.store.members.find? i = some m) : ∃ sale, v.completes d = some sale := by
  cases completes : v.completes d with
  | some sale => exact ⟨sale, rfl⟩
  | none =>
      rw [serve_members completes, new] at row
      cases row

theorem serve_settles_sales {saleId : Int} (settles : v.saleId? = some saleId)
    (absent : d.store.sales.find? i = none) : (v.serve d).2.store.sales.find? i = none := by
  have served := v.serve_settles d settles
  have settled := Checkout.settle_settled v.settings v.now saleId v.paymentId d
  generalize Checkout.settle v.settings v.now saleId v.paymentId d = r at served settled
  cases settled with
  | refused e d' frame =>
      obtain ⟨answer, served, _⟩ := served
      rw [served, frame.store.eq]
      exact absent
  | complete =>
      rw [served]
      exact absent
  | fulfilled sale mid d' fulfil frame =>
      rw [served, frame.store.sales (by simp), Fulfilment.fulfil_sales fulfil,
        SaleBook.find?_replaced, absent]
      rfl
  | interrupted sale mid d' fulfil frame =>
      obtain ⟨answer, served, _⟩ := served
      rw [served, frame.store.sales (by simp), Fulfilment.fulfil_sales fulfil,
        SaleBook.find?_replaced, absent]
      rfl

/-- Only the start of a purchase adds a sale to the book, for the year that is sold then. -/
theorem serve_new_sale {record : SaleRecord} (new : d.store.sales.find? i = none)
    (row : (v.serve d).2.store.sales.find? i = some record) :
    v.order?.isSome ∧ record.year = sold v.now := by
  cases starts : v.order? with
  | none =>
      cases settles : v.saleId? with
      | none =>
          obtain ⟨_, _, same⟩ := serve_unsettled (d := d) starts settles
          rw [same, new] at row
          cases row
      | some saleId =>
          rw [serve_settles_sales settles new] at row
          cases row
  | some order =>
      have effect := v.serve_effect d
      generalize v.serve d = r at effect row
      cases effect with
      | idle answer d' frame =>
          rw [frame.store.eq, new] at row
          cases row
      | enters answer d' order desk =>
          rw [desk, Checkout.entered, Table.find?_insert, new] at row
          split at row
          next =>
            cases row
            exact ⟨rfl, rfl⟩
          next => cases row
      | fulfils sale completes mid d' fulfil frame =>
          rw [frame.store.sales (by simp), Fulfilment.fulfil_sales fulfil,
            SaleBook.find?_replaced, new] at row
          cases row

theorem completes_year {sale : Sale} (completes : v.completes d = some sale) :
    ∃ record, d.store.sales.find? sale.id = some record ∧ sale.year = record.year := by
  obtain ⟨mid, fulfil, _⟩ := serve_completes completes
  obtain ⟨_, _, _, entered, _⟩ := Fulfilment.fulfil_ok fulfil
  obtain ⟨_, record, row, _⟩ := Store.sale?_ok.mp entered
  have terms := (Fulfilment.fulfil_follows fulfil row).terms
  exact ⟨record, row, congrArg SaleRecord.year terms⟩

end Visit

namespace Desk

/-- In a run, a customer has begun the purchase with the number `i` on the visit `w`, with the
visits `before` behind it. -/
structure BegunIn (visits before : List Visit) (w : Visit) (i : Int) : Prop where
  place : ∃ later, visits = before ++ w :: later
  starts : w.order?.isSome
  new : (initial.after before).store.sales.find? i = none
  entered : ((initial.after (before ++ [w])).store.sales.find? i).isSome

/-- In a run, someone has become a member on the visit `v`, with the visits `before` behind it. -/
structure EnrolledIn (visits before : List Visit) (v : Visit) (i : Int) (m : Member) : Prop where
  place : ∃ later, visits = before ++ v :: later
  new : (initial.after before).store.members.find? i = none
  row : (initial.after (before ++ [v])).store.members.find? i = some m

variable {visits before earlier : List Visit} {v w : Visit} {i : Int} {m : Member}

theorem BegunIn.append (h : BegunIn visits before w i) (later : List Visit) :
    BegunIn (visits ++ later) before w i := by
  obtain ⟨⟨rest, rfl⟩, starts, new, entered⟩ := h
  exact ⟨⟨rest ++ later, by rw [List.append_assoc, List.cons_append]⟩, starts, new, entered⟩

/-- Every sale has been begun on a visit, and is for the year that was sold then. -/
theorem begun_in (visits : List Visit) {record : SaleRecord}
    (row : (initial.after visits).store.sales.find? i = some record) :
    ∃ before w, BegunIn visits before w i ∧ record.year = sold w.now := by
  induction visits using List.reverseRecOn generalizing record with
  | nil =>
      have empty := initial.store.sales.find?_of_empty (i := i) (by decide +kernel)
      cases row.symm.trans empty
  | append_singleton visits v ih =>
      cases old : (initial.after visits).store.sales.find? i with
      | none =>
          have entered := row
          rw [after_append] at row
          obtain ⟨starts, year⟩ := Visit.serve_new_sale old row
          refine ⟨visits, v, ⟨⟨[], rfl⟩, starts, old, ?_⟩, year⟩
          rw [entered]
          rfl
      | some earlier =>
          obtain ⟨before, w, begun, year⟩ := ih old
          obtain ⟨later, row', follows⟩ := v.serve_follows old
          rw [after_append] at row
          cases row.symm.trans row'
          exact ⟨before, w, begun.append [v],
            (congrArg SaleRecord.year follows.terms).trans year⟩

theorem BegunIn.now_le (h : BegunIn before earlier w i)
    (inOrder : ((before ++ [v]).map Visit.now).Pairwise (· ≤ ·)) : w.now ≤ v.now := by
  obtain ⟨later, rfl⟩ := h.place
  rw [List.map_append, List.pairwise_append] at inOrder
  exact inOrder.2.2 _ (List.mem_map_of_mem (by simp)) _ (List.mem_singleton_self _)

/-- The time that a new membership is for. Whatever has been visited since the installation, in the
order of time: someone becomes a member on a visit that completes a sale, in the role of those who
pay, and as one of the persons on that sale. The membership begins at that time, and ends with the
year that was sold when the purchase was begun on an earlier visit. So it does not end before it
begins if and only if the sale is completed before that year is over. That is the case if it is
completed within ninety-one days. -/
theorem membership_begins_and_ends
    (inOrder : (visits.map Visit.now).Pairwise (· ≤ ·))
    (enrolled : EnrolledIn visits before v i m) :
    ∃ sale earlier w, CompletedIn visits before v sale ∧ BegunIn before earlier w sale.id ∧
      w.now ≤ v.now ∧ m.roleId = memberRoleId ∧ m.userId ∈ Household.users sale ∧
      m.begins = v.now ∧ m.ends = ends (sold w.now) ∧
      (m.begins ≤ m.ends ↔ v.now ≤ ends (sold w.now)) ∧
      (v.now ≤ .latest → v.now ≤ w.now.plusDays 91 → m.begins ≤ m.ends) := by
  obtain ⟨⟨later, rfl⟩, new, row⟩ := enrolled
  rw [after_append] at row
  obtain ⟨sale, completes⟩ := Visit.completes_of_new_member new row
  have installed := initial_installed.after before
  obtain ⟨role, payer, ending⟩ := (Visit.serve_paidFor installed completes).enrolled i m row new
  have begins := (Visit.serve_beginsNow installed completes).new i m new row
  obtain ⟨record, entered, year⟩ := Visit.completes_year completes
  obtain ⟨earlier, w, begun, sold⟩ := begun_in before entered
  rw [year, sold] at ending
  have ordered : w.now ≤ v.now := by
    rw [List.append_cons, List.map_append, List.pairwise_append] at inOrder
    exact begun.now_le inOrder.1
  refine ⟨sale, earlier, w, ⟨⟨later, rfl⟩, completes⟩, begun, ordered, role, payer, begins, ending,
    ?_, fun shown soon => ?_⟩
  · rw [begins, ending]
  · rw [begins, ending]
    exact Time.MembershipYear.le_ends_of_le_plusDays soon shown

/-- A customer fills in the form in September 2025. -/
def septemberStart : Visit :=
  .sampleStart 1757930400 { firstName := "Ada", lastName := "Lovelace", email := "ada@example.org" }

theorem nobody_has_joined : (initial.after [septemberStart]).store.members.find? 1 = none := by
  have none : ((initial.after [septemberStart]).store.members.find? 1).isNone = true := by
    decide +kernel
  exact Option.isNone_iff_eq_none.mp none

/-- The membership of a customer who comes back in December goes until the end of the month. -/
theorem membership_of_december :
    let back := Visit.sampleReturn 1765400000 1
    ∃ m, EnrolledIn [septemberStart, back] [septemberStart] back 1 m ∧ m.begins = back.now ∧
      m.ends = ends 2025 ∧ m.begins ≤ m.ends := by
  intro back
  have joined : ((initial.after ([septemberStart] ++ [back])).store.members.find? 1).isSome =
      true := by decide +kernel
  obtain ⟨m, row⟩ := Option.isSome_iff_exists.mp joined
  have enrolled : EnrolledIn [septemberStart, back] [septemberStart] back 1 m :=
    ⟨⟨[], rfl⟩, nobody_has_joined, row⟩
  obtain ⟨_, earlier, w, _, begun, _, _, _, begins, ending, _, soon⟩ :=
    membership_begins_and_ends (by decide +kernel) enrolled
  obtain ⟨later, place⟩ := begun.place
  have first : w = septemberStart := by
    have mem : w ∈ [septemberStart] := place ▸ List.mem_append_right earlier List.mem_cons_self
    exact List.mem_singleton.mp mem
  subst first
  have year : sold septemberStart.now = 2025 := by decide +kernel
  rw [year] at ending
  exact ⟨m, enrolled, begins, ending, soon (by decide +kernel) (by decide +kernel)⟩

/-- Who comes back in January becomes a member from then on, until the December before. -/
theorem membership_over_before_it_begins :
    let back := Visit.sampleReturn 1767312000 1
    let visits := [septemberStart, back]
    (∀ v ∈ visits, v.Admissible) ∧ (visits.map Visit.now).Pairwise (· ≤ ·) ∧
      ∃ m, EnrolledIn visits [septemberStart] back 1 m ∧ m.roleId = memberRoleId ∧
        ¬ m.begins ≤ m.ends := by
  intro back visits
  have joined : ((initial.after ([septemberStart] ++ [back])).store.members.find? 1).any (fun m =>
      m.roleId = memberRoleId ∧ ¬ m.begins ≤ m.ends) = true := by decide +kernel
  obtain ⟨m, row, period⟩ := (Option.any_eq_true _ _).mp joined
  obtain ⟨role, period⟩ := of_decide_eq_true period
  refine ⟨?_, by decide +kernel, m, ⟨⟨[], rfl⟩, nobody_has_joined, row⟩, role, period⟩
  simp only [visits, List.forall_mem_cons]
  exact ⟨Visit.admissible_sampleStart (by decide +kernel) (by decide +kernel),
    Visit.admissible_sampleReturn (by decide +kernel), List.forall_mem_nil _⟩

end Desk

end Dues
