import Dues.Proofs.Purchase.Bookkeeping

/-! # What completing a sale touches

Completing a sale writes to four tables, in two transactions, and finds out on the way which users
it is about. Whatever it is that it finds, it stays with the sale and the users that end up on it.
Nothing is assumed about the desk: tables and roles may be missing, rows may be there that nobody
expects, and the numbers that were looked up before may be wrong.
-/

namespace Dues

open Dues.Action (Keeps Touches)
open Dues.Register
open Dues.Time (Instant)
open Dues.Time.MembershipYear (ends)
open Store (Table TableName)

/-- How a table may become another one: no row goes, a row that is there changes in the ways of
`changes` at most, and each row that is new is one of `adds`. -/
structure Store.Table.Revised {α : Type} (changes : α → α → Prop) (adds : α → Prop)
    (t t' : Table α) : Prop where
  kept : ∀ i a, t.find? i = some a → ∃ a', t'.find? i = some a' ∧ (a' = a ∨ changes a a')
  added : ∀ i a, t'.find? i = some a → t.find? i = none → adds a

namespace Store.Table.Revised

variable {α : Type} {changes changes' : α → α → Prop} {adds adds' : α → Prop} {t t' t'' : Table α}

theorem refl (t : Table α) : Revised changes adds t t where
  kept i a row := ⟨a, row, .inl rfl⟩
  added i a row new := by
    rw [new] at row
    cases row

theorem trans (h : Revised changes adds t t') (h' : Revised changes adds t' t'')
    (again : ∀ a b c, changes a b → changes b c → changes a c)
    (still : ∀ a b, adds a → changes a b → adds b) : Revised changes adds t t'' where
  kept i a row := by
    obtain ⟨b, row', first⟩ := h.kept i a row
    obtain ⟨c, row'', second⟩ := h'.kept i b row'
    refine ⟨c, row'', ?_⟩
    rcases first with rfl | first
    · exact second
    · rcases second with rfl | second
      · exact .inr first
      · exact .inr (again a b c first second)
  added i c row new := by
    cases between : t'.find? i with
    | none => exact h'.added i c row between
    | some b =>
        have added := h.added i b between new
        obtain ⟨c', row', second⟩ := h'.kept i b between
        cases row.symm.trans row'
        rcases second with rfl | second
        · exact added
        · exact still b c added second

theorem mono (h : Revised changes adds t t') (more : ∀ a b, changes a b → changes' a b)
    (more' : ∀ a, adds a → adds' a) : Revised changes' adds' t t' where
  kept i a row := by
    obtain ⟨b, row', same | changed⟩ := h.kept i a row
    · exact ⟨b, row', .inl same⟩
    · exact ⟨b, row', .inr (more a b changed)⟩
  added i a row new := more' a (h.added i a row new)

theorem insert {row : α} (adds_row : adds row) : Revised changes adds t (t.insert row) where
  kept i a found := ⟨a, find?_insert_of_some row found, .inl rfl⟩
  added i a found new := by
    rw [find?_insert, new] at found
    split at found
    next =>
      cases found
      exact adds_row
    next => cases found

theorem update {p : Int → α → Bool} {f : α → α}
    (changes_row : ∀ i a, t.find? i = some a → p i a = true → changes a (f a)) :
    Revised changes adds t (t.update p f) where
  kept i a found := by
    refine ⟨if p i a then f a else a, by rw [find?_update, found, Option.map_some], ?_⟩
    split
    next chosen => exact .inr (changes_row i a found chosen)
    next => exact .inl rfl
  added i a found new := by
    rw [find?_update, new] at found
    cases found

end Store.Table.Revised

namespace Store

variable {s s' s'' : Store} {users others : List Int} {ending : Instant} {userId : Int}

/-- Of the memberships that were there, one of `users` in the role of those who pay may end at
`ending` from now on. New ones, and values that are new or overwritten, are theirs as well. -/
structure Confined (users : List Int) (ending : Instant) (s s' : Store) : Prop where
  catalog : s'.catalog = s.catalog
  upgrades : s'.upgrades = s.upgrades
  roles : s'.roles = s.roles
  fields : s'.fields = s.fields
  members : s.members.Revised
    (fun m m' => m.userId ∈ users ∧ s.RoleNamed memberRole m.roleId ∧ m' = { m with ends := ending })
    (fun m => m.userId ∈ users ∧ s.RoleNamed memberRole m.roleId) s'.members
  values : s.values.Revised (fun v v' => v.userId ∈ users ∧ v' = { v with text := v'.text })
    (fun v => v.userId ∈ users) s'.values

namespace Confined

theorem of_frame {ts : List TableName} (frame : s.Frame ts s') (members : .members ∉ ts)
    (values : .values ∉ ts) : Confined users ending s s' where
  catalog := frame.catalog
  upgrades := frame.upgrades
  roles := frame.roles
  fields := frame.fields
  members := by
    rw [frame.members members]
    exact .refl _
  values := by
    rw [frame.values values]
    exact .refl _

theorem trans (h : Confined users ending s s') (h' : Confined users ending s' s'') :
    Confined users ending s s'' where
  catalog := h'.catalog.trans h.catalog
  upgrades := h'.upgrades.trans h.upgrades
  roles := h'.roles.trans h.roles
  fields := h'.fields.trans h.fields
  members := by
    have behind := h'.members
    unfold RoleNamed at behind
    rw [h.roles] at behind
    refine h.members.trans behind ?_ ?_
    · rintro a b c ⟨user, role, rfl⟩ ⟨_, _, rfl⟩
      exact ⟨user, role, rfl⟩
    · rintro a b added ⟨_, _, rfl⟩
      exact added
  values := by
    refine h.values.trans h'.values ?_ ?_
    · rintro a b c ⟨user, changed⟩ ⟨_, again⟩
      refine ⟨user, ?_⟩
      rw [again, changed]
    · rintro a b added ⟨_, changed⟩
      rw [changed]
      exact added

theorem mono (h : Confined users ending s s') (sub : users ⊆ others) :
    Confined others ending s s' where
  catalog := h.catalog
  upgrades := h.upgrades
  roles := h.roles
  fields := h.fields
  members := h.members.mono (fun _ _ changed => ⟨sub changed.1, changed.2⟩)
    fun _ added => ⟨sub added.1, added.2⟩
  values := h.values.mono (fun _ _ changed => ⟨sub changed.1, changed.2⟩) fun _ added => sub added

theorem withEnd {roleId : Int} (mem : userId ∈ users) (role : s.RoleNamed memberRole roleId) :
    Confined users ending s { s with members := s.withEnd userId roleId ending } where
  catalog := rfl
  upgrades := rfl
  roles := rfl
  fields := rfl
  members := by
    dsimp only [Store.withEnd]
    refine .update fun i m _ chosen => ?_
    obtain ⟨user, same⟩ := isMembership_eq_true.mp chosen
    rw [user, same]
    exact ⟨mem, role, rfl⟩
  values := .refl _

theorem insert {m : Member} (mem : m.userId ∈ users) (role : s.RoleNamed memberRole m.roleId) :
    Confined users ending s { s with members := s.members.insert m } where
  catalog := rfl
  upgrades := rfl
  roles := rfl
  fields := rfl
  members := .insert ⟨mem, role⟩
  values := .refl _

theorem noted {fieldId : Int} {text : String} {values : Table ValueRow} (mem : userId ∈ users)
    (noted : s.Noted userId fieldId text values) :
    Confined users ending s { s with values } where
  catalog := rfl
  upgrades := rfl
  roles := rfl
  fields := rfl
  members := .refl _
  values := by
    cases noted with
    | added => exact .insert mem
    | replaced id old row own =>
        dsimp only
        refine .update fun i v found chosen => ?_
        obtain rfl : i = id := beq_iff_eq.mp chosen
        cases row.symm.trans found
        rw [own.1]
        exact ⟨mem, rfl⟩

theorem apart_from_sales (s : Store) (users : List Int) (ending : Instant) :
    Desk.ApartFromSales fun d => s.Confined users ending d.store := by
  intro d d' frame before
  exact before.trans (.of_frame frame.store (by decide) (by decide))

end Confined

/-- No account goes or changes. The new ones, in order, are accounts of some of `persons`, at most
one for each of them, and nobody can log in to them yet. -/
def Opens (persons : List Int) (s s' : Store) : Prop :=
  ∃ opened, s'.users.rows = s.users.rows ++ opened ∧ (opened.map Prod.fst).Sublist persons ∧
    ∀ row ∈ opened, row.2.password = lockedPassword ∧ row.2.valid = true

namespace Opens

variable {persons persons' : List Int}

theorem of_same (same : s'.users = s.users) : Opens persons s s' :=
  ⟨[], by rw [same, List.append_nil], List.nil_sublist _, fun _ mem => nomatch mem⟩

theorem append (h : Opens persons s s') (h' : Opens persons' s' s'') :
    Opens (persons ++ persons') s s'' := by
  obtain ⟨opened, rows, sub, locked⟩ := h
  obtain ⟨opened', rows', sub', locked'⟩ := h'
  refine ⟨opened ++ opened', ?_, ?_, fun row mem => ?_⟩
  · rw [rows', rows, List.append_assoc]
  · rw [List.map_append]
    exact sub.append sub'
  · rcases List.mem_append.mp mem with mem | mem
    · exact locked row mem
    · exact locked' row mem

theorem of_account {login : String} (account : s.Account login userId s'.users) :
    Opens [userId] s s' := by
  generalize behind : s'.users = accounts at account
  cases account with
  | existing => exact .of_same behind
  | opened id =>
      refine ⟨[(userId, ⟨login, lockedPassword, true⟩)], ?_, List.Sublist.refl _, fun row mem => ?_⟩
      · rw [behind, id]
        rfl
      · cases List.mem_singleton.mp mem
        exact ⟨rfl, rfl⟩

end Opens

end Store

theorem Register.setValue_confined (s : Store) {users : List Int} (ending : Instant) {t : ValueType}
    (field : ProfileField t) {userId : Int} (mem : userId ∈ users) (value : t.Value) :
    Keeps (fun d => s.Confined users ending d.store) (setValue field userId value) := by
  intro d before
  rcases setValue_noted field userId value d with
    ⟨e, d', failed, same⟩ | ⟨fieldId, mid, values, d', set, _, noted, store⟩
  · rw [failed]
    change s.Confined users ending d'.store
    rw [same]
    exact before
  · rw [set]
    change s.Confined users ending d'.store
    rw [store]
    exact before.trans (.noted mem noted)

namespace Fulfilment

variable {d d' : Desk} {sale : Sale} {now : Instant} {withAssociate : Bool}
  {known userId year : Int} {person : Participant} {loginName : String}

theorem describe_confined (s : Store) (ending : Instant) (userId : Int) (person : Participant) :
    Keeps (fun d => s.Confined [userId] ending d.store) (describe userId person) := by
  have own : userId ∈ [userId] := List.mem_singleton_self userId
  refine (setValue_confined s ending _ own _).bind fun _ => ?_
  refine (setValue_confined s ending _ own _).bind fun _ => ?_
  split
  next => exact setValue_confined s ending _ own _
  next => exact .pure _

theorem extend_confined {n : Nat} {ending : Instant} (ok : extend userId ending d = .ok n d') :
    d.store.Confined [userId] ending d'.store ∧ d'.store.users = d.store.users := by
  obtain ⟨roleId, looked, rfl⟩ := extend_ok ok
  have role := Store.roleNamed_of_roleId? looked
  exact ⟨.withEnd (List.mem_singleton_self userId) role, rfl⟩

theorem enrol_confined {row : Int × Member} {begins ending : Instant}
    (ok : enrol userId memberRole begins ending d = .ok row d') :
    d.store.Confined [userId] ending d'.store ∧ d'.store.users = d.store.users := by
  obtain ⟨roleId, looked, rfl, rfl⟩ := enrol_ok ok
  have role := Store.roleNamed_of_roleId? looked
  exact ⟨.insert (List.mem_singleton_self userId) role, rfl⟩

/-- Providing for a person stays with the account that comes out. -/
theorem provide_confined (ok : provide person known loginName now year d = .ok userId d') :
    0 < userId ∧ d.store.Confined [userId] (ends year) d'.store ∧
      d.store.Opens [userId] d'.store := by
  unfold provide at ok
  dsimp only at ok
  split at ok
  next positive =>
    obtain ⟨n, mid, extended, ok⟩ := Action.bind_ok.mp ok
    obtain ⟨rfl, rfl⟩ := Action.pure_ok.mp ok
    obtain ⟨confined, users⟩ := extend_confined extended
    exact ⟨positive, confined, .of_same users⟩
  next =>
    obtain ⟨id, d₁, numbered, ok⟩ := Action.bind_ok.mp ok
    have account := accountNumber_ok numbered
    have frame := ((accountNumber_touches _).of_ok numbered).store
    obtain ⟨user, row⟩ := Table.contains_eq_true.mp account.contains
    obtain ⟨o, d₂, looked, ok⟩ := Action.bind_ok.mp ok
    obtain ⟨_, _, _, rfl⟩ := membership?_ok.mp looked
    -- either way of being paid up is followed by a description of the person
    have behind : ∀ {d₃ : Desk}, d₂.store.Confined [id] (ends year) d₃.store →
        d₃.store.users = d₂.store.users →
        (describe id person >>= fun _ => pure id) d₃ = .ok userId d' →
        0 < userId ∧ d.store.Confined [userId] (ends year) d'.store ∧
          d.store.Opens [userId] d'.store := by
      intro d₃ paid users rest
      obtain ⟨_, d₄, described, done⟩ := Action.bind_ok.mp rest
      obtain ⟨rfl, rfl⟩ := Action.pure_ok.mp done
      have opened : d.store.Confined [id] (ends year) d₂.store :=
        .of_frame frame (by decide) (by decide)
      have accounts : d₄.store.users = d₂.store.users :=
        (((describe_touches _ _).of_ok described).store.users (by decide)).trans users
      refine ⟨Table.id_pos row, ?_, .of_account (accounts ▸ account)⟩
      exact (describe_confined _ _ _ _).of_ok described (opened.trans paid)
    cases o with
    | some row =>
        obtain ⟨n, d₃, extended, rest⟩ := Action.bind_ok.mp ok
        obtain ⟨confined, users⟩ := extend_confined extended
        exact behind confined users rest
    | none =>
        obtain ⟨row, d₃, enrolled, rest⟩ := Action.bind_ok.mp ok
        obtain ⟨confined, users⟩ := enrol_confined enrolled
        exact behind confined users rest

theorem users_provided (sale : Sale) (found : Matches) (primaryId associateId : Int) :
    Household.users (provided sale found primaryId associateId) =
      primaryId :: if 0 < associateId then [associateId] else [] := rfl

theorem provideAll_confined {result : Sale}
    (ok : provideAll sale now withAssociate d = .ok result d') :
    d.store.Confined (Household.users result) (ends result.year) d'.store ∧
      d.store.Opens (Household.users result) d'.store := by
  obtain ⟨found, primaryId, associateId, d₁, d₂, looked, first, second, rfl⟩ := provideAll_steps ok
  obtain ⟨_, confined, opens⟩ := provide_confined first
  rw [((findMatches_touches sale).of_ok looked).store.eq] at confined opens
  rw [users_provided]
  rcases second with ⟨_, second⟩ | ⟨_, rfl, rfl⟩
  · obtain ⟨positive, confined', opens'⟩ := provide_confined second
    rw [if_pos positive]
    refine ⟨?_, opens.append opens'⟩
    exact (confined.mono (by simp)).trans (confined'.mono (by simp))
  · exact ⟨confined, opens⟩

end Fulfilment

namespace Household

variable {settings : Settings} {sale : Sale} {now : Instant}

theorem keep_confined (s : Store) (ending : Instant) (settings : Settings) (sale : Sale)
    (now : Instant) :
    Keeps (fun d => s.Confined (users sale) ending d.store) (keep settings sale now) := by
  have own : ∀ today total, ∀ n ∈ addressNotes sale today ++ paymentNotes settings sale total,
      Keeps (fun d => s.Confined (users sale) ending d.store)
        (setValue n.field n.userId n.value) := by
    intro today total n mem
    have mine := note_userId settings today total mem
    rw [← users_eq_map] at mine
    exact setValue_confined s ending n.field mine n.value
  have apart := Store.Confined.apart_from_sales s (users sale) ending
  refine keep_preserves apart (record_preserves apart settings sale now ?_ ?_)
  · intro today n mem
    exact own today .zero n (List.mem_append_left _ mem)
  · intro total n mem
    exact own .epoch total n (List.mem_append_right _ mem)

end Household

/-- What the store may be once a sale has been completed: as it was before, but for the row of the
sale itself, and what is known about the users on it. -/
structure Store.Footprint (sale : Sale) (s s' : Store) : Prop where
  confined : s.Confined (Household.users sale) (ends sale.year) s'
  accounts : s.Opens (Household.users sale) s'
  sales : ∀ i, i ≠ sale.id → s'.sales.find? i = s.sales.find? i

namespace Store.Footprint

variable {d d' mid : Desk} {sale : Sale} {saleId : Int} {paymentId : String} {now : Instant}
  {withAssociate : Bool}

theorem of_fulfil
    (ok : Fulfilment.fulfil saleId paymentId now withAssociate d = .ok (.fulfilled sale) d') :
    d.store.Footprint sale d'.store := by
  obtain ⟨entry, result, mid, _, _, all, rfl, rfl⟩ := Fulfilment.fulfil_ok ok
  obtain ⟨confined, opens⟩ := Fulfilment.provideAll_confined all
  have frame := ((Fulfilment.provideAll_touches _ _ _).of_ok all).store
  refine ⟨confined.trans ⟨rfl, rfl, rfl, rfl, .refl _, .refl _⟩, opens, fun i other => ?_⟩
  dsimp only
  rw [SaleBook.find?_replaced, frame.sales (by decide)]
  cases d.store.sales.find? i with
  | none => rfl
  | some record => rw [Option.map_some, if_neg other]

theorem noted (h : d.store.Footprint sale mid.store) (frame : mid.Frame [.values] d')
    (confined : d.store.Confined (Household.users sale) (ends sale.year) d'.store) :
    d.store.Footprint sale d'.store where
  confined := confined
  accounts := by
    obtain ⟨opened, rows, persons⟩ := h.accounts
    refine ⟨opened, ?_, persons⟩
    rw [frame.store.users (by decide), rows]
  sales i other := by
    rw [frame.store.sales (by decide)]
    exact h.sales i other

end Store.Footprint

/-- Settling a sale, at whatever desk and with whatever outcome, touches nothing but that sale and
its household. The desk is left as it was, or the sale is complete and the rest of the store is as
it was, but for the users on the sale: the account of each of them may be new, their memberships in
the role of those who pay end with the year of the sale and are otherwise as they were, and only
values of theirs are new or have another text. This is so as well where a fault interrupts the notes
once the sale is complete. -/
theorem Checkout.settlement_stays_in_household (settings : Settings) (now : Instant) (saleId : Int)
    (paymentId : String) (d : Desk) :
    match settle settings now saleId paymentId d with
    | .ok (.fulfilled sale) d' => sale.id = saleId ∧ d.store.Footprint sale d'.store
    | .ok (.alreadyComplete _) d' => d'.store = d.store
    | .error (.failure _) d' => d'.store = d.store
    | .error (.fault _) d' => ∃ sale, sale.id = saleId ∧
        d'.store.sales.find? saleId = some sale.record ∧ d.store.Footprint sale d'.store := by
  have settled := settle_settled settings now saleId paymentId d
  generalize settle settings now saleId paymentId d = r at settled
  cases settled with
  | refused e d' frame => exact frame.store.eq
  | complete sale => rfl
  | fulfilled sale mid d' fulfil frame kept =>
      have footprint := Store.Footprint.of_fulfil fulfil
      refine ⟨(Fulfilment.fulfil_sale fulfil).1, footprint.noted frame ?_⟩
      exact (Household.keep_confined _ _ _ _ _).of_ok kept footprint.confined
  | interrupted sale mid d' fulfil frame =>
      refine ⟨sale, (Fulfilment.fulfil_sale fulfil).1, ?_, ?_⟩
      · rw [frame.store.eq]
        exact Fulfilment.fulfil_row fulfil
      · rw [frame.store.eq]
        exact .of_fulfil fulfil

end Dues
