import Dues.Proofs.Purchase.Provision
import Dues.Proofs.Sale.Book
import Dues.Proofs.Sale.Record
import Dues.Proofs.Text.Lowercase

/-! # What fulfilment does to the store

Fulfilling a sale provides for its persons, one after the other as they were found at the start, and
closes the entry of the sale in the book.
-/

namespace Dues.Fulfilment

open Dues.Action (Touches)
open Dues.Register
open Dues.Text (trim isBlankText)
open Dues.Time (Instant)

variable {d d' : Desk} {sale entry : Sale} {found : Matches} {now : Instant}
  {withAssociate : Bool} {userId : Int}

theorem findMatches_touches (sale : Sale) : Touches [] (findMatches sale) := by
  refine (findMember_touches _ _ _).bind fun primary => ?_
  dsimp only
  split
  next => exact (findMember_touches _ _ _).bind fun associate => .pure _
  next => exact (Touches.pure _).bind fun associate => .pure _

/-- The persons of a sale as they are found: an associate only where there is one. -/
structure Found (s : Store) (sale : Sale) (found : Matches) : Prop where
  primary : s.Found (trim sale.primary.email) found.primary
  associate : sale.associate.isPresent = true →
    s.Found (trim sale.associateEmail) found.associate

/-- The primary person is looked for first, and then the associate if there is one. -/
theorem findMatches_steps (ok : findMatches sale d = .ok found d') :
    ∃ mid, findMember sale.primary.firstName sale.primary.lastName sale.primary.email d =
        .ok found.primary mid ∧
      (sale.associate.isPresent = true ∧ findMember sale.associate.firstName
          sale.associate.lastName sale.associateEmail mid = .ok found.associate d' ∨
        sale.associate.isPresent = false ∧ found.associate = 0 ∧ d' = mid) := by
  obtain ⟨primary, mid, first, ok⟩ := Action.bind_ok.mp ok
  dsimp only at ok
  split at ok
  next present =>
    obtain ⟨associate, _, second, ok⟩ := Action.bind_ok.mp ok
    obtain ⟨rfl, rfl⟩ := Action.pure_ok.mp ok
    exact ⟨mid, first, .inl ⟨present, second⟩⟩
  next absent =>
    obtain ⟨associate, _, nobody, ok⟩ := Action.bind_ok.mp ok
    obtain ⟨rfl, rfl⟩ := Action.pure_ok.mp ok
    obtain ⟨rfl, rfl⟩ := Action.pure_ok.mp nobody
    exact ⟨_, first, .inr ⟨Bool.eq_false_iff.mpr absent, rfl, rfl⟩⟩

theorem findMatches_ok (h : d.Installed) (ok : findMatches sale d = .ok found d') :
    Found d.store sale found := by
  obtain ⟨mid, first, second⟩ := findMatches_steps ok
  have frame := (findMember_touches _ _ _).of_ok first
  refine ⟨h.found_of_findMember first, fun present => ?_⟩
  rcases second with ⟨_, second⟩ | ⟨absent, _⟩
  · rw [← frame.store.eq]
    exact (h.of_frame frame).found_of_findMember second
  · cases absent.symm.trans present

theorem findMatches_succeeds (h : d.Installed) (sale : Sale) :
    ∃ found d', findMatches sale d = .ok found d' := by
  obtain ⟨primary, mid, first⟩ := findMember_succeeds h sale.primary.firstName
    sale.primary.lastName sale.primary.email
  have h' := h.of_frame ((findMember_touches _ _ _).of_ok first)
  unfold findMatches
  cases sale.associate.isPresent with
  | false => exact ⟨⟨primary, 0⟩, mid, Action.bind_of_ok first⟩
  | true =>
      obtain ⟨associate, d', second⟩ := findMember_succeeds h' sale.associate.firstName
        sale.associate.lastName sale.associateEmail
      exact ⟨⟨primary, associate⟩, d', (Action.bind_of_ok first).trans (Action.bind_of_ok second)⟩

theorem providePrimary_touches (sale : Sale) (found : Matches) (now : Instant) :
    Touches [.users, .members, .values] (providePrimary sale found now) := by
  unfold providePrimary
  split
  next => exact .throw _
  next => exact (provide_touches _ _ _ _ _).orFail _

theorem provideAssociate_touches (sale : Sale) (found : Matches) (now : Instant)
    (withAssociate : Bool) :
    Touches [.users, .members, .values] (provideAssociate sale found now withAssociate) := by
  unfold provideAssociate
  split
  next => exact (provide_touches _ _ _ _ _).orFail _
  next => exact .pure _

theorem provideAll_touches (sale : Sale) (now : Instant) (withAssociate : Bool) :
    Touches [.users, .members, .values] (provideAll sale now withAssociate) := by
  refine (((findMatches_touches _).orFail _).mono (List.nil_subset _)).bind fun found => ?_
  refine (providePrimary_touches _ _ _).bind fun primary => ?_
  exact (provideAssociate_touches _ _ _ _).bind fun associate => .pure _

theorem fulfil_touches (saleId : Int) (paymentId : String) (now : Instant) (withAssociate : Bool) :
    Touches [.users, .members, .values, .sales] (fulfil saleId paymentId now withAssociate) := by
  refine (((SaleBook.find_touches _).orFail _).mono (List.nil_subset _)).bind fun entry => ?_
  split
  next => exact .pure _
  next =>
    refine ((provideAll_touches _ _ _).mono (by decide)).bind fun provided => ?_
    exact (((SaleBook.replace_touches _).orFail _).mono (by decide)).bind fun _ => .pure _

/-- The persons of a sale are provided for: first the primary one, which leads to the store
`between`, and then the associate. -/
structure Provides (s between s' : Store) (sale : Sale) (found : Matches) (now : Instant)
    (withAssociate : Bool) (primaryId associateId : Int) : Prop where
  asFound : Found s sale found
  primary : s.Provided between (trim sale.primary.email) found.primary primaryId now
    (Time.MembershipYear.ends sale.year)
  associate : (withAssociate && sale.associate.isPresent) = true →
    between.Provided s' (associateLogin sale) found.associate associateId now
      (Time.MembershipYear.ends sale.year)
  alone : (withAssociate && sale.associate.isPresent) = false →
    associateId = 0 ∧ s'.users = between.users ∧ s'.members = between.members

/-- The sale once its persons are provided for. -/
def provided (sale : Sale) (found : Matches) (primaryId associateId : Int) : Sale :=
  { sale with
    kind := if found.isRenewal then .renewal else .newMember
    primary := { sale.primary with userId := primaryId }
    associate := { sale.associate with userId := associateId } }

theorem Found.primary_isMember {s : Store} (h : Found s sale found) (known : 0 < found.primary) :
    s.IsMember found.primary := by
  cases h.primary with
  | nobody unknown => omega
  | member _ _ isMember => exact isMember

theorem Found.associate_isMember {s : Store} (h : Found s sale found)
    (present : sale.associate.isPresent = true) (known : 0 < found.associate) :
    s.IsMember found.associate := by
  cases h.associate present with
  | nobody unknown => omega
  | member _ _ isMember => exact isMember

/-- The persons of a sale are looked for, and provided for as they were found. -/
theorem provideAll_steps {result : Sale}
    (ok : provideAll sale now withAssociate d = .ok result d') :
    ∃ found primaryId associateId d₁ d₂, findMatches sale d = .ok found d₁ ∧
      provide sale.primary found.primary (trim sale.primary.email) now sale.year d₁ =
        .ok primaryId d₂ ∧
      ((withAssociate && sale.associate.isPresent) = true ∧
          provide sale.associate found.associate (associateLogin sale) now sale.year d₂ =
            .ok associateId d' ∨
        (withAssociate && sale.associate.isPresent) = false ∧ associateId = 0 ∧ d' = d₂) ∧
      result = provided sale found primaryId associateId := by
  obtain ⟨found, d₁, looked, ok⟩ := Action.bind_ok.mp ok
  obtain ⟨primaryId, d₂, first, ok⟩ := Action.bind_ok.mp ok
  obtain ⟨associateId, d₃, second, ok⟩ := Action.bind_ok.mp ok
  obtain ⟨rfl, rfl⟩ := Action.pure_ok.mp ok
  unfold providePrimary at first
  split at first
  next => exact absurd first Action.throw_ok
  next =>
    refine ⟨found, primaryId, associateId, d₁, d₂, Action.orFail_ok.mp looked,
      Action.orFail_ok.mp first, ?_, rfl⟩
    unfold provideAssociate at second
    split at second
    next counts => exact .inl ⟨counts, Action.orFail_ok.mp second⟩
    next alone =>
      obtain ⟨rfl, rfl⟩ := Action.pure_ok.mp second
      exact .inr ⟨Bool.eq_false_iff.mpr alone, rfl, rfl⟩

theorem provideAll_ok (h : d.Installed) {result : Sale}
    (ok : provideAll sale now withAssociate d = .ok result d') :
    ∃ found between primaryId associateId, (∃ mid, findMatches sale d = .ok found mid) ∧
      result = provided sale found primaryId associateId ∧
      Provides d.store between d'.store sale found now withAssociate primaryId associateId := by
  obtain ⟨found, primaryId, associateId, d₁, d₂, looked, first, second, rfl⟩ := provideAll_steps ok
  have hfound := findMatches_ok h looked
  have frame := (findMatches_touches sale).of_ok looked
  have same := frame.store.eq
  have h₁ := h.of_frame frame
  have h₂ := h₁.of_frame ((provide_touches _ _ _ _ _).of_ok first)
  have primary := provide_ok h₁ (fun known => same ▸ hfound.primary_isMember known) first
  rw [same] at primary
  refine ⟨found, d₂.store, primaryId, associateId, ⟨d₁, looked⟩, rfl, hfound, primary, ?_, ?_⟩ <;>
    rcases second with ⟨counts, second⟩ | ⟨alone, nobody, rfl⟩
  · intro _
    have present := (Bool.and_eq_true_iff.mp counts).2
    refine provide_ok h₂ (fun known => ?_) second
    exact primary.members.paidFor.isMember_of_isMember (hfound.associate_isMember present known)
  · exact fun counts => nomatch counts.symm.trans alone
  · exact fun alone => nomatch alone.symm.trans counts
  · exact fun _ => ⟨nobody, rfl, rfl⟩

/-- Providing for its persons changes nothing on a sale but its kind and their accounts. -/
theorem provideAll_provided {result : Sale}
    (ok : provideAll sale now withAssociate d = .ok result d') :
    ∃ found primaryId associateId, result = provided sale found primaryId associateId := by
  obtain ⟨found, primaryId, associateId, _, _, _, _, _, rfl⟩ := provideAll_steps ok
  exact ⟨found, primaryId, associateId, rfl⟩

theorem provideAll_keeps {result : Sale}
    (ok : provideAll sale now withAssociate d = .ok result d') :
    result.id = sale.id ∧ result.year = sale.year ∧ result.total = sale.total := by
  obtain ⟨found, primaryId, associateId, rfl⟩ := provideAll_provided ok
  exact ⟨rfl, rfl, rfl⟩

variable {saleId : Int} {paymentId : String}

theorem fulfil_connected {outcome : Outcome}
    (ok : fulfil saleId paymentId now withAssociate d = .ok outcome d') : d.connected = true := by
  obtain ⟨_, _, fetched, _⟩ := Action.bind_ok.mp ok
  exact (SaleBook.find_ok.mp (Action.orFail_ok.mp fetched)).1

/-- What a sale that was fulfilled has been before, and what became of the book. -/
theorem fulfil_ok (ok : fulfil saleId paymentId now withAssociate d = .ok (.fulfilled sale) d') :
    ∃ entry result mid, d.store.sale? saleId = .ok (some entry) ∧ entry.status ≠ .complete ∧
      provideAll entry now withAssociate d = .ok result mid ∧
      sale = { result with status := .complete, paymentId } ∧
      d' = { mid with store := { mid.store with sales := SaleBook.replaced mid.store.sales sale } } := by
  obtain ⟨entry, mid, fetched, rest⟩ := Action.bind_ok.mp ok
  obtain ⟨_, entered, rfl⟩ := SaleBook.find_ok.mp (Action.orFail_ok.mp fetched)
  split at rest
  next => cases (Action.pure_ok.mp rest).1
  next pending =>
    obtain ⟨result, after, all, rest⟩ := Action.bind_ok.mp rest
    obtain ⟨_, _, replaced, rest⟩ := Action.bind_ok.mp rest
    obtain ⟨done, rfl⟩ := Action.pure_ok.mp rest
    cases done
    exact ⟨entry, result, after, entered, pending, all, rfl,
      SaleBook.replace_ok (Action.orFail_ok.mp replaced)⟩

theorem fulfil_alreadyComplete :
    fulfil saleId paymentId now withAssociate d = .ok (.alreadyComplete sale) d' ↔
      SaleBook.find saleId d = .ok sale d ∧ sale.status = .complete ∧ d' = d := by
  constructor
  · intro ok
    obtain ⟨entry, mid, fetched, rest⟩ := Action.bind_ok.mp ok
    have found := Action.orFail_ok.mp fetched
    obtain ⟨_, _, rfl⟩ := SaleBook.find_ok.mp found
    split at rest
    next complete =>
      obtain ⟨done, rfl⟩ := Action.pure_ok.mp rest
      cases done
      exact ⟨found, complete, rfl⟩
    next =>
      obtain ⟨_, _, _, rest⟩ := Action.bind_ok.mp rest
      obtain ⟨_, _, _, rest⟩ := Action.bind_ok.mp rest
      cases (Action.pure_ok.mp rest).1
  · rintro ⟨found, complete, rfl⟩
    refine (Action.bind_of_ok (Action.orFail_ok.mpr found)).trans ?_
    rw [if_pos complete]
    rfl

theorem entry_id {s : Store} {entry : Sale} (entered : s.sale? saleId = .ok (some entry)) :
    entry.id = saleId := by
  obtain ⟨_, record, _, read⟩ := Store.sale?_ok.mp entered
  exact (SaleRecord.sale?_id read).1

/-- The sale that comes out of fulfilment is complete, and is the one that was asked for. -/
theorem fulfil_sale (ok : fulfil saleId paymentId now withAssociate d = .ok (.fulfilled sale) d') :
    sale.id = saleId ∧ sale.status = .complete := by
  obtain ⟨entry, result, mid, entered, _, all, rfl, _⟩ := fulfil_ok ok
  exact ⟨(provideAll_keeps all).1.trans (entry_id entered), rfl⟩

theorem fulfil_paymentId
    (ok : fulfil saleId paymentId now withAssociate d = .ok (.fulfilled sale) d') :
    sale.paymentId = paymentId := by
  obtain ⟨entry, result, mid, _, _, _, rfl, _⟩ := fulfil_ok ok
  rfl

theorem fulfil_entry (ok : fulfil saleId paymentId now withAssociate d = .ok (.fulfilled sale) d')
    (entered : d.store.sale? saleId = .ok (some entry)) :
    sale.year = entry.year ∧ sale.total = entry.total := by
  obtain ⟨entry', result, mid, entered', _, all, rfl, _⟩ := fulfil_ok ok
  cases entered.symm.trans entered'
  exact (provideAll_keeps all).2

theorem fulfil_sales (ok : fulfil saleId paymentId now withAssociate d = .ok (.fulfilled sale) d') :
    d'.store.sales = SaleBook.replaced d.store.sales sale := by
  obtain ⟨entry, result, mid, _, _, all, _, rfl⟩ := fulfil_ok ok
  have frame := (provideAll_touches _ _ _).of_ok all
  rw [← frame.store.sales (by simp)]

theorem fulfil_row (ok : fulfil saleId paymentId now withAssociate d = .ok (.fulfilled sale) d') :
    d'.store.sales.find? saleId = some sale.record := by
  obtain ⟨entry, _, _, entered, _⟩ := fulfil_ok ok
  obtain ⟨_, record, row, _⟩ := Store.sale?_ok.mp entered
  rw [fulfil_sales ok, SaleBook.find?_replaced, row, Option.map_some,
    if_pos (fulfil_sale ok).1.symm]

/-- At an installed desk the persons of a fulfilled sale have been provided for. -/
theorem fulfil_provides (h : d.Installed)
    (ok : fulfil saleId paymentId now withAssociate d = .ok (.fulfilled sale) d') :
    ∃ entry found between primaryId associateId, (∃ mid, findMatches entry d = .ok found mid) ∧
      sale = { provided entry found primaryId associateId with status := .complete, paymentId } ∧
      Provides d.store between d'.store entry found now withAssociate primaryId associateId := by
  obtain ⟨entry, result, mid, entered, _, all, rfl, rfl⟩ := fulfil_ok ok
  obtain ⟨found, between, primaryId, associateId, looked, rfl, provides⟩ := provideAll_ok h all
  refine ⟨entry, found, between, primaryId, associateId, looked, rfl, ?_⟩
  obtain ⟨asFound, primary, associate, alone⟩ := provides
  exact ⟨asFound, primary, fun counts => ⟨(associate counts).users, (associate counts).members⟩,
    alone⟩

theorem associateEmail_not_blank (h : sale.associateEmail.isEmpty = false) :
    isBlankText sale.associateEmail = false := by
  unfold Sale.associateEmail at h ⊢
  dsimp only at h ⊢
  split at h
  next => cases h
  next own => rwa [if_neg own, Text.isBlankText_trim, ← Text.trim_isEmpty]

theorem loginOfNames_not_blank {firstName lastName : String}
    (filled : isBlankText firstName = false) :
    isBlankText (loginOfNames firstName lastName) = false := by
  obtain ⟨c, mem, hc⟩ := Text.exists_not_blank filled
  obtain ⟨word, inWords, inWord⟩ :=
    Text.mem_words (List.mem_append_left (' ' :: lastName.toList) mem) hc
  exact Text.Lowercase.lower_not_blank (Text.mem_joinWith inWords inWord) hc

theorem associateLogin_not_blank (filled : isBlankText sale.associate.firstName = false) :
    isBlankText (associateLogin sale) = false := by
  unfold associateLogin
  split
  next => exact loginOfNames_not_blank filled
  next own => exact associateEmail_not_blank (Bool.eq_false_iff.mpr own)

theorem provideAll_succeeds (h : d.Installed) (now : Instant) (withAssociate : Bool)
    (email : isBlankText sale.primary.email = false)
    (names : sale.associate.isPresent = true → isBlankText sale.associate.firstName = false) :
    ∃ result d', provideAll sale now withAssociate d = .ok result d' := by
  obtain ⟨found, d₁, looked⟩ := findMatches_succeeds h sale
  have h₁ := h.of_frame ((findMatches_touches sale).of_ok looked)
  obtain ⟨primaryId, d₂, primary⟩ : ∃ id d₂, providePrimary sale found now d₁ = .ok id d₂ := by
    unfold providePrimary
    rw [email, Bool.and_false, if_neg Bool.false_ne_true]
    obtain ⟨id, d₂, primary⟩ := provide_succeeds h₁ sale.primary found.primary
      (trim sale.primary.email) now sale.year fun _ => (Text.isBlankText_trim _).trans email
    exact ⟨id, d₂, Action.orFail_ok.mpr primary⟩
  have h₂ := h₁.of_frame ((providePrimary_touches _ _ _).of_ok primary)
  obtain ⟨associateId, d₃, associate⟩ :
      ∃ id d₃, provideAssociate sale found now withAssociate d₂ = .ok id d₃ := by
    unfold provideAssociate
    split
    next counts =>
      have filled := associateLogin_not_blank (names (Bool.and_eq_true_iff.mp counts).2)
      obtain ⟨id, d₃, associate⟩ := provide_succeeds h₂ sale.associate found.associate
        (associateLogin sale) now sale.year fun _ => filled
      exact ⟨id, d₃, Action.orFail_ok.mpr associate⟩
    next => exact ⟨0, d₂, rfl⟩
  exact ⟨_, d₃, (Action.bind_of_ok (Action.orFail_ok.mpr looked)).trans
    ((Action.bind_of_ok primary).trans (Action.bind_of_ok associate))⟩

/-- A sale with an email, and a name for each person, is fulfilled once. -/
theorem fulfil_succeeds (h : d.Installed) (paymentId : String) (now : Instant)
    (withAssociate : Bool) {entry : Sale}
    (entered : d.store.sale? saleId = .ok (some entry)) (pending : entry.status ≠ .complete)
    (email : isBlankText entry.primary.email = false)
    (names : entry.associate.isPresent = true → isBlankText entry.associate.firstName = false) :
    ∃ sale d', fulfil saleId paymentId now withAssociate d = .ok (.fulfilled sale) d' := by
  have fetched := SaleBook.find_ok.mpr ⟨h.connected, entered, rfl⟩
  obtain ⟨result, d₁, all⟩ := provideAll_succeeds h now withAssociate email names
  have frame := (provideAll_touches _ _ _).of_ok all
  obtain ⟨_, record, row, _⟩ := Store.sale?_ok.mp entered
  have same : { result with status := .complete, paymentId }.id = saleId :=
    (provideAll_keeps all).1.trans (entry_id entered)
  rw [← frame.store.sales (by simp), ← same] at row
  obtain ⟨d₂, replaced⟩ := SaleBook.replace_succeeds (h.of_frame frame) row
  refine ⟨{ result with status := .complete, paymentId }, d₂,
    (Action.bind_of_ok (Action.orFail_ok.mpr fetched)).trans ?_⟩
  rw [if_neg pending]
  exact (Action.bind_of_ok all).trans (Action.bind_of_ok (Action.orFail_ok.mpr replaced))

end Dues.Fulfilment
