import Dues.Proofs.Purchase.Checkout
import Dues.Proofs.Register.Likeness

/-! # What fulfilment does not see

Fulfilment comes to the same at desks that look alike, and the notes about a household leave a desk
that looks like the one before. So notes can be made at any time without anybody being provided for
in another way.
-/

namespace Dues

open Dues.Action (Agree Blind Keeps)
open Dues.Register
open Dues.Time (Instant)

namespace SaleBook

theorem find_blind (saleId : Int) : Blind (find saleId) := by
  refine ((Blind.read fun s values => rfl).orFail _).bind fun found => ?_
  cases found with
  | none => exact .throw _
  | some sale => exact .pure sale

theorem replace_blind (sale : Sale) : Blind (replace sale) := by
  refine ((Blind.write [.sales] (by decide) (fun _ _ _ => Store.updateSale_frame)
    fun s values => Store.require_map rfl rfl).orFail _).bind fun rows => ?_
  unfold expectOne
  split
  next => exact .pure _
  next => exact .throw _

end SaleBook

namespace Fulfilment

theorem accountNumber_blind (loginName : String) : Blind (accountNumber loginName) := by
  refine (accountsNamed_blind _).bind fun accounts => ?_
  cases accounts with
  | nil => exact (openAccount_blind _).bind fun _ => .pure _
  | cons account rest => exact .pure _

theorem describe_blind (userId : Int) (person : Participant) : Blind (describe userId person) := by
  refine (setValue_blind _ (by decide) _ _).bind fun _ => ?_
  refine (setValue_blind _ (by decide) _ _).bind fun _ => ?_
  split
  next => exact setValue_blind _ (by decide) _ _
  next => exact .pure _

theorem provide_blind (person : Participant) (known : Int) (loginName : String) (now : Instant)
    (year : Int) : Blind (provide person known loginName now year) := by
  unfold provide
  dsimp only
  split
  next => exact (extend_blind _ _).bind fun _ => .pure _
  next =>
    refine (accountNumber_blind _).bind fun userId => ?_
    refine (membership?_blind _).bind fun m => ?_
    have described : Blind (describe userId person >>= fun _ => pure userId) :=
      (describe_blind userId person).bind fun _ => .pure userId
    cases m with
    | some row => exact (extend_blind _ _).bind fun _ => described
    | none => exact (enrol_blind _ _ _ _).bind fun _ => described

theorem findMatches_blind (sale : Sale) : Blind (findMatches sale) := by
  refine (findMember_blind _ _ _).bind fun primary => ?_
  dsimp only
  split
  next => exact (findMember_blind _ _ _).bind fun associate => .pure _
  next => exact (Blind.pure _).bind fun associate => .pure _

theorem provideAll_blind (sale : Sale) (now : Instant) (withAssociate : Bool) :
    Blind (provideAll sale now withAssociate) := by
  refine ((findMatches_blind _).orFail _).bind fun found => Blind.bind ?_ fun primaryId =>
    Blind.bind ?_ fun associateId => .pure _
  · unfold providePrimary
    split
    next => exact .throw _
    next => exact (provide_blind _ _ _ _ _).orFail _
  · unfold provideAssociate
    split
    next => exact (provide_blind _ _ _ _ _).orFail _
    next => exact .pure _

theorem fulfil_blind (saleId : Int) (paymentId : String) (now : Instant) (withAssociate : Bool) :
    Blind (fulfil saleId paymentId now withAssociate) := by
  refine ((SaleBook.find_blind _).orFail _).bind fun entry => ?_
  split
  next => exact .pure _
  next =>
    refine (provideAll_blind _ _ _).bind fun provided => ?_
    exact ((SaleBook.replace_blind _).orFail _).bind fun _ => .pure _

end Fulfilment

namespace Household

variable {ε : Type} {settings : Settings} {sale : Sale} {now : Instant} {d : Desk}

/-- A coherent desk that looks like one with the store `s`. -/
def LooksLike (s : Store) (d : Desk) : Prop := d.Coherent ∧ s.Alike d.store

theorem notes_keep_looks {s : Store} {notes : List Note}
    (apart : ∀ n ∈ notes, n.field.name ∉ Store.personal) :
    Keeps (LooksLike s) (notes.forM note : Action ε Unit) := by
  refine notes_keep fun n mem => note_keeps fun d before => ?_
  refine ⟨before.1.of_frame (setValue_touches n.field n.userId n.value d), ?_⟩
  exact before.2.trans (setValue_alike n.field (apart n mem) n.userId n.value before.1)

theorem addressNotes_apart (sale : Sale) (today : Time.Date) :
    ∀ n ∈ addressNotes sale today, n.field.name ∉ Store.personal := by
  intro n mem
  obtain ⟨userId, _, mem⟩ := List.mem_flatMap.mp mem
  simp only [List.mem_cons, List.not_mem_nil, or_false] at mem
  rcases mem with rfl | rfl | rfl
  · exact (by decide : ProfileField.dateLastPaid.name ∉ Store.personal)
  · exact (by decide : ProfileField.membersAtAddress.name ∉ Store.personal)
  · exact (by decide : ProfileField.friendsAtAddress.name ∉ Store.personal)

theorem paymentNotes_apart (settings : Settings) (sale : Sale) (total : Money.Decimal) :
    ∀ n ∈ paymentNotes settings sale total, n.field.name ∉ Store.personal := by
  intro n mem
  simp only [paymentNotes, List.mem_append, List.mem_cons, List.not_mem_nil, or_false,
    List.mem_ite_nil_right] at mem
  rcases mem with ((rfl | rfl) | ⟨_, rfl⟩) | rfl | rfl | rfl
  · exact (by decide : ProfileField.lastPayment.name ∉ Store.personal)
  · exact (by decide : ProfileField.friendOfTheMuseum.name ∉ Store.personal)
  · exact (by decide : ProfileField.friendOfTheMuseum.name ∉ Store.personal)
  · exact (by decide : ProfileField.donationToSociety.name ∉ Store.personal)
  · exact (by decide : ProfileField.donationToMuseum.name ∉ Store.personal)
  · exact (by decide : ProfileField.giftAid.name ∉ Store.personal)

theorem orFault_keeps {α : Type} {P : Desk → Prop} (r : Except ε α) : Keeps P (orFault r) := by
  cases r with
  | ok a => exact .pure a
  | error e => exact .throw e

theorem record_keeps_looks (settings : Settings) (sale : Sale) (now : Instant) (s : Store) :
    Keeps (LooksLike s) (record settings sale now) := by
  refine (orFault_keeps _).bind fun today => ?_
  refine (notes_keep_looks (addressNotes_apart sale today)).bind fun _ => ?_
  exact (orFault_keeps _).bind fun total => notes_keep_looks (paymentNotes_apart settings sale total)

/-- Whatever comes of the notes, the desk looks the same behind them. -/
theorem keep_alike (settings : Settings) (sale : Sale) (now : Instant) (h : d.Coherent) :
    d.Alike (Action.deskOf (keep settings sale now d)) := by
  have touches := (record_touches settings sale now).orFail some
  have keeps := (record_keeps_looks settings sale now d.store).orFail some
  unfold keep
  cases ran : ((record settings sale now).orFail some).transaction none d with
  | ok _ d' =>
      have behind := keeps.of_ok (Action.transaction_ok.mp ran).2 ⟨h, .refl _⟩
      exact ⟨h, behind.1, behind.2⟩
  | error stop d' =>
      have frame := Action.transaction_error touches ran
      have behind : d.Alike d' := by
        refine ⟨h, h.of_frame frame, ?_⟩
        rw [frame.store.eq]
        exact .refl _
      cases stop with
      | none => exact behind
      | some fault => exact behind

/-- The fault that the notes about a sale run into, none where they come to their end. -/
def fault? (sale : Sale) (now : Instant) : Option Fault :=
  match Time.London.today now with
  | .error fault => some fault
  | .ok _ =>
      match sale.total with
      | .error fault => some fault
      | .ok _ => none

theorem keep_ends (settings : Settings) (sale : Sale) (now : Instant)
    (connected : d.connected = true) :
    Action.error? (keep settings sale now d) = fault? sale now := by
  have failing : ∀ fault d', record settings sale now d = .error fault d' →
      Action.error? (keep settings sale now d) = some fault := by
    intro fault d' failed
    unfold keep
    rw [Action.transaction, connected, if_pos rfl, Action.orFail_of_error failed]
    rfl
  unfold fault?
  cases dated : Time.London.today now with
  | error fault =>
      refine failing fault d ?_
      unfold record
      rw [dated]
      rfl
  | ok today =>
      cases summed : sale.total with
      | ok total =>
          obtain ⟨d', kept⟩ := keep_succeeds settings dated summed d
          rw [kept]
          rfl
      | error fault =>
          obtain ⟨d₁, first⟩ := notes_succeed (ε := Fault) (addressNotes sale today) d
          refine failing fault d₁ ?_
          unfold record
          rw [dated, summed]
          exact (Action.bind_of_ok rfl).trans
            ((Action.bind_of_ok first).trans (Action.bind_of_error rfl))

end Household

end Dues
