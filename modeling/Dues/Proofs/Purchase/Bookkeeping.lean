import Dues.Proofs.Purchase.Completion
import Dues.Proofs.Purchase.Recorded
import Dues.Proofs.Register.Removal

/-! # Household records with fields missing

The profile fields of the household records need not be there. Whichever have been removed, and
whether or not their numbers were looked up before, each note in one of the others is made as if all
were there. This is so for as long as no two notes are about the same field of the same user: of two
such notes only the later one would stay.
-/

namespace Dues

open Dues.Action (Keeps Touches)
open Dues.Money (Decimal)
open Dues.Register
open Dues.Time (Date Instant)

namespace Desk.Running

theorem apart_from_sales : Desk.ApartFromSales Desk.Running := fun _ _ frame before =>
  before.of_frame frame (by decide)

end Desk.Running

namespace Fulfilment

theorem describe_running (userId : Int) (person : Participant) :
    Keeps Desk.Running (describe userId person) := by
  refine (setValue_keeps_running _ _ _).bind fun _ => ?_
  refine (setValue_keeps_running _ _ _).bind fun _ => ?_
  split
  next => exact setValue_keeps_running _ _ _
  next => exact .pure _

theorem provide_running (person : Participant) (known : Int) (loginName : String) (now : Instant)
    (year : Int) : Keeps Desk.Running (provide person known loginName now year) := by
  unfold provide
  dsimp only
  split
  next => exact ((extend_touches _ _).running (by decide)).bind fun _ => .pure _
  next =>
    refine ((accountNumber_touches _).running (by decide)).bind fun userId => ?_
    refine ((membership?_touches _).running (by decide)).bind fun m => ?_
    have described : Keeps Desk.Running (describe userId person >>= fun _ => pure userId) :=
      (describe_running userId person).bind fun _ => .pure userId
    cases m with
    | some row => exact ((extend_touches _ _).running (by decide)).bind fun _ => described
    | none => exact ((enrol_touches _ _ _ _).running (by decide)).bind fun _ => described

end Fulfilment

theorem Household.record_running (settings : Settings) (sale : Sale) (now : Instant) :
    Keeps Desk.Running (record settings sale now) :=
  record_preserves Desk.Running.apart_from_sales settings sale now
    (fun _ _ _ => setValue_keeps_running _ _ _) fun _ _ _ => setValue_keeps_running _ _ _

theorem Visit.serve_running {d : Desk} (h : d.Running) (v : Visit) : (v.serve d).2.Running :=
  v.serve_preserves Desk.Running.apart_from_sales Fulfilment.provide_running
    Household.record_running h

/-- What happens at a desk over the time. -/
inductive Happening : Type 1 where
  | visit (v : Visit)
  /-- A profile field is removed, with its values. -/
  | removal (name : String)
  /-- The desk opens anew. Nothing is known then that was looked up before. -/
  | reopening

namespace Desk

def behind (d : Desk) : Happening → Desk
  | .visit v => (v.serve d).2
  | .removal name => Action.deskOf (removeField name d)
  | .reopening => { d with fieldIds := [] }

/-- The desk after all that has happened at it. -/
def afterAll (d : Desk) (happenings : List Happening) : Desk := happenings.foldl behind d

theorem initial_running : initial.Running := by
  have empty : ∀ userId fieldId, initial.store.texts userId fieldId = [] := fun _ _ => rfl
  refine ⟨rfl, rfl, rfl, fun _ mem => (nomatch mem), fun userId fieldId => ?_,
    fun userId fieldId there => absurd (empty userId fieldId) there⟩
  rw [empty]
  exact Nat.zero_le 1

theorem Running.behind {d : Desk} (h : d.Running) (happening : Happening) :
    (d.behind happening).Running := by
  cases happening with
  | visit v => exact v.serve_running h
  | removal name => exact removeField_running name d h
  | reopening => exact h.reopened

theorem Running.afterAll {d : Desk} (h : d.Running) (happenings : List Happening) :
    (d.afterAll happenings).Running := by
  induction happenings generalizing d with
  | nil => exact h
  | cons happening happenings ih => exact ih (h.behind happening)

end Desk

namespace Household

variable {ε : Type} {d d' : Desk} {s s' s'' : Store} {notes notes' : List Note} {sale : Sale}
  {settings : Settings} {now : Instant}

/-- Notes about different users, or about different fields. -/
def Note.Apart (n m : Note) : Prop := n.userId ≠ m.userId ∨ n.field.name ≠ m.field.name

/-- What a store has once some notes have been made as far as their fields are there. -/
structure Carried (notes : List Note) (s s' : Store) : Prop where
  rest : ∃ values, s' = { s with values }
  made : ∀ n ∈ notes, ∀ fieldId, s.fieldId? n.field.name = .ok (some fieldId) →
    s'.texts n.userId fieldId = [n.type.encode n.value]
  others : ∀ userId fieldId, (∀ n ∈ notes, n.userId = userId →
    s.fieldId? n.field.name ≠ .ok (some fieldId)) → s'.texts userId fieldId = s.texts userId fieldId

namespace Carried

theorem fieldId? (h : Carried notes s s') (name : String) : s'.fieldId? name = s.fieldId? name := by
  obtain ⟨values, rfl⟩ := h.rest
  rfl

theorem users (h : Carried notes s s') : s'.users = s.users := by
  obtain ⟨values, rfl⟩ := h.rest
  rfl

theorem nil : Carried [] s s := ⟨⟨s.values, rfl⟩, fun _ mem => (nomatch mem), fun _ _ _ => rfl⟩

theorem append (h : Carried notes s s') (h' : Carried notes' s' s'')
    (apart : ∀ n ∈ notes, ∀ m ∈ notes', n.Apart m) : Carried (notes ++ notes') s s'' where
  rest := by
    obtain ⟨values, rfl⟩ := h.rest
    obtain ⟨values', rfl⟩ := h'.rest
    exact ⟨values', rfl⟩
  made n mem fieldId looked := by
    rcases List.mem_append.mp mem with mem | mem
    · rw [h'.others n.userId fieldId fun m mem' same looked' => ?_]
      · exact h.made n mem fieldId looked
      · rw [h.fieldId?] at looked'
        rcases apart n mem m mem' with other | other
        · exact other same.symm
        · exact other (Store.fieldId?_injective looked looked')
    · exact h'.made n mem fieldId ((h.fieldId? _).trans looked)
  others userId fieldId free := by
    rw [h'.others userId fieldId fun m mem same looked =>
      free m (List.mem_append_right _ mem) same ((h.fieldId? _).symm.trans looked)]
    exact h.others userId fieldId fun n mem => free n (List.mem_append_left _ mem)

end Carried

/-- A note is made if its field is there, and is left out if not. -/
theorem note_carried (h : d.Running) {n : Note} (user : d.store.users.contains n.userId = true)
    (ok : (note n : Action ε Unit) d = .ok () d') : Carried [n] d.store d'.store := by
  unfold note at ok
  rcases setValue_running h n.field n.userId n.value with
    ⟨e, mid, run, same, unknown⟩ | ⟨fieldId, mid, run, looked, kept⟩
  · rw [run] at ok
    cases ok
    rw [same]
    refine ⟨⟨_, rfl⟩, fun m mem number found => ?_, fun _ _ _ => rfl⟩
    cases List.mem_singleton.mp mem
    cases (unknown user).symm.trans found
  · rw [run] at ok
    cases ok
    refine ⟨⟨_, kept.rest⟩, fun m mem number found => ?_, fun userId number free => ?_⟩
    · cases List.mem_singleton.mp mem
      cases looked.symm.trans found
      exact kept.alone (h.single n.userId fieldId)
    · refine kept.others userId number ?_
      by_cases own : userId = n.userId
      · exact .inl fun same => free n List.mem_cons_self own.symm (same ▸ looked)
      · exact .inr own

theorem notes_carried (h : d.Running)
    (users : ∀ n ∈ notes, d.store.users.contains n.userId = true)
    (apart : notes.Pairwise Note.Apart) (ok : (notes.forM note : Action ε Unit) d = .ok () d') :
    Carried notes d.store d'.store := by
  induction notes generalizing d with
  | nil =>
      obtain ⟨_, rfl⟩ := Action.pure_ok.mp ok
      exact .nil
  | cons n notes ih =>
      obtain ⟨_, mid, first, rest⟩ := Action.bind_ok.mp ok
      obtain ⟨before, apart⟩ := List.pairwise_cons.mp apart
      have noted := note_carried h (users n List.mem_cons_self) first
      have behind := (note_keeps (setValue_keeps_running n.field n.userId n.value)).of_ok first h
      have later := ih behind
        (fun m mem => noted.users ▸ users m (List.mem_cons_of_mem n mem)) apart rest
      exact noted.append later fun m mem => List.mem_singleton.mp mem ▸ before

/-- The persons of a fulfilled sale who have an account. -/
def persons (sale : Sale) : List Participant :=
  sale.primary :: if 0 < sale.associate.userId then [sale.associate] else []

theorem users_eq_map (sale : Sale) : users sale = (persons sale).map (·.userId) := by
  unfold users persons
  split <;> rfl

theorem friends_eq_countP (sale : Sale) : friends sale = (persons sale).countP (·.friend) := by
  unfold friends persons
  by_cases alone : 0 < sale.associate.userId
  · rw [if_pos alone, decide_eq_true alone, Bool.true_and, List.countP_cons, List.countP_cons,
      List.countP_nil, Nat.zero_add, Nat.add_comm]
  · rw [if_neg alone, decide_eq_false alone, Bool.false_and, List.countP_cons, List.countP_nil,
      Nat.zero_add, if_neg Bool.false_ne_true, Nat.add_zero]

/-- Two notes about a household of different users are never about the same value. -/
theorem notes_apart (apart : sale.associate.userId ≠ sale.primary.userId) (settings : Settings)
    (today : Date) (total : Decimal) :
    (addressNotes sale today ++ paymentNotes settings sale total).Pairwise Note.Apart := by
  by_cases two : 0 < sale.associate.userId <;>
    simp [addressNotes, paymentNotes, users, two, apart, apart.symm, Note.Apart,
      ProfileField.dateLastPaid, ProfileField.membersAtAddress, ProfileField.friendsAtAddress,
      ProfileField.lastPayment, ProfileField.friendOfTheMuseum, ProfileField.donationToSociety,
      ProfileField.donationToMuseum, ProfileField.giftAid]

theorem note_userId (settings : Settings) (today : Date) (total : Decimal) {n : Note}
    (mem : n ∈ addressNotes sale today ++ paymentNotes settings sale total) :
    n.userId ∈ (persons sale).map (·.userId) := by
  rw [← users_eq_map]
  rcases List.mem_append.mp mem with mem | mem
  · obtain ⟨userId, own, mem⟩ := List.mem_flatMap.mp mem
    simp only [List.mem_cons, List.not_mem_nil, or_false] at mem
    rcases mem with rfl | rfl | rfl <;> exact own
  · simp only [paymentNotes, List.mem_append, List.mem_cons, List.not_mem_nil, or_false,
      List.mem_ite_nil_right] at mem
    rcases mem with ((rfl | rfl) | ⟨two, rfl⟩) | rfl | rfl | rfl <;> simp [users, *]

end Household

/-- Whether `value` is all that is kept for a user in a field, where there is such a field. -/
def Store.Shows (s : Store) (userId : Int) {t : ValueType} (field : ProfileField t)
    (value : t.Value) : Prop :=
  ∀ fieldId, s.fieldId? field.name = .ok (some fieldId) → s.texts userId fieldId = [t.encode value]

namespace Household

theorem Carried.shows (h : Carried notes s s') {n : Note} (mem : n ∈ notes) :
    s'.Shows n.userId n.field n.value := fun fieldId looked =>
  h.made n mem fieldId ((h.fieldId? _).symm.trans looked)

/-- The fields that something is noted in for every person of a household. -/
def ofPersons : List String :=
  [ProfileField.dateLastPaid.name, ProfileField.membersAtAddress.name,
    ProfileField.friendsAtAddress.name, ProfileField.friendOfTheMuseum.name]

/-- The fields that something is noted in for the first person only. -/
def ofPayment : List String :=
  [ProfileField.lastPayment.name, ProfileField.donationToSociety.name,
    ProfileField.donationToMuseum.name, ProfileField.giftAid.name]

/-- The records of a household once its sale has been noted. Values in fields that are there are as
they should be, all other values are as they were, and so is everything else. -/
structure Recorded (settings : Settings) (sale : Sale) (today : Date) (total : Decimal)
    (s s' : Store) : Prop where
  rest : ∃ values, s' = { s with values }
  dateLastPaid : ∀ p ∈ persons sale, s'.Shows p.userId .dateLastPaid today
  membersAtAddress : ∀ p ∈ persons sale,
    s'.Shows p.userId .membersAtAddress ((persons sale).length : Int)
  friendsAtAddress : ∀ p ∈ persons sale,
    s'.Shows p.userId .friendsAtAddress ((persons sale).countP (·.friend) : Int)
  friendOfTheMuseum : ∀ p ∈ persons sale, s'.Shows p.userId .friendOfTheMuseum p.friend
  lastPayment : s'.Shows sale.primary.userId .lastPayment total
  donationToSociety : s'.Shows sale.primary.userId .donationToSociety sale.donationToSociety
  donationToMuseum : s'.Shows sale.primary.userId .donationToMuseum sale.donationToMuseum
  giftAid : s'.Shows sale.primary.userId .giftAid (settings.giftAid && sale.giftAid)
  others : ∀ userId fieldId,
    (userId ∈ (persons sale).map (·.userId) → ∀ name ∈ ofPersons,
      s.fieldId? name ≠ .ok (some fieldId)) →
    (userId = sale.primary.userId → ∀ name ∈ ofPayment, s.fieldId? name ≠ .ok (some fieldId)) →
      s'.texts userId fieldId = s.texts userId fieldId

theorem addressNotes_mem (today : Date) {p : Participant} (mem : p ∈ persons sale) :
    ⟨.date, .dateLastPaid, p.userId, today⟩ ∈ addressNotes sale today ∧
      ⟨.integer, .membersAtAddress, p.userId, ((persons sale).length : Int)⟩ ∈
        addressNotes sale today ∧
      ⟨.integer, .friendsAtAddress, p.userId, ((persons sale).countP (·.friend) : Int)⟩ ∈
        addressNotes sale today := by
  have own : p.userId ∈ users sale := by
    rw [users_eq_map]
    exact List.mem_map_of_mem mem
  have noted : ∀ n ∈ ([⟨.date, .dateLastPaid, p.userId, today⟩,
      ⟨.integer, .membersAtAddress, p.userId, ((users sale).length : Int)⟩,
      ⟨.integer, .friendsAtAddress, p.userId, (friends sale : Int)⟩] : List Note),
        n ∈ addressNotes sale today := fun n mem => List.mem_flatMap.mpr ⟨p.userId, own, mem⟩
  rw [users_eq_map, List.length_map, friends_eq_countP] at noted
  simpa only [List.forall_mem_cons, List.not_mem_nil, false_implies, implies_true, and_true]
    using noted

theorem friendOfTheMuseum_mem (settings : Settings) (total : Decimal) {p : Participant}
    (mem : p ∈ persons sale) :
    ⟨.flag, .friendOfTheMuseum, p.userId, p.friend⟩ ∈ paymentNotes settings sale total := by
  unfold persons at mem
  rcases List.mem_cons.mp mem with rfl | mem
  · simp [paymentNotes]
  · obtain ⟨two, mem⟩ := List.mem_ite_nil_right.mp mem
    cases List.mem_singleton.mp mem
    simp [paymentNotes, two]

theorem paymentNotes_mem (settings : Settings) (sale : Sale) (total : Decimal) :
    ⟨.decimal, .lastPayment, sale.primary.userId, total⟩ ∈ paymentNotes settings sale total ∧
      ⟨.decimal, .donationToSociety, sale.primary.userId, sale.donationToSociety⟩ ∈
        paymentNotes settings sale total ∧
      ⟨.decimal, .donationToMuseum, sale.primary.userId, sale.donationToMuseum⟩ ∈
        paymentNotes settings sale total ∧
      ⟨.flag, .giftAid, sale.primary.userId, settings.giftAid && sale.giftAid⟩ ∈
        paymentNotes settings sale total := by
  simp [paymentNotes]

theorem note_name (settings : Settings) (today : Date) (total : Decimal) {n : Note}
    (mem : n ∈ addressNotes sale today ++ paymentNotes settings sale total) :
    n.field.name ∈ ofPersons ∨ n.userId = sale.primary.userId ∧ n.field.name ∈ ofPayment := by
  rcases List.mem_append.mp mem with mem | mem
  · obtain ⟨userId, own, mem⟩ := List.mem_flatMap.mp mem
    simp only [List.mem_cons, List.not_mem_nil, or_false] at mem
    rcases mem with rfl | rfl | rfl <;> simp [ofPersons]
  · simp only [paymentNotes, List.mem_append, List.mem_cons, List.not_mem_nil, or_false,
      List.mem_ite_nil_right] at mem
    rcases mem with ((rfl | rfl) | ⟨two, rfl⟩) | rfl | rfl | rfl <;> simp [ofPersons, ofPayment]

theorem Carried.recorded {today : Date} {total : Decimal}
    (h : Carried (addressNotes sale today ++ paymentNotes settings sale total) s s') :
    Recorded settings sale today total s s' where
  rest := h.rest
  dateLastPaid p mem := h.shows (List.mem_append_left _ (addressNotes_mem today mem).1)
  membersAtAddress p mem := h.shows (List.mem_append_left _ (addressNotes_mem today mem).2.1)
  friendsAtAddress p mem := h.shows (List.mem_append_left _ (addressNotes_mem today mem).2.2)
  friendOfTheMuseum p mem :=
    h.shows (List.mem_append_right _ (friendOfTheMuseum_mem settings total mem))
  lastPayment := h.shows (List.mem_append_right _ (paymentNotes_mem settings sale total).1)
  donationToSociety := h.shows (List.mem_append_right _ (paymentNotes_mem settings sale total).2.1)
  donationToMuseum := h.shows (List.mem_append_right _ (paymentNotes_mem settings sale total).2.2.1)
  giftAid := h.shows (List.mem_append_right _ (paymentNotes_mem settings sale total).2.2.2)
  others userId fieldId persons payment := by
    refine h.others userId fieldId fun n mem own => ?_
    have known := note_userId settings today total mem
    rw [own] at known
    rcases note_name settings today total mem with named | ⟨first, named⟩
    · exact persons known _ named
    · exact payment (own.symm.trans first) _ named

/-- Whatever fields are there, the records of a household of different users come out right. -/
theorem keep_recorded (h : d.Running)
    (accounts : ∀ p ∈ persons sale, d.store.users.contains p.userId = true)
    (apart : sale.associate.userId ≠ sale.primary.userId)
    (ok : keep settings sale now d = .ok () d') :
    ∃ today total, Time.London.today now = .ok today ∧ sale.total = .ok total ∧
      Recorded settings sale today total d.store d'.store := by
  obtain ⟨today, d₁, looked, ok⟩ := Action.bind_ok.mp (keep_ok h.connected ok)
  obtain ⟨dated, rfl⟩ := orFault_ok.mp looked
  obtain ⟨_, d₂, addressed, ok⟩ := Action.bind_ok.mp ok
  obtain ⟨total, d₃, added, ok⟩ := Action.bind_ok.mp ok
  obtain ⟨summed, rfl⟩ := orFault_ok.mp added
  obtain ⟨before, behind, between⟩ :=
    List.pairwise_append.mp (notes_apart apart settings today total)
  have users : ∀ n ∈ addressNotes sale today ++ paymentNotes settings sale total,
      d.store.users.contains n.userId = true := by
    intro n mem
    obtain ⟨p, own, same⟩ := List.mem_map.mp (note_userId settings today total mem)
    exact same ▸ accounts p own
  have first := notes_carried h (fun n mem => users n (List.mem_append_left _ mem)) before addressed
  have h₂ : d₂.Running := (notes_keep fun n _ =>
    note_keeps (setValue_keeps_running n.field n.userId n.value)).of_ok addressed h
  have second := notes_carried h₂
    (fun n mem => first.users ▸ users n (List.mem_append_right _ mem)) behind ok
  exact ⟨today, total, dated, summed, (first.append second between).recorded⟩

end Household

namespace Desk

/-- Whatever fields of the household records have been removed by then, whoever is told that a sale
has been fulfilled, for different users if two, leaves the records of the household as they should
be. They are made apart from the fulfilment, whose outcome they do not touch. -/
theorem fulfilled_household_is_recorded (happenings : List Happening) (v : Visit) (sale : Sale)
    (told : (v.serve (initial.afterAll happenings)).1 = .settled (.fulfilled sale))
    (apart : sale.associate.userId ≠ sale.primary.userId) :
    ∃ mid today total,
      Fulfilment.fulfil sale.id v.paymentId v.now v.settings.otherMemberTypes
        (initial.afterAll happenings) = .ok (.fulfilled sale) mid ∧
      Time.London.today v.now = .ok today ∧ sale.total = .ok total ∧
      Household.Recorded v.settings sale today total mid.store
        (v.serve (initial.afterAll happenings)).2.store := by
  have running := initial_running.afterAll happenings
  obtain ⟨mid, fulfil, _, kept⟩ := Visit.serve_told told
  have behind := (Fulfilment.fulfil_preserves Running.apart_from_sales Fulfilment.provide_running
    _ _ _ _).of_ok fulfil running
  have differ : (initial.afterAll happenings).store.RoleNamesDiffer := by
    unfold Store.RoleNamesDiffer
    rw [running.roles]
    decide +kernel
  obtain ⟨primary, associate, _⟩ := Fulfilment.fulfil_entitles differ fulfil
  have accounts : ∀ p ∈ Household.persons sale, mid.store.users.contains p.userId = true := by
    intro p mem
    rcases List.mem_cons.mp mem with rfl | mem
    · exact Store.Table.contains_eq_true.mpr primary.account
    · obtain ⟨two, mem⟩ := List.mem_ite_nil_right.mp mem
      cases List.mem_singleton.mp mem
      exact Store.Table.contains_eq_true.mpr (associate (by omega)).account
  obtain ⟨today, total, dated, summed, recorded⟩ :=
    Household.keep_recorded behind accounts apart kept
  exact ⟨mid, today, total, fulfil, dated, summed, recorded⟩

/-- Ada has bought a membership, so the numbers of all fields are known. Then two of the fields are
removed, and a couple buys one. -/
theorem couple_is_recorded_without_two_fields :
    let ada : Site.MembershipForm :=
      { firstName := "Ada", lastName := "Lovelace", email := "ada@example.org" }
    let couple : Site.MembershipForm :=
      { firstName := "Grace", lastName := "Hopper", email := "grace@example.org",
        associateFirstName := "Vincent", associateLastName := "Hopper"
        associateFriend := some "on", donationToMuseum := "2.50", giftAid := some "on" }
    let happenings := [.visit (.sampleStart 1757926800 ada), .visit (.sampleReturn 1757930400 1),
      .visit (.sampleStart 1757934000 couple), .removal ProfileField.giftAid.name,
      .removal ProfileField.membersAtAddress.name]
    let desk := initial.afterAll happenings
    let back := Visit.sampleReturn 1757937600 2
    (desk.fieldIds.lookup ProfileField.giftAid.name).isSome = true ∧
      ∃ sale, (back.serve desk).1 = .settled (.fulfilled sale) ∧
        sale.associate.userId ≠ sale.primary.userId ∧
        ∃ mid today total,
          Fulfilment.fulfil sale.id back.paymentId back.now back.settings.otherMemberTypes desk =
            .ok (.fulfilled sale) mid ∧
          Time.London.today back.now = .ok today ∧ sale.total = .ok total ∧
          Household.Recorded back.settings sale today total mid.store
            (back.serve desk).2.store := by
  intro ada couple happenings desk back
  have told : ((back.serve desk).1.fulfilled?.any fun sale =>
      decide (0 < sale.associate.userId ∧ sale.associate.userId ≠ sale.primary.userId)) = true := by
    decide +kernel
  obtain ⟨sale, told, two⟩ := (Option.any_eq_true _ _).mp told
  have apart := (of_decide_eq_true two).2
  have answer := Answer.fulfilled?_eq_some.mp told
  exact ⟨by decide +kernel, sale, answer, apart,
    fulfilled_household_is_recorded happenings back sale answer apart⟩

end Desk

end Dues
