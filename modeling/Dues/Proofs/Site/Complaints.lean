import Dues.Proofs.Site.Sections
import Dues.Proofs.Site.Tariff

/-! # What is complained about

Three passes read the same texts, each for itself: a form is checked, it is made into an order, and
the order is priced. They agree. A form is accepted just where each field passes all of its checks;
a field that does not is named together with the first check that it fails; and what was accepted
is still there when it comes to the sale.
-/

namespace Dues

open Dues.Money (Decimal)
open Dues.Text (trim isBlankText)
open Dues.Time (Instant)

theorem Text.isBlankText_iff {s : String} : isBlankText s = true ↔ trim s = "" := by
  rw [← trim_isEmpty, String.isEmpty_iff]

theorem Money.Decimal.value_nonneg_iff {d : Decimal} : 0 ≤ d.value ↔ d.isNegative = false := by
  constructor
  · intro nonnegative
    have product := mul_nonneg nonnegative (ten_pow_pos' d.scale).le
    rw [value_mul_pow] at product
    exact decide_eq_false (Int.not_lt.mpr (by exact_mod_cast product))
  · exact fun natural => (atLeast_zero natural).value_nonneg

namespace Site

/-- A check that a field has to pass, and what is said about the field where it does not. -/
structure Check where
  passes : Prop
  message : String

namespace Check

def given (s : String) : Check where
  passes := trim s ≠ ""
  message := "required"

def emailIfGiven (s : String) : Check where
  passes := trim s = "" ∨ Address.Email.isValid (trim s) = true
  message := "must be a valid email address"

def numberIfGiven (s : String) : Check where
  passes := trim s = "" ∨ ∃ amount, Decimal.ofText? (trim s) = some amount
  message := "must be a number"

def naturalIfGiven (s : String) : Check where
  passes := trim s = "" ∨ ∀ amount, Decimal.ofText? (trim s) = some amount → 0 ≤ amount.value
  message := "must be 0 or greater"

variable {checks checks' : List Check} {message message' : String}

/-- A field can fail several checks. The first of them is the one that counts. -/
inductive FirstFailure : List Check → String → Prop
  | here {check : Check} {checks : List Check} (fails : ¬ check.passes) :
      FirstFailure (check :: checks) check.message
  | later {check : Check} {checks : List Check} {message : String} (passes : check.passes)
      (failure : FirstFailure checks message) : FirstFailure (check :: checks) message

namespace FirstFailure

theorem unique (failure : FirstFailure checks message) (failure' : FirstFailure checks message') :
    message = message' := by
  induction failure with
  | here fails =>
      cases failure' with
      | here => rfl
      | later passes => exact absurd passes fails
  | later passes _ ih =>
      cases failure' with
      | here fails => exact absurd passes fails
      | later _ failure' => exact ih failure'

theorem not_all (failure : FirstFailure checks message) : ¬ ∀ check ∈ checks, check.passes := by
  induction failure with
  | here fails => exact fun all => fails (all _ List.mem_cons_self)
  | later _ _ ih => exact fun all => ih fun check mem => all check (List.mem_cons_of_mem _ mem)

theorem append (passed : ∀ check ∈ checks, check.passes) (failure : FirstFailure checks' message) :
    FirstFailure (checks ++ checks') message := by
  induction checks with
  | nil => exact failure
  | cons check checks ih =>
      exact .later (passed check List.mem_cons_self)
        (ih fun other mem => passed other (List.mem_cons_of_mem _ mem))

theorem append_left (failure : FirstFailure checks message) :
    FirstFailure (checks ++ checks') message := by
  induction failure with
  | here fails => exact .here fails
  | later passes _ ih => exact .later passes ih

end FirstFailure

end Check

open Check (FirstFailure)

/-- What was found wrong with a field, if anything was, is what its checks come to. -/
inductive Complaint.Answers : Option Complaint → List Check → Prop
  | passed {checks : List Check} (all : ∀ check ∈ checks, check.passes) : Answers none checks
  | failed {complaint : Complaint} {checks : List Check}
      (failure : FirstFailure checks complaint.message) : Answers (some complaint) checks

namespace Complaint.Answers

variable {found found' : Option Complaint} {checks checks' : List Check} {message : String}

theorem passed_iff (h : Answers found checks) :
    found = none ↔ ∀ check ∈ checks, check.passes := by
  cases h with
  | passed all => exact iff_of_true rfl all
  | failed failure => exact iff_of_false (fun none => nomatch none) failure.not_all

theorem failed_iff (h : Answers found checks) :
    (∃ complaint, found = some complaint ∧ complaint.message = message) ↔
      FirstFailure checks message := by
  cases h with
  | passed all =>
      refine iff_of_false ?_ fun failure => failure.not_all all
      rintro ⟨_, none, _⟩
      cases none
  | failed failure =>
      constructor
      · rintro ⟨_, same, rfl⟩
        cases same
        exact failure
      · exact fun failure' => ⟨_, rfl, failure.unique failure'⟩

theorem orElse (h : Answers found checks) (h' : Answers found' checks') :
    Answers (found <|> found') (checks ++ checks') := by
  cases h with
  | failed failure => exact .failed failure.append_left
  | passed all =>
      cases h' with
      | passed all' =>
          exact .passed fun check mem => (List.mem_append.mp mem).elim (all check) (all' check)
      | failed failure => exact .failed (failure.append all)

end Complaint.Answers

open Complaint (Answers)

theorem checkRequired_answers (s : String) : Answers (checkRequired s) [.given s] := by
  unfold checkRequired
  split
  next blank => exact .failed (.here (not_not.mpr (Text.isBlankText_iff.mp blank)))
  next given => exact .passed (List.forall_mem_singleton.mpr (mt Text.isBlankText_iff.mpr given))

theorem checkOptionalEmail_answers (s : String) :
    Answers (checkOptionalEmail s) [.emailIfGiven s] := by
  have either : (isBlankText s || Address.Email.isValid (trim s)) = true ↔
      (Check.emailIfGiven s).passes := by
    rw [Bool.or_eq_true, Text.isBlankText_iff]
    rfl
  unfold checkOptionalEmail
  split
  next passes => exact .passed (List.forall_mem_singleton.mpr (either.mp passes))
  next fails => exact .failed (.here (mt either.mpr fails))

theorem checkRequiredEmail_answers (s : String) :
    Answers (checkRequiredEmail s) [.given s, .emailIfGiven s] :=
  (checkRequired_answers s).orElse (checkOptionalEmail_answers s)

/-- The amount that a text stands for: nothing where it is blank, and otherwise what is read where
the blanks around it are left out. -/
inductive AmountText (s : String) : Decimal → Prop
  | blank (blank : trim s = "") : AmountText s Decimal.zero
  | written (amount : Decimal) (given : trim s ≠ "")
      (read : Decimal.ofText? (trim s) = some amount) (natural : 0 ≤ amount.value) :
      AmountText s amount

theorem AmountText.nonneg {s : String} {amount : Decimal} (h : AmountText s amount) :
    0 ≤ amount.value := by
  cases h with
  | blank => exact Decimal.zero_value.ge
  | written _ _ _ natural => exact natural

/-- A text stands for an amount just where it passes the checks for one. -/
theorem exists_amountText_iff {s : String} : (∃ amount, AmountText s amount) ↔
    ∀ check ∈ [Check.numberIfGiven s, .naturalIfGiven s], check.passes := by
  rw [List.forall_mem_cons, List.forall_mem_singleton]
  constructor
  · rintro ⟨amount, h⟩
    cases h with
    | blank blank => exact ⟨.inl blank, .inl blank⟩
    | written _ _ read natural =>
        refine ⟨.inr ⟨amount, read⟩, .inr fun other same => ?_⟩
        cases read.symm.trans same
        exact natural
  · rintro ⟨number, natural⟩
    by_cases blank : trim s = ""
    · exact ⟨_, .blank blank⟩
    · obtain ⟨amount, read⟩ := number.resolve_left blank
      exact ⟨amount, .written amount blank read (natural.resolve_left blank amount read)⟩

/-- What becomes of the text of an amount. -/
inductive Reading (s : String) : Except Complaint Decimal → Prop
  | amount {amount : Decimal} (h : AmountText s amount) : Reading s (.ok amount)
  | notANumber (given : trim s ≠ "") (unread : Decimal.ofText? (trim s) = none) :
      Reading s (.error .notANumber)
  | negative (amount : Decimal) (given : trim s ≠ "")
      (read : Decimal.ofText? (trim s) = some amount) (negative : ¬ 0 ≤ amount.value) :
      Reading s (.error .negative)

theorem readAmount_reading (s : String) : Reading s (readAmount s) := by
  unfold readAmount
  split
  next blank => exact .amount (.blank (Text.isBlankText_iff.mp blank))
  next given =>
    have given := mt Text.isBlankText_iff.mpr given
    split
    next unread => exact .notANumber given unread
    next amount read =>
      split
      next negative =>
        refine .negative amount given read fun nonnegative => ?_
        rw [Decimal.value_nonneg_iff.mp nonnegative] at negative
        cases negative
      next natural =>
        exact .amount (.written amount given read
          (Decimal.value_nonneg_iff.mpr (Bool.eq_false_iff.mpr natural)))

theorem checkAmount_answers (s : String) :
    Answers (checkAmount s) [.numberIfGiven s, .naturalIfGiven s] := by
  have reading := readAmount_reading s
  unfold checkAmount
  generalize readAmount s = r at reading
  cases reading with
  | amount h => exact .passed (exists_amountText_iff.mp ⟨_, h⟩)
  | notANumber given unread =>
      refine .failed (.here ?_)
      rintro (blank | ⟨_, read⟩)
      · exact given blank
      · cases unread.symm.trans read
  | negative amount given read negative =>
      refine .failed (.later (.inr ⟨amount, read⟩) (.here ?_))
      rintro (blank | natural)
      · exact given blank
      · exact negative (natural amount read)

namespace MembershipForm

variable {form : MembershipForm} {settings : Settings} {now : Instant} {name message : String}

/-- The checks that each field has to pass. -/
def fieldChecks (form : MembershipForm) : List (String × List Check) :=
  [("first_name", [.given form.firstName]),
    ("last_name", [.given form.lastName]),
    ("email", [.given form.email, .emailIfGiven form.email]),
    ("associate_email", [.emailIfGiven form.associateEmail]),
    ("donation_to_society",
      [.numberIfGiven form.donationToSociety, .naturalIfGiven form.donationToSociety]),
    ("donation_to_museum",
      [.numberIfGiven form.donationToMuseum, .naturalIfGiven form.donationToMuseum])]

/-- A form that the society can do something with. -/
structure Valid (form : MembershipForm) : Prop where
  firstName : trim form.firstName ≠ ""
  lastName : trim form.lastName ≠ ""
  email : trim form.email ≠ "" ∧ Address.Email.isValid (trim form.email) = true
  associateEmail :
    trim form.associateEmail = "" ∨ Address.Email.isValid (trim form.associateEmail) = true
  donationToSociety : ∃ amount, AmountText form.donationToSociety amount
  donationToMuseum : ∃ amount, AmountText form.donationToMuseum amount

theorem valid_iff : form.Valid ↔ ∀ field ∈ form.fieldChecks, ∀ check ∈ field.2, check.passes := by
  constructor
  · intro valid field mem
    simp only [fieldChecks, List.mem_cons, List.not_mem_nil, or_false] at mem
    rcases mem with rfl | rfl | rfl | rfl | rfl | rfl
    · exact List.forall_mem_singleton.mpr valid.firstName
    · exact List.forall_mem_singleton.mpr valid.lastName
    · exact List.forall_mem_cons.mpr
        ⟨valid.email.1, List.forall_mem_singleton.mpr (.inr valid.email.2)⟩
    · exact List.forall_mem_singleton.mpr valid.associateEmail
    · exact exists_amountText_iff.mp valid.donationToSociety
    · exact exists_amountText_iff.mp valid.donationToMuseum
  · intro all
    obtain ⟨firstName, all⟩ := List.forall_mem_cons.mp all
    obtain ⟨lastName, all⟩ := List.forall_mem_cons.mp all
    obtain ⟨email, all⟩ := List.forall_mem_cons.mp all
    obtain ⟨associateEmail, all⟩ := List.forall_mem_cons.mp all
    obtain ⟨toSociety, all⟩ := List.forall_mem_cons.mp all
    obtain ⟨given, email⟩ := List.forall_mem_cons.mp email
    exact {
      firstName := firstName _ List.mem_cons_self
      lastName := lastName _ List.mem_cons_self
      email := ⟨given, (List.forall_mem_singleton.mp email).resolve_left given⟩
      associateEmail := associateEmail _ List.mem_cons_self
      donationToSociety := exists_amountText_iff.mpr toSociety
      donationToMuseum := exists_amountText_iff.mpr (List.forall_mem_singleton.mp all) }

theorem checks_answered (form : MembershipForm) :
    List.Forall₂ (fun found field => found.1 = field.1 ∧ Answers found.2 field.2)
      form.checks form.fieldChecks :=
  .cons ⟨rfl, checkRequired_answers _⟩ <| .cons ⟨rfl, checkRequired_answers _⟩ <|
  .cons ⟨rfl, checkRequiredEmail_answers _⟩ <| .cons ⟨rfl, checkOptionalEmail_answers _⟩ <|
  .cons ⟨rfl, checkAmount_answers _⟩ <| .cons ⟨rfl, checkAmount_answers _⟩ .nil

theorem mem_complaints {complaint : Complaint} :
    (name, complaint) ∈ form.complaints ↔ (name, some complaint) ∈ form.checks := by
  simp [complaints, List.mem_filterMap]

theorem names_sublist (checks : List (String × Option Complaint)) :
    ((checks.filterMap fun (name, complaint) => complaint.map (name, ·)).map Prod.fst).Sublist
      (checks.map Prod.fst) := by
  induction checks with
  | nil => exact .slnil
  | cons check checks ih =>
      obtain ⟨name, complaint⟩ := check
      cases complaint with
      | none => exact ih.cons name
      | some complaint => exact ih.cons_cons name

theorem nodup_complaints (form : MembershipForm) : (form.complaints.map Prod.fst).Nodup := by
  have names : form.checks.map Prod.fst = ["first_name", "last_name", "email", "associate_email",
      "donation_to_society", "donation_to_museum"] := rfl
  exact (names_sublist form.checks).nodup (names ▸ by decide)

theorem passed_iff_of_answers {found : List (String × Option Complaint)}
    {fields : List (String × List Check)}
    (answered : List.Forall₂ (fun found field => found.1 = field.1 ∧ Answers found.2 field.2)
      found fields) :
    (∀ check ∈ found, check.2 = none) ↔ ∀ field ∈ fields, ∀ check ∈ field.2, check.passes := by
  induction answered with
  | nil => exact iff_of_true (fun check mem => nomatch mem) fun field mem => nomatch mem
  | cons head _ ih => rw [List.forall_mem_cons, List.forall_mem_cons, ih, head.2.passed_iff]

theorem failed_iff_of_answers {found : List (String × Option Complaint)}
    {fields : List (String × List Check)}
    (answered : List.Forall₂ (fun found field => found.1 = field.1 ∧ Answers found.2 field.2)
      found fields) :
    (∃ complaint, (name, some complaint) ∈ found ∧ complaint.message = message) ↔
      ∃ checks, (name, checks) ∈ fields ∧ FirstFailure checks message := by
  induction answered with
  | nil => simp
  | @cons check field _ _ head _ ih =>
      obtain ⟨name', complaint⟩ := check
      obtain ⟨name'', checks⟩ := field
      obtain ⟨same, answers⟩ := head
      cases same
      simp only [List.mem_cons, Prod.mk.injEq, or_and_right, exists_or, ih]
      refine or_congr ?_ Iff.rfl
      simp only [and_assoc, exists_and_left, exists_eq_left, ← answers.failed_iff,
        eq_comm (a := some _)]

theorem complaints_eq_nil_iff_valid : form.complaints = [] ↔ form.Valid := by
  rw [complaints_eq_nil_iff, valid_iff, passed_iff_of_answers form.checks_answered]

theorem complained_iff :
    (∃ complaint, (name, complaint) ∈ form.complaints ∧ complaint.message = message) ↔
      ∃ checks, (name, checks) ∈ form.fieldChecks ∧ FirstFailure checks message := by
  simp only [mem_complaints]
  exact failed_iff_of_answers form.checks_answered

theorem readAmount_of_amountText {s : String} {amount : Decimal} (h : AmountText s amount) :
    readAmount s = .ok amount := by
  unfold readAmount
  cases h with
  | blank blank => rw [if_pos (Text.isBlankText_iff.mpr blank)]
  | written _ given read natural =>
      rw [if_neg (mt Text.isBlankText_iff.mp given), read]
      exact if_neg (Bool.eq_false_iff.mp (Decimal.value_nonneg_iff.mp natural))

/-- What has become of a form in its order, and in the sale that the order comes to. -/
structure Carried (form : MembershipForm) (settings : Settings) (now : Instant) : Prop where
  toSociety : AmountText form.donationToSociety form.order.donationToSociety
  toMuseum : AmountText form.donationToMuseum form.order.donationToMuseum
  /-- Nothing stands in for a donation that cannot be read. -/
  read : readAmount form.donationToSociety = .ok form.order.donationToSociety ∧
    readAmount form.donationToMuseum = .ok form.order.donationToMuseum
  priced : (form.order.price settings now).donationToSociety = form.order.donationToSociety ∧
    (form.order.price settings now).donationToMuseum = form.order.donationToMuseum
  natural : 0 ≤ (form.order.price settings now).donationToSociety.value ∧
    0 ≤ (form.order.price settings now).donationToMuseum.value
  firstName : (form.order.price settings now).primary.firstName = trim form.firstName ∧
    trim form.firstName ≠ ""
  lastName : (form.order.price settings now).primary.lastName = trim form.lastName ∧
    trim form.lastName ≠ ""
  email : (form.order.price settings now).primary.email = trim form.email ∧ trim form.email ≠ ""
  associate : (form.order.price settings now).associate = {} ∨
    (form.order.price settings now).associate.firstName = trim form.associateFirstName ∧
      trim form.associateFirstName ≠ ""
  joined : (form.order.price settings now).associate.isPresent = true ↔
    settings.otherMemberTypes = true ∧ trim form.associateFirstName ≠ ""

theorem carried_of_valid (valid : form.Valid) (settings : Settings) (now : Instant) :
    form.Carried settings now := by
  obtain ⟨toSociety, society⟩ := valid.donationToSociety
  obtain ⟨toMuseum, museum⟩ := valid.donationToMuseum
  have readSociety := readAmount_of_amountText society
  have readMuseum := readAmount_of_amountText museum
  have sameSociety : form.order.donationToSociety = toSociety := amountOrZero_of_read readSociety
  have sameMuseum : form.order.donationToMuseum = toMuseum := amountOrZero_of_read readMuseum
  have associate := @associate_price settings now form
  have named : (settings.otherMemberTypes && !isBlankText form.associateFirstName) = true ↔
      settings.otherMemberTypes = true ∧ trim form.associateFirstName ≠ "" := by
    rw [Bool.and_eq_true, Bool.not_eq_true', ← Bool.not_eq_true, Text.isBlankText_iff]
  refine {
    toSociety := sameSociety ▸ society
    toMuseum := sameMuseum ▸ museum
    read := ⟨sameSociety ▸ readSociety, sameMuseum ▸ readMuseum⟩
    priced := ⟨rfl, rfl⟩
    natural := ⟨?_, ?_⟩
    firstName := ⟨rfl, valid.firstName⟩
    lastName := ⟨rfl, valid.lastName⟩
    email := ⟨rfl, valid.email.1⟩
    associate := ?_
    joined := ?_ }
  · exact (sameSociety ▸ society : AmountText _ form.order.donationToSociety).nonneg
  · exact (sameMuseum ▸ museum : AmountText _ form.order.donationToMuseum).nonneg
  · rw [associate]
    split
    next present => exact .inr ⟨rfl, (named.mp present).2⟩
    next => exact .inl rfl
  · rw [associate, ← named]
    split
    next present =>
      have given := (Bool.and_eq_true_iff.mp present).2
      exact iff_of_true (form.pricedAssociate_isPresent.trans given) present
    next absent => exact iff_of_false (fun present => nomatch present) absent

end MembershipForm

/-- Checks, orders and prices agree about every form. It is accepted just where it is valid. Where it
is not, there is one complaint for each field that does not pass its checks, which is that of the
first check it fails, and none for any other field. And an accepted form is carried over into its
order and its sale: each donation is the number that is read, the customer has a name and an email,
and there is no associate without a first name. -/
theorem checked_form_is_carried (form : MembershipForm) (settings : Settings) (now : Instant) :
    (form.complaints = [] ↔ form.Valid) ∧
    (form.complaints.map Prod.fst).Nodup ∧
    (∀ name message,
      (∃ complaint, (name, complaint) ∈ form.complaints ∧ complaint.message = message) ↔
        ∃ checks, (name, checks) ∈ form.fieldChecks ∧ FirstFailure checks message) ∧
    (form.complaints = [] → form.Carried settings now) :=
  ⟨MembershipForm.complaints_eq_nil_iff_valid, form.nodup_complaints,
    fun _ _ => MembershipForm.complained_iff, fun accepted =>
      MembershipForm.carried_of_valid (MembershipForm.complaints_eq_nil_iff_valid.mp accepted) _ _⟩

/-- Blanks around a name and a donation, a donation left out, and an associate. -/
theorem donation_between_blanks_is_carried :
    let form : MembershipForm :=
      { firstName := " Ada", lastName := "Lovelace", email := "ada@example.org "
        associateFirstName := "William", donationToSociety := " 1.50 ", donationToMuseum := " " }
    let now := Instant.ofSeconds 1757930400 0
    form.complaints = [] ∧ form.Carried .sample now ∧
      form.order.donationToSociety = ⟨150, 2, by decide, by decide⟩ ∧
      form.order.donationToMuseum = Decimal.zero := by
  intro form now
  have accepted : form.complaints = [] := by decide +kernel
  exact ⟨accepted, (checked_form_is_carried form .sample now).2.2.2 accepted, by decide +kernel,
    by decide +kernel⟩

end Site

end Dues
