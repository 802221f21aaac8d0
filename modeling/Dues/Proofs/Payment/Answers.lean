import Dues.Proofs.Payment.SessionForm
import Dues.Proofs.Purchase.Checkout
import Dues.Proofs.Text.Json.Reading
import Dues.Proofs.Text.Json.Record
import Dues.Proofs.Text.Number

/-! # What an answer amounts to

A session is looked up with one request, and only where its id cannot change the address. Whatever
comes back, it counts as a session only if it reports success and all of it is a document that
describes one. The desk changes nothing unless such a document tells of a paid session and of a sale.
-/

namespace Dues.Payment

open Dues.Text (Json trim natOfDigits readInt?_eq_some_of_pos fitsSigned_of_pos)
open Dues.Text.Json (IsText IsRecord Tells Optionally ofOctets? ofOctets?_eq_some fields?_eq_some
  text?_eq_some requiredText?_eq_some optional?_eq_some)
open Dues.Time (Instant)

namespace HostedAccount

/-- An id that is part of an address as it is. -/
def IsPlainId (id : String) : Prop :=
  id ≠ "" ∧ ∀ c ∈ id.toList,
    'a' ≤ c ∧ c ≤ 'z' ∨ 'A' ≤ c ∧ c ≤ 'Z' ∨ '0' ≤ c ∧ c ≤ '9' ∨ c = '_'

/-- The fields of a session. -/
def sessionFields : List String :=
  ["payment_status", "client_reference_id", "customer", "customer_email", "customer_details"]

/-- The details of a customer, of which only the email counts. -/
def TellsEmail (j : Json) (email : Option String) : Prop :=
  ∃ field, IsRecord ["email"] j [field] ∧ Optionally Tells field email

/-- A document that describes a session. The email that is not in its own place may be among the
details. -/
inductive DescribesSession : Json → SessionDetails → Prop
  | mk {j status' : Json} {reference' customer' email' details' : Option Json} {status : String}
      {reference customer email : Option String} {details : Option (Option String)}
      (record : IsRecord sessionFields j [some status', reference', customer', email', details'])
      (tellsStatus : Tells status' status) (tellsReference : Optionally Tells reference' reference)
      (tellsCustomer : Optionally Tells customer' customer)
      (tellsEmail : Optionally Tells email' email)
      (tellsDetails : Optionally TellsEmail details' details) :
      DescribesSession j ⟨status, reference, customer, email <|> details.join⟩

/-- A document that describes an error. -/
def DescribesError (j : Json) (message : Option String) : Prop :=
  ∃ inner field, IsRecord ["error"] j [some inner] ∧ IsRecord ["message"] inner [field] ∧
    Optionally Tells field message

/-- The message of an answer without success, empty where there is none. -/
inductive TellsMessage (body : List UInt8) : String → Prop
  | given {j : Json} {message : Option String} (text : IsText body j)
      (error : DescribesError j message) : TellsMessage body (message.getD "")
  | silent (unread : ∀ j message, IsText body j → ¬ DescribesError j message) : TellsMessage body ""

/-- What is to be made of each answer to the question for a session. -/
inductive Report (id : String) : Option NetworkAnswer → Except PaymentError SessionDetails → Prop
  | silence : Report id none (.error .noAnswer)
  | missing (body : List UInt8) : Report id (some ⟨404, body⟩) (.error (.sessionNotFound id))
  | refused {status : Nat} {body : List UInt8} {message : String} (other : status ≠ 404)
      (failure : ¬ (200 ≤ status ∧ status < 300)) (told : TellsMessage body message) :
      Report id (some ⟨status, body⟩) (.error (.rejected status message))
  | unreadable {status : Nat} {body : List UInt8} (success : 200 ≤ status ∧ status < 300)
      (unread : ∀ j details, IsText body j → ¬ DescribesSession j details) :
      Report id (some ⟨status, body⟩) (.error .noAnswer)
  | found {status : Nat} {body : List UInt8} {j : Json} {details : SessionDetails}
      (success : 200 ≤ status ∧ status < 300) (text : IsText body j)
      (session : DescribesSession j details) : Report id (some ⟨status, body⟩) (.ok details)

/-- A text that is the number of a sale: digits, perhaps with a plus sign, for a positive number of
64 bits, one of them for the sign. -/
def IsSaleNumber (text : String) (n : Int) : Prop :=
  ∃ sign digits, (trim text).toList = sign ++ digits ∧ sign ∈ [[], ['+']] ∧ digits ≠ [] ∧
    (∀ c ∈ digits, c.isDigit = true) ∧ n = natOfDigits digits ∧ 0 < n ∧ n < 0x8000000000000000

/-- An answer that a sale is paid for. -/
def Pays (answer : Option NetworkAnswer) (saleId : Int) : Prop :=
  ∃ status body j details reference, answer = some ⟨status, body⟩ ∧
    (200 ≤ status ∧ status < 300) ∧ IsText body j ∧ DescribesSession j details ∧
    details.status = "paid" ∧ details.reference = some reference ∧ IsSaleNumber reference saleId

variable {σ : Type} {account : HostedAccount} {transport : Transport σ} {state : σ}
  {id message : String} {body : List UInt8} {j : Json} {details : SessionDetails}
  {answer : Option NetworkAnswer} {result result' : Except PaymentError SessionDetails}
  {saleId n : Int}

/-! ### Addresses -/

theorem isAlphanum_or_underscore_iff (c : Char) : (c.isAlphanum || decide (c = '_')) = true ↔
    'a' ≤ c ∧ c ≤ 'z' ∨ 'A' ≤ c ∧ c ≤ 'Z' ∨ '0' ≤ c ∧ c ≤ '9' ∨ c = '_' := by
  have upper : c.isUpper = true ↔ 'A' ≤ c ∧ c ≤ 'Z' := decide_eq_true_iff
  have lower : c.isLower = true ↔ 'a' ≤ c ∧ c ≤ 'z' :=
    Bool.and_eq_true_iff.trans (and_congr decide_eq_true_iff decide_eq_true_iff)
  have digit : c.isDigit = true ↔ '0' ≤ c ∧ c ≤ '9' :=
    Bool.and_eq_true_iff.trans (and_congr decide_eq_true_iff decide_eq_true_iff)
  change ((c.isUpper || c.isLower || c.isDigit) || decide (c = '_')) = true ↔ _
  rw [Bool.or_eq_true, Bool.or_eq_true, Bool.or_eq_true, upper, lower, digit, decide_eq_true_iff,
    or_assoc, or_assoc, or_left_comm]

theorem isSessionId_iff : isSessionId id = true ↔ IsPlainId id := by
  have some : (!id.isEmpty) = true ↔ id ≠ "" := by
    rw [Bool.not_eq_true', ← Bool.not_eq_true, String.isEmpty_iff]
  rw [isSessionId, Bool.and_eq_true, some, List.all_eq_true, IsPlainId]
  exact and_congr_right fun _ => forall₂_congr fun c _ => isAlphanum_or_underscore_iff c

/-- What would end a path, or begin an escape, is not part of a plain id. -/
theorem IsPlainId.path (plain : IsPlainId id) :
    ∀ c ∈ id.toList, c ∉ ['/', '\\', '?', '#', '%'] := by
  intro c mem sign
  have sort := plain.2 c mem
  simp only [List.mem_cons, List.not_mem_nil, or_false] at sign
  rcases sign with rfl | rfl | rfl | rfl | rfl <;> exact absurd sort (by decide)

/-! ### Documents -/

theorem tells_ne_null (text : String) : ¬ Tells .null text := nofun

theorem tellsEmail_ne_null (email : Option String) : ¬ TellsEmail .null email := by
  rintro ⟨field, record, _⟩
  cases record

theorem optionalText?_eq_some {field : Option Json} {text : Option String} :
    Json.optional? Json.text? field = some text ↔ Optionally Tells field text :=
  optional?_eq_some (fun j text => (text?_eq_some : j.text? = some text ↔ _)) tells_ne_null

theorem customerDetailsEmail?_eq_some {email : Option String} :
    customerDetailsEmail? j = some email ↔ TellsEmail j email := by
  constructor
  · intro read
    obtain ⟨fields, found, read⟩ := Option.bind_eq_some_iff.mp read
    split at read
    next field => exact ⟨field, fields?_eq_some.mp found, optionalText?_eq_some.mp read⟩
    next => cases read
  · rintro ⟨field, record, told⟩
    rw [customerDetailsEmail?, fields?_eq_some.mpr record]
    exact optionalText?_eq_some.mpr told

theorem optionalEmail?_eq_some {field : Option Json} {email : Option (Option String)} :
    Json.optional? customerDetailsEmail? field = some email ↔ Optionally TellsEmail field email :=
  optional?_eq_some
    (fun j email => (customerDetailsEmail?_eq_some : customerDetailsEmail? j = some email ↔ _))
    tellsEmail_ne_null

theorem readDetails?_eq_some : readDetails? body = some details ↔
    ∃ j, IsText body j ∧ DescribesSession j details := by
  constructor
  · intro read
    obtain ⟨j, text, read⟩ := Option.bind_eq_some_iff.mp read
    obtain ⟨fields, found, read⟩ := Option.bind_eq_some_iff.mp read
    split at read
    next status' reference' customer' email' details' =>
      obtain ⟨status, readStatus, read⟩ := Option.bind_eq_some_iff.mp read
      obtain ⟨reference, readReference, read⟩ := Option.bind_eq_some_iff.mp read
      obtain ⟨customer, readCustomer, read⟩ := Option.bind_eq_some_iff.mp read
      obtain ⟨email, readEmail, read⟩ := Option.bind_eq_some_iff.mp read
      obtain ⟨inner, readInner, read⟩ := Option.bind_eq_some_iff.mp read
      cases read
      obtain ⟨status'', rfl, told⟩ := requiredText?_eq_some.mp readStatus
      refine ⟨j, ofOctets?_eq_some.mp text, .mk (fields?_eq_some.mp found) told ?_ ?_ ?_ ?_⟩
      · exact optionalText?_eq_some.mp readReference
      · exact optionalText?_eq_some.mp readCustomer
      · exact optionalText?_eq_some.mp readEmail
      · exact optionalEmail?_eq_some.mp readInner
    next => cases read
  · rintro ⟨j, text, session⟩
    cases session with
    | mk record tellsStatus tellsReference tellsCustomer tellsEmail tellsDetails =>
        have found := fields?_eq_some.mpr record
        rw [sessionFields] at found
        rw [readDetails?, ofOctets?_eq_some.mpr text]
        dsimp only [bind, Option.bind]
        rw [found]
        dsimp only
        rw [requiredText?_eq_some.mpr ⟨_, rfl, tellsStatus⟩,
          optionalText?_eq_some.mpr tellsReference, optionalText?_eq_some.mpr tellsCustomer,
          optionalText?_eq_some.mpr tellsEmail,
          optionalEmail?_eq_some.mpr tellsDetails]
        rfl

theorem readDetails?_eq_none : readDetails? body = none ↔
    ∀ j details, IsText body j → ¬ DescribesSession j details := by
  rw [Option.eq_none_iff_forall_not_mem]
  constructor
  · exact fun none j details text session => none details
      (readDetails?_eq_some.mpr ⟨j, text, session⟩)
  · intro unread details read
    obtain ⟨j, text, session⟩ := readDetails?_eq_some.mp read
    exact unread j details text session

theorem readError?_eq_some {message : Option String} : readError? body = some message ↔
    ∃ j, IsText body j ∧ DescribesError j message := by
  constructor
  · intro read
    obtain ⟨j, text, read⟩ := Option.bind_eq_some_iff.mp read
    obtain ⟨fields, found, read⟩ := Option.bind_eq_some_iff.mp read
    split at read
    next inner =>
      obtain ⟨fields, found', read⟩ := Option.bind_eq_some_iff.mp read
      split at read
      next field =>
        refine ⟨j, ofOctets?_eq_some.mp text, inner, field, fields?_eq_some.mp found, ?_, ?_⟩
        · exact fields?_eq_some.mp found'
        · exact optionalText?_eq_some.mp read
      next => cases read
    next => cases read
  · rintro ⟨j, text, inner, field, record, record', told⟩
    rw [readError?, ofOctets?_eq_some.mpr text]
    dsimp only [bind, Option.bind]
    rw [fields?_eq_some.mpr record]
    dsimp only
    rw [fields?_eq_some.mpr record']
    exact optionalText?_eq_some.mpr told

theorem tellsMessage_iff : TellsMessage body message ↔ message = errorMessage body := by
  unfold errorMessage
  cases read : readError? body with
  | none =>
      have unread (j : Json) (message : Option String) (text : IsText body j) :
          ¬ DescribesError j message := fun error =>
        nomatch read.symm.trans (readError?_eq_some.mpr ⟨j, text, error⟩)
      constructor
      · intro told
        cases told with
        | given text error => exact absurd error (unread _ _ text)
        | silent => rfl
      · rintro rfl
        exact .silent unread
  | some given =>
      obtain ⟨j, text, error⟩ := readError?_eq_some.mp read
      constructor
      · intro told
        cases told with
        | given text' error' =>
            cases read.symm.trans (readError?_eq_some.mpr ⟨_, text', error'⟩)
            rfl
        | silent unread => exact absurd error (unread j given text)
      · rintro rfl
        exact .given text error

/-! ### Answers -/

theorem isSuccess_iff {status : Nat} : isSuccess status = true ↔ 200 ≤ status ∧ status < 300 := by
  rw [isSuccess, Bool.and_eq_true, decide_eq_true_iff, decide_eq_true_iff]

theorem readFindAnswer_failure {status : Nat} (other : status ≠ 404)
    (failure : ¬ (200 ≤ status ∧ status < 300)) :
    readFindAnswer id (some ⟨status, body⟩) = .error (.rejected status (errorMessage body)) := by
  have refused : accepted ⟨status, body⟩ = .error (.rejected status (errorMessage body)) :=
    if_neg fun success => failure (isSuccess_iff.mp success)
  refine (if_neg other).trans ?_
  rw [refused]
  rfl

theorem readFindAnswer_success {status : Nat} (success : 200 ≤ status ∧ status < 300) :
    readFindAnswer id (some ⟨status, body⟩) =
      (readDetails? body).elim (.error .noAnswer) .ok := by
  have taken : accepted ⟨status, body⟩ = .ok body := if_pos (isSuccess_iff.mpr success)
  refine (if_neg (by omega : status ≠ 404)).trans ?_
  rw [taken]
  dsimp only [bind, Except.bind]
  cases readDetails? body <;> rfl

/-- What is read from an answer is what its report says, and nothing else. -/
theorem report_iff : Report id answer result ↔ readFindAnswer id answer = result := by
  constructor
  · intro report
    cases report with
    | silence => rfl
    | missing body => rfl
    | refused other failure told =>
        rw [readFindAnswer_failure other failure, tellsMessage_iff.mp told]
    | unreadable success unread =>
        rw [readFindAnswer_success success, readDetails?_eq_none.mpr unread]
        rfl
    | found success text session =>
        rw [readFindAnswer_success success, readDetails?_eq_some.mpr ⟨_, text, session⟩]
        rfl
  · rintro rfl
    cases answer with
    | none => exact .silence
    | some answer =>
        obtain ⟨status, body⟩ := answer
        by_cases gone : status = 404
        · subst gone
          exact .missing body
        by_cases success : 200 ≤ status ∧ status < 300
        · rw [readFindAnswer_success success]
          cases read : readDetails? body with
          | none => exact .unreadable success (readDetails?_eq_none.mp read)
          | some details =>
              obtain ⟨j, text, session⟩ := readDetails?_eq_some.mp read
              exact .found success text session
        · rw [readFindAnswer_failure gone success]
          exact .refused gone success (tellsMessage_iff.mpr rfl)

theorem Report.unique (report : Report id answer result) (report' : Report id answer result') :
    result = result' := (report_iff.mp report).symm.trans (report_iff.mp report')

theorem DescribesSession.isPaid_iff (session : DescribesSession j details) :
    details.isPaid = true ↔ ∃ status fields,
      IsRecord sessionFields j (some status :: fields) ∧ Tells status "paid" := by
  cases session with
  | mk record tellsStatus =>
      rw [SessionDetails.isPaid, beq_iff_eq]
      constructor
      · rintro rfl
        exact ⟨_, _, record, tellsStatus⟩
      · rintro ⟨status, fields, record', told⟩
        cases record.unique record'
        exact tellsStatus.unique told

theorem DescribesSession.reference_iff (session : DescribesSession j details)
    (reference : String) : details.reference = some reference ↔ ∃ status told fields,
      IsRecord sessionFields j (status :: some told :: fields) ∧ Tells told reference := by
  cases session with
  | mk record _ tellsReference =>
      constructor
      · rintro rfl
        cases tellsReference with
        | given told _ given => exact ⟨_, told, _, record, given⟩
      · rintro ⟨status, told, fields, record', given⟩
        cases record.unique record'
        cases tellsReference with
        | null => exact absurd given (tells_ne_null _)
        | given _ _ given' => exact congrArg some (given'.unique given)

/-! ### Sale numbers -/

theorem saleOfReference_iff {reference : Option String} :
    Checkout.saleOfReference reference = some saleId ↔
      ∃ text, reference = some text ∧ IsSaleNumber text saleId := by
  unfold Checkout.saleOfReference Text.readSigned?
  constructor
  · intro told
    obtain ⟨text, given, told'⟩ := Option.bind_eq_some_iff.mp told
    obtain ⟨n, read, told''⟩ := Option.bind_eq_some_iff.mp told'
    split at told''
    next positive =>
      cases told''
      obtain ⟨read, fits⟩ := Option.filter_eq_some_iff.mp read
      obtain ⟨sign, digits, same, signed, some, all, value⟩ :=
        (readInt?_eq_some_of_pos positive).mp read
      exact ⟨text, given, sign, digits, same, signed, some, all, value, positive,
        (fitsSigned_of_pos positive).mp fits⟩
    next => cases told''
  · rintro ⟨text, rfl, sign, digits, same, signed, some, all, value, positive, small⟩
    have read := (readInt?_eq_some_of_pos positive).mpr
      ⟨sign, digits, same, signed, some, all, value⟩
    have fits := (fitsSigned_of_pos positive).mpr small
    dsimp only [bind, Option.bind]
    rw [read, Option.filter_some_pos fits]
    exact if_pos positive

/-! ### Looking up -/

theorem findSession_of_plain (plain : IsPlainId id) : account.findSession transport id state =
    leaving (transport (account.findRequest id) state).2
      (readFindAnswer id (transport (account.findRequest id) state).1) := by
  rw [findSession, if_pos (isSessionId_iff.mpr plain)]
  exact ask_eq transport _ _ state

theorem findSession_of_other (other : ¬ IsPlainId id) :
    account.findSession transport id state = .error (.sessionNotFound id) state := by
  rw [findSession, if_neg fun plain => other (isSessionId_iff.mp plain)]
  rfl

theorem findSession_logged (plain : IsPlainId id) (sent : List NetworkRequest) :
    account.findSession transport.logged id (state, sent) =
      leaving ((transport (account.findRequest id) state).2, sent ++ [account.findRequest id])
        (readFindAnswer id (transport (account.findRequest id) state).1) := by
  rw [findSession, if_pos (isSessionId_iff.mpr plain)]
  exact ask_logged transport _ _ state sent

theorem findSession_eq_ok {after : σ} :
    account.findSession transport id state = .ok details after ↔ IsPlainId id ∧
      Report id (transport (account.findRequest id) state).1 (.ok details) ∧
      after = (transport (account.findRequest id) state).2 := by
  by_cases plain : IsPlainId id
  · rw [findSession_of_plain plain, report_iff]
    cases readFindAnswer id (transport (account.findRequest id) state).1 with
    | error e => exact ⟨nofun, fun h => nomatch h.2.1⟩
    | ok found =>
        constructor
        · rintro ⟨⟩
          exact ⟨plain, rfl, rfl⟩
        · rintro ⟨_, ⟨⟩, rfl⟩
          rfl
  · rw [findSession_of_other plain]
    exact ⟨nofun, fun h => absurd h.1 plain⟩

/-- What pays for a sale is a report of a session that settles it. -/
theorem pays_iff : Pays answer saleId ↔
    ∃ details, Report id answer (.ok details) ∧ Checkout.settledBy details = some saleId := by
  constructor
  · rintro ⟨status, body, j, details, reference, rfl, success, text, session, paid, given, number⟩
    refine ⟨details, .found success text session, Checkout.settledBy_eq_some.mpr ⟨paid, ?_⟩⟩
    exact saleOfReference_iff.mpr ⟨reference, given, number⟩
  · rintro ⟨details, report, settles⟩
    obtain ⟨paid, told⟩ := Checkout.settledBy_eq_some.mp settles
    obtain ⟨reference, given, number⟩ := saleOfReference_iff.mp told
    cases report with
    | found success text session =>
        exact ⟨_, _, _, details, reference, rfl, success, text, session, paid, given, number⟩

theorem finish_of_idle (settings : Settings) (now : Instant) (d : Desk)
    (idle : ∀ saleId,
      ¬ (IsPlainId id ∧ Pays (transport (account.findRequest id) state).1 saleId)) :
    ∃ e after, Checkout.finish settings (account.provider transport) now id ⟨d, state⟩ =
      .error (.failure (.postPayment e)) ⟨d, after⟩ := by
  have unsettled (details : SessionDetails) (after : σ)
      (found : (account.provider transport).findSession id state = .ok details after) :
      Checkout.settledBy details = none := by
    obtain ⟨plain, report, _⟩ := findSession_eq_ok.mp found
    refine Option.eq_none_iff_forall_not_mem.mpr fun saleId settles => ?_
    exact idle saleId ⟨plain, pays_iff.mpr ⟨details, report, settles⟩⟩
  obtain ⟨e, finished⟩ := Checkout.finish_unsettled settings (account.provider transport) now id d
    state unsettled
  exact ⟨e, _, finished⟩

theorem finish_of_pays (settings : Settings) (now : Instant) (d : Desk) (plain : IsPlainId id)
    (pays : Pays (transport (account.findRequest id) state).1 saleId) :
    Checkout.finish settings (account.provider transport) now id ⟨d, state⟩ =
      Counter.atDesk (Checkout.settle settings now saleId id) Checkout.toCheckoutError
        ⟨d, (transport (account.findRequest id) state).2⟩ := by
  obtain ⟨details, report, settles⟩ := pays_iff.mp pays
  exact Checkout.finish_eq settings (account.provider transport) now id d state _ details
    (findSession_eq_ok.mpr ⟨plain, report, rfl⟩) settles

/-- A lookup sends one request, to the address of the session, or none where the id could change that
address. Each answer has one report: a session for a document of success that describes one, and an
error for everything else, whatever it looks like. Whether the session is paid, and for which sale,
is what the document has in these two places. A desk to which a customer comes back with a session is
changed only if the answer pays for a sale. -/
theorem lookup_is_fail_safe (account : HostedAccount) (transport : Transport σ) (state : σ)
    (id : String) :
    (account.findRequest id).url = account.baseUrl ++ "/checkout/sessions/" ++ id ∧
    (IsPlainId id → ∀ c ∈ id.toList, c ∉ ['/', '\\', '?', '#', '%']) ∧
    (¬ IsPlainId id → ∀ sent, account.findSession transport.logged id (state, sent) =
      .error (.sessionNotFound id) (state, sent)) ∧
    (IsPlainId id → ∃ result, Report id (transport (account.findRequest id) state).1 result ∧
      ∀ sent, account.findSession transport.logged id (state, sent) =
        leaving ((transport (account.findRequest id) state).2, sent ++ [account.findRequest id])
          result) ∧
    (∀ answer result result', Report id answer result → Report id answer result' →
      result = result') ∧
    (∀ j details, DescribesSession j details →
      (details.isPaid = true ↔ ∃ status fields,
        IsRecord sessionFields j (some status :: fields) ∧ Tells status "paid") ∧
      ∀ reference, details.reference = some reference ↔ ∃ status told fields,
        IsRecord sessionFields j (status :: some told :: fields) ∧ Tells told reference) ∧
    ∀ settings now d,
      ((∀ saleId, ¬ (IsPlainId id ∧ Pays (transport (account.findRequest id) state).1 saleId)) →
        ∃ e after, Checkout.finish settings (account.provider transport) now id ⟨d, state⟩ =
          .error (.failure (.postPayment e)) ⟨d, after⟩) ∧
      ∀ saleId, IsPlainId id → Pays (transport (account.findRequest id) state).1 saleId →
        Checkout.finish settings (account.provider transport) now id ⟨d, state⟩ =
          Counter.atDesk (Checkout.settle settings now saleId id) Checkout.toCheckoutError
            ⟨d, (transport (account.findRequest id) state).2⟩ := by
  refine ⟨rfl, IsPlainId.path, fun other sent => ?_, fun plain => ?_, fun _ _ _ => Report.unique,
    fun j details session => ?_, fun settings now d => ?_⟩
  · exact findSession_of_other other
  · exact ⟨_, report_iff.mpr rfl, findSession_logged plain⟩
  · exact ⟨session.isPaid_iff, session.reference_iff⟩
  · exact ⟨finish_of_idle settings now d, fun saleId => finish_of_pays settings now d⟩

/-- The octets of `\x7b"payment_status":"paid","client_reference_id":" 7"\x7d`. -/
def paidBody : List UInt8 :=
  "\x7b\"payment_status\":\"paid\",\"client_reference_id\":\" 7\"\x7d".toList.map
    fun c => UInt8.ofNat c.toNat

/-- A transport to a provider that has the same answer for everyone. -/
def always (answer : NetworkAnswer) : Transport Unit := fun _ => pure (some answer)

def testAccount : HostedAccount := ⟨"sk", "http://localhost/v1"⟩

/-- A document pays for a sale as an answer of success, and for nothing with another status. -/
theorem paid_body_pays_with_success :
    Pays (some ⟨200, paidBody⟩) 7 ∧
    testAccount.findSession (always ⟨200, paidBody⟩).logged "cs_1" ((), []) =
      .ok ⟨"paid", some " 7", none, none⟩ ((), [testAccount.findRequest "cs_1"]) ∧
    testAccount.findSession (always ⟨402, paidBody⟩).logged "cs_1" ((), []) =
      .error (.rejected 402 "") ((), [testAccount.findRequest "cs_1"]) := by
  have plain : IsPlainId "cs_1" := isSessionId_iff.mp (by decide)
  have read : readDetails? paidBody = some ⟨"paid", some " 7", none, none⟩ := by decide +kernel
  have silent : errorMessage paidBody = "" := by decide +kernel
  have paid : Report "cs_1" (some ⟨200, paidBody⟩) (.ok ⟨"paid", some " 7", none, none⟩) := by
    rw [report_iff, readFindAnswer_success (by decide), read]
    rfl
  have refused : Report "cs_1" (some ⟨402, paidBody⟩) (.error (.rejected 402 "")) := by
    rw [report_iff, readFindAnswer_failure (by decide) (by decide), silent]
  refine ⟨pays_iff.mpr ⟨_, paid, by decide⟩, ?_, ?_⟩
  · obtain ⟨_, _, _, asked, unique, _⟩ :=
      lookup_is_fail_safe testAccount (always ⟨200, paidBody⟩) () "cs_1"
    obtain ⟨result, reported, sent⟩ := asked plain
    rw [sent, unique _ _ _ reported paid]
    rfl
  · obtain ⟨_, _, _, asked, unique, _⟩ :=
      lookup_is_fail_safe testAccount (always ⟨402, paidBody⟩) () "cs_1"
    obtain ⟨result, reported, sent⟩ := asked plain
    rw [sent, unique _ _ _ reported refused]
    rfl

end HostedAccount

end Dues.Payment
