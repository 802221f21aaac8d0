import Mathlib.Data.List.Infix
import Dues.Proofs.Purchase.Completion
import Dues.Proofs.Site.Confirmation

/-! # What the page of thanks says

The page that a customer comes back to names the associate of the sale if there is one, and no other
answer to that request names anyone so. What customers and settings contribute to a page is escaped,
so a paragraph begins in the markup of a page or not at all.
-/

namespace Dues

open Dues.Payment (PaymentProvider Sandbox)
open Dues.Time (Instant)

namespace Site

open Text.Markup

variable {content : Content} {rest : List Char}

namespace Content

/-- What is behind each tag of a page. Texts have no tags. -/
def tags : Content → List (List Char)
  | [] => []
  | .markup m :: content => (behindTags m.toList).map (· ++ Content.chars content) ++ tags content
  | .text _ :: content => tags content

/-- What is behind each beginning of a paragraph. -/
def paragraphs (content : Content) : List (List Char) :=
  (tags content).filterMap (Text.dropStart? "p>".toList)

theorem behindTags_chars (content : Content) :
    behindTags (Content.chars content) = tags content := by
  induction content with
  | nil => rfl
  | cons piece content ih =>
      rw [Content.chars, List.flatMap_cons, behindTags_append, ← Content.chars, ih]
      cases piece with
      | markup m => rfl
      | text s => rw [Piece.chars, behindTags_eq_nil (lt_notMem_escapeChars _)]; rfl

theorem paragraph_of_infix {text : List Char}
    (shown : "<p>".toList ++ text ++ '<' :: rest <:+: Content.chars content) :
    ∃ behind, text ++ '<' :: behind ∈ paragraphs content := by
  obtain ⟨before, behind, same⟩ := shown
  refine ⟨rest ++ behind, List.mem_filterMap.mpr
    ⟨'p' :: '>' :: (text ++ '<' :: (rest ++ behind)), behindTags_chars content ▸ mem_behindTags.mpr ⟨before, ?_⟩, rfl⟩⟩
  rw [← same]
  simp

end Content

namespace Page

/-- The line that names someone as an associate member. -/
def associateLine (name : String) : List Char :=
  "<p>".toList ++ (escapeChars name.toList ++ " is now an associate member.".toList) ++
    "</p>".toList

theorem paragraph_of_associateLine {name : String}
    (shown : associateLine name <:+: Content.chars content) :
    ∃ behind, escapeChars name.toList ++ " is now an associate member.".toList ++ '<' :: behind ∈
      Content.paragraphs content := by
  have closed : "</p>".toList = '<' :: "/p>".toList := rfl
  rw [associateLine, closed] at shown
  exact Content.paragraph_of_infix shown

theorem lt_notMem_line (name : String) :
    '<' ∉ escapeChars name.toList ++ " is now an associate member.".toList := by
  rw [List.mem_append, not_or]
  exact ⟨lt_notMem_escapeChars _, by decide⟩

theorem line_ne {name : String} {text ending behind behind' : List Char} (plain : '<' ∉ text)
    (ends : ending <:+ text) (apart : ¬ ending <:+ " is now an associate member.".toList)
    (apart' : ¬ " is now an associate member.".toList <:+ ending) :
    escapeChars name.toList ++ " is now an associate member.".toList ++ '<' :: behind ≠
      text ++ '<' :: behind' := by
  intro same
  obtain rfl := eq_of_append_lt (lt_notMem_line name) plain same
  rcases List.suffix_or_suffix_of_suffix ends (List.suffix_append _ _) with h | h
  · exact apart h
  · exact apart' h

variable {settings : Settings} {sale : Sale} {name : String}

/-- A page with a single paragraph, which ends in another way, names nobody. -/
theorem not_associateLine_of_paragraph {text rest : List Char}
    (only : Content.paragraphs content = [text ++ '<' :: rest]) (plain : '<' ∉ text)
    (apart : ¬ text <:+ " is now an associate member.".toList)
    (apart' : ¬ " is now an associate member.".toList <:+ text) :
    ¬ associateLine name <:+: Content.chars content := by
  intro shown
  obtain ⟨behind, mem⟩ := paragraph_of_associateLine shown
  rw [only, List.mem_singleton] at mem
  exact line_ne plain (List.suffix_refl _) apart apart' mem

theorem not_associateLine_failurePage (e : CheckoutError) :
    ¬ associateLine name <:+: (failurePage settings e).body.toList := by
  cases e with
  | prePayment step =>
      rw [failurePage, Response.page, Content.render, String.toList_ofList]
      obtain ⟨rest, only⟩ : ∃ rest, Content.paragraphs (prePaymentPage settings) =
          ["We could not start your payment and you have not been charged. ".toList ++
            "Please try again later or contact ".toList ++ '<' :: rest] := ⟨_, rfl⟩
      exact not_associateLine_of_paragraph only (by decide) (by decide) (by decide)
  | postPayment step =>
      rw [failurePage, Response.page, Content.render, String.toList_ofList]
      obtain ⟨rest, only⟩ : ∃ rest, Content.paragraphs (postPaymentPage settings) =
          ["We could not complete your membership. If you have been charged, ".toList ++
            "please contact ".toList ++ '<' :: rest] := ⟨_, rfl⟩
      exact not_associateLine_of_paragraph only (by decide) (by decide) (by decide)

/-- The thanks for the membership itself. -/
def thanks (sale : Sale) : Content :=
  [.markup "Thank you ", .text sale.primary.firstName, .markup ", your membership for ",
    year sale.year, .markup " has been paid."]

theorem line_ne_thanks {behind behind' : List Char} :
    escapeChars name.toList ++ " is now an associate member.".toList ++ '<' :: behind ≠
      Content.chars (thanks sale) ++ '<' :: behind' := by
  have ends : " has been paid.".toList <:+ Content.chars (thanks sale) := by
    have last : [.markup " has been paid."] <:+ thanks sale :=
      List.suffix_append (thanks sale).dropLast _
    exact List.IsSuffix.flatMap last Piece.chars
  refine line_ne ?_ ends (by decide) (by decide)
  simp only [thanks, year, Content.chars, List.flatMap_cons, List.flatMap_nil, Piece.chars,
    List.mem_append, not_or]
  exact ⟨by decide, lt_notMem_escapeChars _, by decide, lt_notMem_escapeChars _, by decide,
    List.not_mem_nil⟩

theorem line_ne_questions {behind behind' : List Char} :
    escapeChars name.toList ++ " is now an associate member.".toList ++ '<' :: behind ≠
      "If you have any questions, please contact ".toList ++ '<' :: behind' :=
  line_ne (by decide) (List.suffix_refl _) (by decide) (by decide)

theorem infix_successPage (present : sale.associate.isPresent = true) :
    associateLine sale.associate.firstName <:+: Content.chars (successPage settings sale) := by
  have line : [.markup "<p>", .text sale.associate.firstName,
      .markup " is now an associate member.</p>"] <:+: successPage settings sale := by
    refine List.IsInfix.trans ?_ (infix_layout _ _ _)
    rw [present, if_pos rfl]
    simp only [List.append_assoc]
    exact List.infix_append' _ _ _
  have shown := line.flatMap Piece.chars
  simpa [associateLine, Piece.chars, Content.chars] using shown

theorem thanks_chars (content : Content) :
    "Thank you ".toList ++ Content.chars (.text sale.primary.firstName ::
      .markup ", your membership for " :: year sale.year :: .markup " has been paid.</p>" ::
        content) =
      Content.chars (thanks sale) ++ '<' :: ("/p>".toList ++ Content.chars content) := by
  simp [thanks, Content.chars, Piece.chars]

theorem paragraphs_alone (settings : Settings) (alone : sale.associate.isPresent = false) :
    ∃ behind behind', Content.paragraphs (successPage settings sale) =
      [Content.chars (thanks sale) ++ '<' :: behind,
        "If you have any questions, please contact ".toList ++ '<' :: behind'] := by
  obtain ⟨content, behind', both⟩ : ∃ content behind',
      Content.paragraphs (successPage settings sale) =
        ["Thank you ".toList ++ Content.chars (.text sale.primary.firstName ::
            .markup ", your membership for " :: year sale.year ::
            .markup " has been paid.</p>" :: content),
          "If you have any questions, please contact ".toList ++ '<' :: behind'] := by
    unfold successPage
    rw [alone]
    exact ⟨_, _, rfl⟩
  rw [thanks_chars] at both
  exact ⟨_, _, both⟩

theorem paragraphs_present (settings : Settings) (present : sale.associate.isPresent = true) :
    ∃ behind behind' behind'', Content.paragraphs (successPage settings sale) =
      [Content.chars (thanks sale) ++ '<' :: behind,
        escapeChars sale.associate.firstName.toList ++ " is now an associate member.".toList ++
          '<' :: behind',
        "If you have any questions, please contact ".toList ++ '<' :: behind''] := by
  obtain ⟨content, content', behind'', all⟩ : ∃ content content' behind'',
      Content.paragraphs (successPage settings sale) =
        ["Thank you ".toList ++ Content.chars (.text sale.primary.firstName ::
            .markup ", your membership for " :: year sale.year ::
            .markup " has been paid.</p>" :: content),
          Content.chars (.text sale.associate.firstName ::
            .markup " is now an associate member.</p>" :: content'),
          "If you have any questions, please contact ".toList ++ '<' :: behind''] := by
    unfold successPage
    rw [present]
    exact ⟨_, _, _, rfl⟩
  have line : Content.chars (.text sale.associate.firstName ::
      .markup " is now an associate member.</p>" :: content') =
        escapeChars sale.associate.firstName.toList ++ " is now an associate member.".toList ++
          '<' :: ("/p>".toList ++ Content.chars content') := by
    simp [Content.chars, Piece.chars]
  rw [thanks_chars, line] at all
  exact ⟨_, _, _, all⟩

/-- The page of thanks names the associate of the sale, if there is one, and nobody else. -/
theorem associateLine_successPage :
    associateLine name <:+: Content.chars (successPage settings sale) ↔
      sale.associate.isPresent = true ∧ sale.associate.firstName = name := by
  constructor
  · intro shown
    obtain ⟨behind, mem⟩ := paragraph_of_associateLine shown
    cases present : sale.associate.isPresent with
    | false =>
        obtain ⟨_, _, both⟩ := paragraphs_alone settings present
        rw [both, List.mem_cons, List.mem_singleton] at mem
        rcases mem with same | same
        · exact absurd same line_ne_thanks
        · exact absurd same line_ne_questions
    | true =>
        obtain ⟨_, _, _, all⟩ := paragraphs_present settings present
        simp only [all, List.mem_cons, List.not_mem_nil, or_false] at mem
        rcases mem with same | same | same
        · exact absurd same line_ne_thanks
        · have texts := eq_of_append_lt (lt_notMem_line _) (lt_notMem_line _) same
          have names := escapeChars_injective (List.append_cancel_right texts)
          exact ⟨rfl, (String.toList_inj.mp names).symm⟩
        · exact absurd same line_ne_questions
  · rintro ⟨present, rfl⟩
    exact infix_successPage present

end Page

theorem mem_of_repeated {names seen : List String} {pairs : List (String × String)} {name : String}
    (twice : Text.FormEncoding.repeated names seen pairs = some name) : name ∈ names := by
  induction pairs generalizing seen with
  | nil => cases twice
  | cons pair pairs ih =>
      unfold Text.FormEncoding.repeated at twice
      split at twice
      next known =>
        split at twice
        next =>
          cases twice
          exact List.contains_iff_mem.mp known
        next => exact ih twice
      next => exact ih twice

theorem not_associateLine_of_refusal {request : Request} {response : Response} {name : String}
    (refused : request.readSessionId = .error response) :
    ¬ Page.associateLine name <:+: response.body.toList := by
  unfold Request.readSessionId at refused
  dsimp only at refused
  split at refused
  next field twice =>
    cases refused
    obtain rfl := List.mem_singleton.mp (mem_of_repeated twice)
    intro shown
    have tag : '<' ∈ Page.associateLine name := by simp [Page.associateLine]
    exact absurd (shown.subset tag) (by decide)
  next => cases refused

variable {σ : Type} {settings : Settings} {provider : PaymentProvider σ} {now : Instant}

theorem answer_success {request : Request} (get : request.method = "GET")
    (path : request.path = "/success") :
    answer settings provider now request =
      answerGet settings provider now request .success := by
  have route : Route.ofPath? "/success" = some .success := by decide
  have fetched : (Route.success.takesGet && decide (request.method = "GET")) = true := by
    rw [get]
    decide
  unfold answer
  rw [path, route]
  dsimp only
  rw [if_pos fetched]

theorem answer_of_finish {request : Request} {sessionId : String} {outcome : Outcome}
    {c c' : Counter σ} (get : request.method = "GET") (path : request.path = "/success")
    (read : request.readSessionId = .ok sessionId)
    (finished : Checkout.finish settings provider now sessionId c = .ok outcome c') :
    answer settings provider now request c =
      .ok (.page 200 (Page.successPage settings outcome.sale)) c' := by
  rw [answer_success get path, answerGet, read]
  dsimp only [orRefuse, orFailurePage]
  rw [finished]
  rfl

theorem associateLine_page {status : Nat} {outcome : Outcome} {name : String} :
    Page.associateLine name <:+:
        (Response.page status (Page.successPage settings outcome.sale)).body.toList ↔
      outcome.sale.associate.isPresent = true ∧ outcome.sale.associate.firstName = name := by
  rw [Response.page, Content.render, String.toList_ofList, Page.associateLine_successPage]

/-- Whoever is told on the way back from the provider that someone is now an associate member, has a
sale that is settled, and that names them so. -/
theorem told_of_associateLine {request : Request} {response : Response} {name : String}
    {d : Desk} {state : σ} {c : Counter σ} (get : request.method = "GET")
    (path : request.path = "/success")
    (answered : answer settings provider now request ⟨d, state⟩ = .ok response c)
    (shown : Page.associateLine name <:+: response.body.toList) :
    ∃ sessionId outcome, request.readSessionId = .ok sessionId ∧
      (Visit.returns provider state settings now sessionId).serve d = (.settled outcome, c.desk) ∧
      outcome.sale.associate.isPresent = true ∧ outcome.sale.associate.firstName = name := by
  rw [answer_success get path, answerGet] at answered
  cases read : request.readSessionId with
  | error refusal =>
      rw [read] at answered
      cases answered
      exact absurd shown (not_associateLine_of_refusal read)
  | ok sessionId =>
      rw [read] at answered
      dsimp only [orRefuse, orFailurePage] at answered
      cases finished : Checkout.finish settings provider now sessionId ⟨d, state⟩ with
      | ok outcome after =>
          rw [finished] at answered
          cases answered
          refine ⟨sessionId, outcome, rfl, ?_, associateLine_page.mp shown⟩
          dsimp only [Visit.serve]
          rw [finished]
      | error stop after =>
          rw [finished] at answered
          cases stop with
          | fault fault => cases answered
          | failure e =>
              cases answered
              exact absurd shown (Page.not_associateLine_failurePage e)

end Site

namespace Desk

/-- Who is provided for, and who is told. Whoever is told that a sale is settled, just now or
before, has a sale that one visit of the run has completed, and it was provided for by then: its
first person has an account, and its associate has one just where the visit's settings had
associates count. And whoever comes back from the provider and reads that someone is now an
associate member has such a sale, with that associate. If associates counted when it was completed,
the associate had an account right then, and was paid up for the year of the sale. -/
theorem told_as_provided (visits : List Visit) :
    (∀ (v : Visit) (outcome : Outcome),
      (v.serve (initial.after visits)).1 = .settled outcome →
      ∃ before w done, CompletedIn (visits ++ [v]) before w done ∧ done.id = outcome.sale.id ∧
        outcome.sale.Provisioned w.settings.otherMemberTypes
          (initial.after (before ++ [w])).store) ∧
    (∀ (σ : Type) (settings : Settings) (provider : PaymentProvider σ) (now : Instant) (state : σ)
        (request : Site.Request) (response : Site.Response) (c : Counter σ) (name : String),
      request.method = "GET" → request.path = "/success" →
      Site.answer settings provider now request ⟨initial.after visits, state⟩ = .ok response c →
      Site.Page.associateLine name <:+: response.body.toList →
      ∃ (sessionId : String) (outcome : Outcome), request.readSessionId = .ok sessionId ∧
        (Visit.returns provider state settings now sessionId).serve (initial.after visits) =
          (.settled outcome, c.desk) ∧
        outcome.sale.associate.firstName = name ∧
        ∃ before w done,
          CompletedIn (visits ++ [.returns provider state settings now sessionId]) before w done ∧
          done.id = outcome.sale.id ∧
          (w.settings.otherMemberTypes = true → outcome.sale.associate.userId ≠ 0 ∧
            (initial.after (before ++ [w])).store.Entitled outcome.sale.associate.userId
              outcome.sale.year)) := by
  have provided : ∀ (v : Visit) (outcome : Outcome),
      (v.serve (initial.after visits)).1 = .settled outcome →
      ∃ before w done, CompletedIn (visits ++ [v]) before w done ∧ done.id = outcome.sale.id ∧
        outcome.sale.Provisioned w.settings.otherMemberTypes
          (initial.after (before ++ [w])).store := by
    intro v outcome told
    obtain ⟨before, w, done, completed, same⟩ := told_completedIn told
    exact ⟨before, w, done, completed, same.id.symm, same.provisioned completed.provisioned⟩
  refine ⟨provided, ?_⟩
  intro σ settings provider now state request response c name get path answered shown
  obtain ⟨sessionId, outcome, read, served, present, named⟩ :=
    Site.told_of_associateLine get path answered shown
  obtain ⟨before, w, done, completed, number, provisioned⟩ :=
    provided _ outcome (congrArg Prod.fst served)
  refine ⟨sessionId, outcome, read, served, named, before, w, done, completed, number, ?_⟩
  intro counts
  have positive := provisioned.counted (by rw [counts, present]; rfl)
  exact ⟨by omega, provisioned.associate (by omega)⟩

/-- Two persons on one form, who come back to read what the site says. -/
def couple : List Visit :=
  [.sampleStart 1757930400
    { firstName := "Ada", lastName := "Lovelace", email := "ada@example.org"
      associateFirstName := "William", associateLastName := "King" }]

/-- The request with which the couple comes back. -/
def coupleReturns : Site.Request :=
  { method := "GET", target := "/success?session_id=cs_test_1" }

/-- The payment of the couple. -/
def couplePaid : Sandbox := { sessions := [⟨3000, "1", "", "", none, ""⟩] }

/-- The couple comes back, and finds the society with `settings`. -/
def coupleBack (settings : Settings) : Visit :=
  .returns Sandbox.provider couplePaid settings (.ofSeconds 1757934000 0) "cs_test_1"

theorem couple_answered {settings : Settings} {outcome : Outcome}
    (told : ((coupleBack settings).serve (initial.after couple)).1 = .settled outcome) :
    ∃ c, Site.answer settings Sandbox.provider (.ofSeconds 1757934000 0) coupleReturns
      ⟨initial.after couple, couplePaid⟩ =
        .ok (.page 200 (Site.Page.successPage settings outcome.sale)) c := by
  dsimp only [coupleBack, Visit.serve] at told
  cases finished : Checkout.finish settings Sandbox.provider (.ofSeconds 1757934000 0) "cs_test_1"
      ⟨initial.after couple, couplePaid⟩ with
  | error stop c =>
      rw [finished] at told
      cases told
  | ok settled c =>
      rw [finished] at told
      cases told
      exact ⟨c, Site.answer_of_finish rfl (by decide) rfl finished⟩

/-- The couple is provided for, and told so. -/
theorem couple_is_told_as_provided :
    ∃ outcome, ((coupleBack .sample).serve (initial.after couple)).1 = .settled outcome ∧
      (∃ before w done, CompletedIn (couple ++ [coupleBack .sample]) before w done ∧
        done.id = outcome.sale.id ∧ outcome.sale.Provisioned w.settings.otherMemberTypes
          (initial.after (before ++ [w])).store) ∧
      outcome.sale.associate.userId ≠ 0 ∧
      (initial.after (couple ++ [coupleBack .sample])).store.Entitled
        outcome.sale.associate.userId outcome.sale.year := by
  have told : ((coupleBack .sample).serve (initial.after couple)).1.fulfilled?.any (fun sale =>
      sale.associate.isPresent && sale.associate.firstName == "William") = true := by
    decide +kernel
  obtain ⟨sale, told, names⟩ := (Option.any_eq_true _ _).mp told
  rw [Bool.and_eq_true, beq_iff_eq] at names
  have told := Answer.fulfilled?_eq_some.mp told
  obtain ⟨c, answered⟩ := couple_answered told
  have shown : Site.Page.associateLine "William" <:+: (Site.Response.page 200
      (Site.Page.successPage .sample (Outcome.fulfilled sale).sale)).body.toList :=
    Site.associateLine_page.mpr names
  obtain ⟨sessionId, outcome, read, served, _, before, w, done, ⟨⟨later, place⟩, completes⟩, _,
    entitled⟩ := (told_as_provided couple).2 _ _ _ _ _ _ _ _ _ rfl (by decide) answered shown
  refine ⟨.fulfilled sale, told, (told_as_provided couple).1 _ _ told, ?_⟩
  cases read
  cases told.symm.trans (congrArg Prod.fst served)
  cases before with
  | nil =>
      cases place
      cases completes
  | cons v before =>
      cases before with
      | nil =>
          cases place
          exact entitled rfl
      | cons u before =>
          cases before <;> cases place

/-- The society takes the section for other members off its form while the couple is paying. The
associate has paid and gets nothing, and the page of thanks says otherwise. -/
theorem associate_pays_for_nothing :
    let without := { Settings.sample with otherMemberTypes := false }
    ∃ (sale : Sale) (response : Site.Response) (c : Counter Sandbox),
      ((coupleBack without).serve (initial.after couple)).1 = .settled (.fulfilled sale) ∧
      sale.associate.isPresent = true ∧ sale.associate.fee.isPositive = true ∧
      sale.associate.userId = 0 ∧
      Site.answer without Sandbox.provider (.ofSeconds 1757934000 0) coupleReturns
        ⟨initial.after couple, couplePaid⟩ = .ok response c ∧
      Site.Page.associateLine "William" <:+: response.body.toList := by
  intro without
  have told : ((coupleBack without).serve (initial.after couple)).1.fulfilled?.any (fun sale =>
      sale.associate.isPresent && sale.associate.firstName == "William" &&
        sale.associate.fee.isPositive && sale.associate.userId == 0) = true := by decide +kernel
  obtain ⟨sale, told, sold⟩ := (Option.any_eq_true _ _).mp told
  simp only [Bool.and_eq_true, beq_iff_eq] at sold
  obtain ⟨⟨⟨present, named⟩, fee⟩, nobody⟩ := sold
  have told := Answer.fulfilled?_eq_some.mp told
  obtain ⟨c, answered⟩ := couple_answered told
  exact ⟨sale, _, c, told, present, fee, nobody, answered,
    Site.associateLine_page.mpr ⟨present, named⟩⟩

end Desk

end Dues
