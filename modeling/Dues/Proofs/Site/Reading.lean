import Dues.Proofs.Site.Skeleton

/-! # Pages read tag by tag

A page is read by looking at what is behind each `<` of it. What is read from a stretch of content
does not depend on what the content stands in, so that it is known piece by piece. Texts have no
tags, and most markup has none that anything is read from.
-/

namespace Dues.Site

open Money (Decimal)
open Text.Markup

variable {α β : Type} {read : List Char → Option α} {content content' : Content}
  {found found' : List α} {m m' : String}

/-- Markup with no tag that anything is read from, whatever the page goes on with. -/
def Silent (read : List Char → Option α) (m : String) : Prop :=
  ∀ behind ∈ behindTags m.toList, ∀ rest, read (behind ++ rest) = none

namespace Content

/-- Content from which this is read, whatever it stands in. -/
def Yields (read : List Char → Option α) (content : Content) (found : List α) : Prop :=
  ∀ rest, (behindTags (content.chars ++ rest)).filterMap read =
    found ++ (behindTags rest).filterMap read

namespace Yields

theorem nil : Yields read [] [] := fun _ => rfl

theorem append (h : Yields read content found) (h' : Yields read content' found') :
    Yields read (content ++ content') (found ++ found') := by
  intro rest
  have chars : (content ++ content').chars = content.chars ++ content'.chars :=
    List.flatMap_append
  rw [chars, List.append_assoc, h, h', List.append_assoc]

theorem text (s : String) : Yields read [.text s] [] := by
  intro rest
  rw [Content.chars, List.flatMap_singleton, Piece.chars, behindTags_append,
    behindTags_eq_nil (lt_notMem_escapeChars _)]
  rfl

theorem markup (silent : Silent read m) : Yields read [.markup m] [] := by
  intro rest
  have none : ((behindTags m.toList).map (· ++ rest)).filterMap read = [] := by
    rw [List.filterMap_map, List.filterMap_eq_nil_iff]
    exact fun behind mem => silent behind mem rest
  rw [Content.chars, List.flatMap_singleton, Piece.chars, behindTags_append,
    List.filterMap_append, none]

/-- Nothing is read from content whose markup has nothing to be read. -/
theorem of_silent (silent : ∀ m ∈ skeleton content, Silent read m) : Yields read content [] := by
  induction content with
  | nil => exact nil
  | cons piece content ih =>
      cases piece with
      | markup m =>
          exact (markup (silent m List.mem_cons_self)).append
            (ih fun m' mem => silent m' (List.mem_cons_of_mem m mem))
      | text s => exact (text s).append (ih silent)

/-- Where one piece of markup ends and the next one begins cannot be seen. -/
theorem joined : Yields read (.markup m :: .markup m' :: content) found ↔
    Yields read (.markup (m ++ m') :: content) found := by
  have chars : Content.chars (.markup m :: .markup m' :: content) =
      Content.chars (.markup (m ++ m') :: content) := by
    simp [Content.chars, Piece.chars]
  unfold Yields
  rw [chars]

theorem flatMap {l : List β} {f : β → Content} {g : β → List α}
    (h : ∀ b ∈ l, Yields read (f b) (g b)) : Yields read (l.flatMap f) (l.flatMap g) := by
  induction l with
  | nil => exact nil
  | cons b l ih =>
      rw [List.flatMap_cons, List.flatMap_cons]
      exact (h b List.mem_cons_self).append (ih fun c mem => h c (List.mem_cons_of_mem _ mem))

theorem whole (h : Yields read content found) : (behindTags content.chars).filterMap read = found := by
  have all := h []
  rwa [List.append_nil, behindTags, List.filterMap_nil, List.append_nil] at all

end Yields

end Content

/-! ### The page for an order -/

/-- The names and values that are sent in for a form. A box that is not ticked is left out. -/
def MembershipForm.pairs (form : MembershipForm) : List (String × String) :=
  [("first_name", form.firstName), ("last_name", form.lastName), ("email", form.email),
    ("associate_first_name", form.associateFirstName),
    ("associate_last_name", form.associateLastName), ("associate_email", form.associateEmail),
    ("donation_to_society", form.donationToSociety),
    ("donation_to_museum", form.donationToMuseum)] ++
  form.friend.toList.map (("friend", ·)) ++
  form.associateFriend.toList.map (("associate_friend", ·)) ++
  form.giftAid.toList.map (("giftaid", ·))

theorem MembershipForm.ofPairs_pairs (form : MembershipForm) : ofPairs form.pairs = form := by
  obtain ⟨_, _, _, friend, _, _, _, associateFriend, _, _, giftAid⟩ := form
  cases friend <;> cases associateFriend <;> cases giftAid <;> rfl

namespace Page

/-- The markup of the page for an order, but for its lines and its hidden inputs. -/
def confirmationMarkup : List String :=
  ["<!DOCTYPE html>\n<html lang=\"en\">\n<head>\n<meta charset=\"utf-8\">\n<title>", " - ",
    "</title>\n</head>\n<body>\n<h1>", "</h1>\n<h2>", "</h2>\n", "<table>",
    "<tr><th>Total</th><th>", "</th></tr></table>",
    "<p>Your payment will be treated as a Gift Aid donation.</p>",
    "<form method=\"post\" action=\"/checkout\">",
    "<p><button type=\"submit\">Pay now</button></p></form>",
    "<p><a href=\"/displayPaymentForm\">Start again</a></p>", "\n</body>\n</html>\n"]

/-- What is paid for in each line of the table. -/
def labels : List String :=
  ["Membership ", "Friend of the museum", "Associate membership for ", "Donation to the society",
    "Donation to the museum"]

theorem label_of_mem {sale : Sale} {item : Content × Decimal} (mem : item ∈ items sale) :
    ∃ label names, item.1 = .markup label :: names ∧ label ∈ labels ∧
      Content.skeleton names ⊆ [" for ", " "] := by
  simp only [items, List.mem_append, List.mem_ite_nil_right, List.mem_singleton] at mem
  rcases mem with (((rfl | ⟨_, rfl⟩) | ⟨_, rfl | ⟨_, rfl⟩⟩) | ⟨_, rfl⟩) | ⟨_, rfl⟩ <;>
    exact ⟨_, _, rfl, by simp [labels], by simp [Content.skeleton, year]⟩

theorem hiddenForm_eq (form : MembershipForm) :
    hiddenForm form = form.pairs.flatMap fun pair => hidden pair.1 pair.2 := by
  obtain ⟨_, _, _, friend, _, _, _, associateFriend, _, _, giftAid⟩ := form
  cases friend <;> cases associateFriend <;> cases giftAid <;> rfl

end Page

theorem MembershipForm.names_subset (form : MembershipForm) :
    form.pairs.map Prod.fst ⊆ fieldNames := by
  obtain ⟨_, _, _, friend, _, _, _, associateFriend, _, _, giftAid⟩ := form
  cases friend <;> cases associateFriend <;> cases giftAid <;> simp [pairs, fieldNames]

theorem Content.Yields.itemRow {sale : Sale} {item : Content × Decimal}
    (mem : item ∈ Page.items sale)
    (opened : ∀ label ∈ Page.labels, Silent read ("<tr><td>" ++ label))
    (words : ∀ m ∈ [" for ", " "], Silent read m)
    (cell : Yields read [.markup "</td><td>", Page.money item.2, .markup "</td></tr>"] found) :
    Yields read (Page.itemRow item) found := by
  obtain ⟨label, names, same, listed, within⟩ := Page.label_of_mem mem
  have named : Yields read names [] := of_silent fun m written => words m (within written)
  have begun : Yields read ([.markup "<tr><td>"] ++ item.1) [] := by
    rw [same]
    exact joined.mpr ((markup (opened label listed)).append named)
  exact begun.append cell

/-- The page for an order is read in its lines and in its hidden inputs. -/
theorem Content.Yields.confirmationPage (settings : Settings) (form : MembershipForm) (sale : Sale)
    (total : Decimal) {row : Content × Decimal → List α} {field : String × String → List α}
    (silent : ∀ m ∈ Page.confirmationMarkup, Silent read m)
    (rows : ∀ item ∈ Page.items sale, Yields read (Page.itemRow item) (row item))
    (fields : ∀ name ∈ MembershipForm.fieldNames, ∀ value,
      Yields read (Page.hidden name value) (field (name, value))) :
    Yields read (Page.confirmationPage settings form sale total)
      ((Page.items sale).flatMap row ++ form.pairs.flatMap field) := by
  have frame : ∀ {content : Content}, skeleton content ⊆ Page.confirmationMarkup →
      Yields read content [] := fun within => of_silent fun m mem => silent m (within mem)
  have top : Yields read [.markup
      "<!DOCTYPE html>\n<html lang=\"en\">\n<head>\n<meta charset=\"utf-8\">\n<title>",
      .text "Please confirm", .markup " - ", .text settings.organisationName,
      .markup "</title>\n</head>\n<body>\n<h1>", .text settings.organisationName,
      .markup "</h1>\n<h2>", .text "Please confirm", .markup "</h2>\n"] [] :=
    frame (by simp [skeleton, Page.confirmationMarkup])
  have table : Yields read [.markup "<table>"] [] :=
    frame (by simp [skeleton, Page.confirmationMarkup])
  have lines : Yields read ((Page.items sale).flatMap Page.itemRow)
      ((Page.items sale).flatMap row) := flatMap rows
  have lastRow : Yields read [.markup "<tr><th>Total</th><th>", Page.money total,
      .markup "</th></tr></table>"] [] :=
    frame (by simp [skeleton, Page.money, Page.confirmationMarkup])
  have note : Yields read (if sale.giftAid then
      [.markup "<p>Your payment will be treated as a Gift Aid donation.</p>"] else []) [] :=
    frame (by split <;> simp [skeleton, Page.confirmationMarkup])
  have opened : Yields read [.markup "<form method=\"post\" action=\"/checkout\">"] [] :=
    frame (by simp [skeleton, Page.confirmationMarkup])
  have inputs : Yields read (Page.hiddenForm form) (form.pairs.flatMap field) := by
    rw [Page.hiddenForm_eq]
    exact flatMap fun pair mem =>
      fields pair.1 (form.names_subset (List.mem_map_of_mem mem)) pair.2
  have closed : Yields read [.markup "<p><button type=\"submit\">Pay now</button></p></form>",
      .markup "<p><a href=\"/displayPaymentForm\">Start again</a></p>"] [] :=
    frame (by simp [skeleton, Page.confirmationMarkup])
  have bottom : Yields read [.markup "\n</body>\n</html>\n"] [] :=
    frame (by simp [skeleton, Page.confirmationMarkup])
  have body := (((((table.append lines).append lastRow).append note).append opened).append
    inputs).append closed
  have page := (top.append body).append bottom
  simp only [List.nil_append, List.append_nil] at page
  exact page

end Dues.Site
