import Dues.Proofs.Sale.Pennies
import Dues.Proofs.Site.Confirmation
import Dues.Proofs.Site.Reading

/-! # The amounts on the page

The table on the page for an order has an amount in each line, and its total in a heading. The
amounts are read from the page as it is served. Whatever is charged for has a line of its own, so
that they come to the pennies of the sale.
-/

namespace Dues

open Dues.Money (Decimal pounds)

theorem Money.Decimal.AtLeast.not_negative {d : Decimal} {n : Nat} (h : d.AtLeast n) :
    d.isNegative = false := by
  obtain ⟨c, same, _⟩ := h
  exact decide_eq_false (by omega)

theorem Money.Decimal.zero_cutOff : Decimal.zero.cutOff = 0 := by decide

theorem Money.Decimal.cutOff_of_eq_zero {d : Decimal} (nothing : d = Decimal.zero) :
    d.cutOff = 0 := by rw [nothing, Decimal.zero_cutOff]

theorem Money.Decimal.cutOff_eq_zero {d : Decimal} (natural : d.AtLeast 0)
    (nothing : d.isPositive = false) : d.cutOff = 0 := by
  obtain ⟨c, same, _⟩ := natural
  have none : ¬ 0 < d.coefficient := of_decide_eq_false nothing
  have zero : d.coefficient = 0 := by omega
  rw [Decimal.cutOff, Money.wholePennies, zero, Int.natAbs_zero, Nat.zero_mul, Nat.zero_div]

/-- A sale on which nothing is asked for an associate who was left out, and no friend's fee for one
who is not a friend. -/
structure Sale.Billed (sale : Sale) : Prop where
  absent : sale.associate.isPresent = false → sale.associate.fee = Decimal.zero
  noFriend : (sale.associate.isPresent && sale.associate.friend) = false →
    sale.associate.friendFee = Decimal.zero

namespace Site

open Text.Markup

/-- What the cells with amounts of money begin with, behind their `<`. -/
def cellStart : List Char := "td>£".toList

/-- The amount in a cell, from what is behind the `<` of its tag. -/
def amountCell? (behind : List Char) : Option (List Char) :=
  (Text.dropStart? cellStart behind).map fun amount => amount.takeWhile (· ≠ '<')

/-- The amounts in the cells of a page, in their order. -/
def amountCells (page : List Char) : List (List Char) := (behindTags page).filterMap amountCell?

/-- Markup in which no tag begins as a cell with an amount does, nor is left open before that can be
seen. -/
def NoAmount (m : String) : Prop :=
  ∀ behind ∈ behindTags m.toList, ¬ cellStart <+: behind ∧ ¬ behind <+: cellStart

instance (m : String) : Decidable (NoAmount m) :=
  inferInstanceAs (Decidable (∀ behind ∈ behindTags m.toList, _ ∧ _))

theorem NoAmount.silent {m : String} (none : NoAmount m) : Silent amountCell? m := by
  intro behind mem rest
  obtain ⟨apart, open'⟩ := none behind mem
  rw [amountCell?, Option.map_eq_none_iff, Option.eq_none_iff_forall_not_mem]
  intro amount dropped
  have start : cellStart <+: behind ++ rest := ⟨amount, (Text.dropStart?_eq_some.mp dropped).symm⟩
  rcases List.prefix_or_prefix_of_prefix start (List.prefix_append behind rest) with h | h
  · exact apart h
  · exact open' h

theorem lt_notMem_pounds (p : Nat) : '<' ∉ pounds p := by
  intro mem
  have plain := entity_of_mem_pounds mem
  cases plain

namespace Content.Yields

theorem amount {d : Decimal} (nonnegative : d.isNegative = false) :
    Yields amountCell? [.markup "</td><td>", Page.money d, .markup "</td></tr>"]
      [pounds d.cutOff] := by
  have before : Yields amountCell? [.markup "</td>"] [] :=
    markup (NoAmount.silent (by decide))
  have behind : Yields amountCell? [.markup "</td></tr>"] [] :=
    markup (NoAmount.silent (by decide))
  have cell : Yields amountCell? [.markup "<td>", Page.money d, .markup "</td></tr>"]
      [pounds d.cutOff] := by
    intro rest
    have chars : Content.chars [.markup "<td>", Page.money d, .markup "</td></tr>"] ++ rest =
        '<' :: (cellStart ++ (pounds d.cutOff ++ '<' :: ("/td></tr>".toList ++ rest))) := by
      rw [Content.chars, List.flatMap_cons, List.flatMap_cons, Page.money_chars nonnegative,
        List.append_assoc, List.append_assoc]
      rfl
    have read : amountCell? (cellStart ++ (pounds d.cutOff ++ '<' :: ("/td></tr>".toList ++ rest))) =
        some (pounds d.cutOff) := by
      rw [amountCell?, Text.dropStart?_eq_some.mpr rfl, Option.map_some,
        List.takeWhile_append_of_pos, List.takeWhile_cons_of_neg, List.append_nil]
      · decide
      · intro c mem
        exact decide_eq_true (ne_of_mem_of_not_mem mem (lt_notMem_pounds _))
    have start : '<' ∉ cellStart := by decide
    rw [chars, behindTags, if_pos rfl, List.filterMap_cons_some read, behindTags_append,
      behindTags_eq_nil start, behindTags_append, behindTags_eq_nil (lt_notMem_pounds _)]
    exact congrArg (pounds d.cutOff :: ·) (behind rest)
  have split : "</td><td>" = "</td>" ++ "<td>" := by decide
  rw [split]
  exact joined.mp (before.append cell)

end Content.Yields

namespace Page

variable {sale : Sale}

theorem amount_of_mem {item : Content × Decimal} (mem : item ∈ items sale) :
    item.2 ∈ sale.amounts := by
  simp only [items, List.mem_append, List.mem_ite_nil_right, List.mem_singleton] at mem
  rcases mem with (((rfl | ⟨friend, rfl⟩) | ⟨_, rfl | ⟨_, rfl⟩⟩) | ⟨_, rfl⟩) | ⟨_, rfl⟩
  · simp [Sale.amounts]
  · simp [Sale.amounts, friend]
  all_goals simp [Sale.amounts]

theorem line_pennies (shown : Bool) (label : Content) (amount : Decimal) :
    ((if shown then [(label, amount)] else []).map fun item => item.2.cutOff).sum =
      (if shown then amount else Decimal.zero).cutOff := by
  cases shown with
  | true => exact Nat.add_zero _
  | false => exact Decimal.zero_cutOff.symm

/-- What is charged is in the lines of the table. -/
theorem items_pennies (billed : sale.Billed) (natural : ∀ a ∈ sale.amounts, a.AtLeast 0) :
    ((items sale).map fun item => item.2.cutOff).sum = sale.pennies := by
  have leftOut : ∀ {shown : Bool} {amount : Decimal}, (shown = false → amount.cutOff = 0) →
      (if shown then amount else Decimal.zero).cutOff = amount.cutOff := by
    intro shown amount none
    cases shown with
    | true => rfl
    | false => exact Decimal.zero_cutOff.trans (none rfl).symm
  have toSociety := leftOut
    (Decimal.cutOff_eq_zero (natural sale.donationToSociety (by simp [Sale.amounts])))
  have toMuseum := leftOut
    (Decimal.cutOff_eq_zero (natural sale.donationToMuseum (by simp [Sale.amounts])))
  have associate := leftOut fun none => Decimal.cutOff_of_eq_zero (billed.absent none)
  have associateFriend := leftOut fun none => Decimal.cutOff_of_eq_zero (billed.noFriend none)
  have nested : ∀ {α : Type} (b b' : Bool) (l l' : List α),
      (if b then l ++ (if b' then l' else []) else []) =
        (if b then l else []) ++ (if b && b' then l' else []) := by
    intro α b b' l l'
    cases b <;> rfl
  rw [items, nested, Sale.pennies, Sale.amounts]
  simp only [List.map_append, List.sum_append, line_pennies, List.map_cons, List.map_nil,
    List.sum_cons, List.sum_nil, toSociety, toMuseum, associate, associateFriend]
  omega

end Page

/-- The amounts on the page for an order are those of its lines. -/
theorem amountCells_confirmationPage (settings : Settings) (form : MembershipForm) {sale : Sale}
    (total : Decimal) (natural : ∀ a ∈ sale.amounts, a.AtLeast 0) :
    amountCells (Page.confirmationPage settings form sale total).chars =
      (Page.items sale).map fun item => pounds item.2.cutOff := by
  have frame : ∀ m ∈ Page.confirmationMarkup, NoAmount m := by decide +kernel
  have opened : ∀ label ∈ Page.labels, NoAmount ("<tr><td>" ++ label) := by decide +kernel
  have words : ∀ m ∈ [" for ", " "], NoAmount m := by decide +kernel
  have tag : ∀ name ∈ MembershipForm.fieldNames,
      NoAmount ("<input type=\"hidden\" name=\"" ++ name ++ "\" value=\"") := by decide +kernel
  have ended : NoAmount "\">" := by decide
  have rows : ∀ item ∈ Page.items sale,
      Content.Yields amountCell? (Page.itemRow item) [pounds item.2.cutOff] := fun item mem =>
    .itemRow mem (fun m listed => (opened m listed).silent) (fun m listed => (words m listed).silent)
      (.amount (Decimal.AtLeast.not_negative (natural _ (Page.amount_of_mem mem))))
  have fields : ∀ name ∈ MembershipForm.fieldNames, ∀ value,
      Content.Yields amountCell? (Page.hidden name value) [] := fun name field value =>
    (Content.Yields.markup (tag name field).silent).append
      ((Content.Yields.text value).append (.markup ended.silent))
  have yields : Content.Yields amountCell? (Page.confirmationPage settings form sale total)
      ((Page.items sale).flatMap (fun item => [pounds item.2.cutOff]) ++
        form.pairs.flatMap fun _ => []) :=
    .confirmationPage settings form sale total (fun m mem => (frame m mem).silent) rows fields
  have none : form.pairs.flatMap (fun _ => ([] : List (List Char))) = [] :=
    List.flatMap_eq_nil_iff.mpr fun _ _ => rfl
  rw [none, List.append_nil] at yields
  rw [List.map_eq_flatMap]
  exact yields.whole

end Site

end Dues
