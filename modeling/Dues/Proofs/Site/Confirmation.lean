import Mathlib.Data.List.Infix
import Dues.Proofs.Money.Written
import Dues.Proofs.Register.Installed
import Dues.Proofs.Text.Markup
import Dues.Site.Routing

/-! # The total on the page

An accepted form is answered with a table of what is paid for. Its last line has the pennies of the
total that are left once further places are cut off.
-/

namespace Dues

open Dues.Money (Decimal pounds)
open Dues.Time (Instant)

namespace Site

open Text.Markup (entity)

theorem entity_of_mem_pounds {c : Char} {p : Nat} (mem : c ∈ pounds p) : entity c = [c] := by
  unfold pounds at mem
  rcases List.mem_append.mp mem with mem | mem
  · exact Text.Markup.entity_of_isDigit (Text.isDigit_of_mem_digitsOfNat mem)
  · rcases List.mem_cons.mp mem with rfl | mem
    · rfl
    · exact Text.Markup.entity_of_isDigit (Text.isDigit_of_mem_paddedDigits mem)

/-- An amount that is not negative is shown in the pennies that it is cut off to. -/
theorem Page.money_chars {d : Decimal} (nonnegative : d.isNegative = false) :
    (Page.money d).chars = '£' :: pounds d.cutOff := by
  have plain : ∀ c ∈ '£' :: pounds d.cutOff, entity c = [c] := by
    intro c mem
    rcases List.mem_cons.mp mem with rfl | mem
    · rfl
    · exact entity_of_mem_pounds mem
  have text : ("£" ++ d.pence).toList = '£' :: pounds d.cutOff := by
    rw [String.toList_append, Decimal.pence_eq nonnegative]
    exact congrArg ('£' :: ·) String.toList_ofList
  rw [Page.money, Piece.chars, text, Text.Markup.escapeChars_eq plain]

/-- The last line of a table, with this many pennies as total. -/
def Page.totalLine (pennies : Nat) : List Char :=
  "<tr><th>Total</th><th>£".toList ++ pounds pennies ++ "</th></tr></table>".toList

theorem Page.infix_layout (settings : Settings) (title : String) (body : Content) :
    body <:+: layout settings title body := List.infix_append _ _ _

theorem Page.totalLine_infix (settings : Settings) (form : MembershipForm) (sale : Sale)
    {total : Decimal} (nonnegative : total.isNegative = false) :
    totalLine total.cutOff <:+: (confirmationPage settings form sale total).chars := by
  have line : [.markup "<tr><th>Total</th><th>", money total, .markup "</th></tr></table>"] <:+:
      confirmationPage settings form sale total := by
    refine List.IsInfix.trans ?_ (infix_layout _ _ _)
    simp only [List.append_assoc]
    rw [← List.append_assoc]
    exact List.infix_append' _ _ _
  have shown := line.flatMap Piece.chars
  rw [List.flatMap_cons, List.flatMap_cons, money_chars nonnegative] at shown
  exact shown

variable {settings : Settings} {now : Instant} {form : MembershipForm}

theorem confirm_accepted {σ : Type} (accepted : form.complaints = []) {total : Decimal}
    (summed : (form.order.price settings now).total = .ok total) (counter : Counter σ) :
    confirm settings now form counter =
      .ok (.page 200 (Page.confirmationPage settings form (form.order.price settings now) total))
        counter := by
  unfold confirm
  rw [accepted, List.isEmpty_nil, if_pos rfl, summed]
  rfl

theorem confirm_unsummed {σ : Type} (accepted : form.complaints = []) {fault : Fault}
    (unsummed : (form.order.price settings now).total = .error fault) (counter : Counter σ) :
    confirm settings now form counter = .error fault counter := by
  unfold confirm
  rw [accepted, List.isEmpty_nil, if_pos rfl, unsummed]
  rfl

theorem confirm_refused {σ : Type} (refused : form.complaints ≠ []) (counter : Counter σ) :
    confirm settings now form counter =
      .ok (.page 200 (Page.formPage settings form form.complaints)) counter := by
  unfold confirm
  rw [if_neg (mt List.isEmpty_iff.mp refused)]
  rfl

/-- Whoever sends in the form is shown this total to confirm. -/
def MembershipForm.ShowsTotal (form : MembershipForm) (settings : Settings) (now : Instant)
    (pennies : Nat) : Prop :=
  ∀ (σ : Type) (counter : Counter σ), ∃ answer, confirm settings now form counter =
    .ok answer counter ∧ answer.status = 200 ∧ Page.totalLine pennies <:+: answer.body.toList

theorem MembershipForm.showsTotal_iff (accepted : form.complaints = []) {total : Decimal}
    (summed : (form.order.price settings now).total = .ok total) {pennies : Nat} :
    form.ShowsTotal settings now pennies ↔ Page.totalLine pennies <:+:
      (Page.confirmationPage settings form (form.order.price settings now) total).chars := by
  unfold MembershipForm.ShowsTotal
  simp only [confirm_accepted accepted summed]
  constructor
  · intro shown
    obtain ⟨answer, same, _, line⟩ := shown Unit ⟨.initial, ()⟩
    cases same
    rwa [Response.page, Content.render, String.toList_ofList] at line
  · intro line σ counter
    refine ⟨_, rfl, rfl, ?_⟩
    rwa [Response.page, Content.render, String.toList_ofList]

theorem MembershipForm.showsTotal (accepted : form.complaints = []) {total : Decimal}
    (summed : (form.order.price settings now).total = .ok total)
    (positive : total.isPositive = true) : form.ShowsTotal settings now total.cutOff := by
  have above : 0 < total.coefficient := of_decide_eq_true positive
  have nonnegative : total.isNegative = false := decide_eq_false (by omega)
  exact (showsTotal_iff accepted summed).mpr (Page.totalLine_infix settings form _ nonnegative)

end Site

end Dues
