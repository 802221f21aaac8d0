import Dues.Site.Content
import Dues.Site.Form

/-! # Pages

What the society's customers see, from the empty form to the thanks for their payment.
-/

namespace Dues.Site.Page

open Dues.Money (Decimal)

def money (amount : Decimal) : Piece := .text ("£" ++ amount.pence)

def year (n : Int) : Piece := .text (String.ofList (Text.digitsOfInt n))

/-- The frame that all pages share. -/
def layout (settings : Settings) (title : String) (body : Content) : Content :=
  [.markup
      "<!DOCTYPE html>\n<html lang=\"en\">\n<head>\n<meta charset=\"utf-8\">\n<title>",
    .text title, .markup " - ", .text settings.organisationName,
    .markup "</title>\n</head>\n<body>\n<h1>", .text settings.organisationName,
    .markup "</h1>\n<h2>", .text title, .markup "</h2>\n"] ++
  body ++ [.markup "\n</body>\n</html>\n"]

def mailLink (address : String) : Content :=
  [.markup "<a href=\"mailto:", .text address, .markup "\">", .text address, .markup "</a>"]

/-- The complaint about a field, if there is one. -/
def complaintNote (complaints : Complaints) (name : String) : Content :=
  match complaints.lookup name with
  | none => []
  | some complaint =>
      [.markup " <span class=\"error\">", .text complaint.message, .markup "</span>"]

def textInput (name label value : String) (mandatory : Bool) (complaints : Complaints) :
    Content :=
  [.markup ("<p><label for=\"" ++ name ++ "\">" ++ label ++ (if mandatory then " *" else "") ++
      "</label> <input type=\"text\" id=\"" ++ name ++ "\" name=\"" ++ name ++ "\" value=\""),
    .text value, .markup "\">"] ++
  complaintNote complaints name ++ [.markup "</p>"]

def tickbox (name : String) (label : Content) (ticked : Bool) : Content :=
  [.markup ("<p><input type=\"checkbox\" id=\"" ++ name ++ "\" name=\"" ++ name ++ "\"" ++
      (if ticked then " checked" else "") ++ "> <label for=\"" ++ name ++ "\">")] ++
  label ++ [.markup "</label></p>"]

def hidden (name value : String) : Content :=
  [.markup ("<input type=\"hidden\" name=\"" ++ name ++ "\" value=\""), .text value, .markup "\">"]

def priced (label : String) (amount : Decimal) : Content :=
  [.markup (label ++ " ("), money amount, .markup ")"]

def memberSection (form : MembershipForm) (complaints : Complaints) : Content :=
  [.markup "<h3>Member</h3>"] ++
  textInput "first_name" "First name" form.firstName true complaints ++
  textInput "last_name" "Last name" form.lastName true complaints ++
  textInput "email" "Email" form.email true complaints

def otherMembersSection (settings : Settings) (form : MembershipForm) (complaints : Complaints) :
    Content :=
  tickbox "friend" (priced "Friend of the museum" settings.friendFee) form.friend.isSome ++
  [.markup "<h3>"] ++ priced "Associate member" settings.associateFee ++ [.markup "</h3>"] ++
  textInput "associate_first_name" "First name" form.associateFirstName false complaints ++
  textInput "associate_last_name" "Last name" form.associateLastName false complaints ++
  textInput "associate_email" "Email" form.associateEmail false complaints ++
  tickbox "associate_friend" (priced "Friend of the museum" settings.friendFee)
    form.associateFriend.isSome

def donationsSection (form : MembershipForm) (complaints : Complaints) : Content :=
  [.markup "<h3>Donations</h3>"] ++
  textInput "donation_to_society" "Donation to the society" form.donationToSociety false
    complaints ++
  textInput "donation_to_museum" "Donation to the museum" form.donationToMuseum false complaints

/-- The form, with its complaints beside the fields. -/
def formPage (settings : Settings) (form : MembershipForm) (complaints : Complaints) : Content :=
  layout settings "Membership payment" (
    (if complaints.isEmpty then []
      else [.markup "<p class=\"error\">Please correct the fields marked below.</p>"]) ++
    [.markup "<form method=\"post\" action=\"/displayPaymentForm\">"] ++
    memberSection form complaints ++
    (if settings.otherMemberTypes then otherMembersSection settings form complaints else []) ++
    donationsSection form complaints ++
    (if settings.giftAid then
      tickbox "giftaid" [.markup "I am a UK taxpayer and want to Gift Aid my payment"]
        form.giftAid.isSome
    else []) ++
    [.markup "<p>Fields marked * are mandatory. Membership costs ", money settings.ordinaryFee,
      .markup ".</p><p><button type=\"submit\">Continue</button></p></form>"])

/-- What is paid for, item by item. -/
def items (sale : Sale) : List (Content × Decimal) :=
  [([.markup "Membership ", year sale.year, .markup " for ", .text sale.primary.firstName,
      .markup " ", .text sale.primary.lastName], sale.primary.fee)] ++
  (if sale.primary.friend then [([.markup "Friend of the museum"], sale.primary.friendFee)]
    else []) ++
  (if sale.associate.isPresent then
    [([.markup "Associate membership for ", .text sale.associate.firstName, .markup " ",
      .text sale.associate.lastName], sale.associate.fee)] ++
    (if sale.associate.friend then [([.markup "Friend of the museum"], sale.associate.friendFee)]
      else [])
  else []) ++
  (if sale.donationToSociety.isPositive then
    [([.markup "Donation to the society"], sale.donationToSociety)] else []) ++
  (if sale.donationToMuseum.isPositive then
    [([.markup "Donation to the museum"], sale.donationToMuseum)] else [])

def itemRow (item : Content × Decimal) : Content :=
  [.markup "<tr><td>"] ++ item.1 ++ [.markup "</td><td>", money item.2, .markup "</td></tr>"]

/-- The form as hidden inputs, to be sent in once more. A box that is not ticked is left out. -/
def hiddenForm (form : MembershipForm) : Content :=
  hidden "first_name" form.firstName ++
  hidden "last_name" form.lastName ++
  hidden "email" form.email ++
  hidden "associate_first_name" form.associateFirstName ++
  hidden "associate_last_name" form.associateLastName ++
  hidden "associate_email" form.associateEmail ++
  hidden "donation_to_society" form.donationToSociety ++
  hidden "donation_to_museum" form.donationToMuseum ++
  (form.friend.toList.flatMap (hidden "friend")) ++
  (form.associateFriend.toList.flatMap (hidden "associate_friend")) ++
  (form.giftAid.toList.flatMap (hidden "giftaid"))

/-- What an accepted form comes to; the customer confirms it by sending it on. -/
def confirmationPage (settings : Settings) (form : MembershipForm) (sale : Sale) (total : Decimal) :
    Content :=
  layout settings "Please confirm" (
    [.markup "<table>"] ++ (items sale).flatMap itemRow ++
    [.markup "<tr><th>Total</th><th>", money total, .markup "</th></tr></table>"] ++
    (if sale.giftAid then
      [.markup "<p>Your payment will be treated as a Gift Aid donation.</p>"] else []) ++
    [.markup "<form method=\"post\" action=\"/checkout\">"] ++ hiddenForm form ++
    [.markup "<p><button type=\"submit\">Pay now</button></p></form>",
      .markup "<p><a href=\"/displayPaymentForm\">Start again</a></p>"])

/-- Shown to a customer whose membership has been provided. -/
def successPage (settings : Settings) (sale : Sale) : Content :=
  layout settings "Payment received" (
    [.markup "<p>Thank you ", .text sale.primary.firstName, .markup ", your membership for ",
      year sale.year, .markup " has been paid.</p>"] ++
    (if sale.associate.isPresent then
      [.markup "<p>", .text sale.associate.firstName,
        .markup " is now an associate member.</p>"] else []) ++
    [.markup "<p>If you have any questions, please contact "] ++
    mailLink settings.emailForQuestions ++ [.markup ".</p>"])

/-- Shown to a customer who gave up. -/
def cancelPage (settings : Settings) : Content :=
  layout settings "Payment cancelled" (
    [.markup ("<p>Your payment has been cancelled and you have not been charged.</p>\n" ++
      "<p><a href=\"/displayPaymentForm\">Try again</a> or contact ")] ++
    mailLink settings.emailForQuestions ++ [.markup ".</p>"])

/-- Shown when something went wrong and the customer has not been charged. -/
def prePaymentPage (settings : Settings) : Content :=
  layout settings "Something went wrong" (
    [.markup ("<p>We could not start your payment and you have not been charged. " ++
      "Please try again later or contact ")] ++
    mailLink settings.emailForQuestions ++ [.markup ".</p>"])

/-- Shown when something went wrong and the customer may have been charged. -/
def postPaymentPage (settings : Settings) : Content :=
  layout settings "Something went wrong" (
    [.markup ("<p>We could not complete your membership. If you have been charged, " ++
      "please contact ")] ++
    mailLink settings.emailForFailures ++
    [.markup " so that we can sort it out or refund you.</p>"])

end Dues.Site.Page
