import Dues.Query.Template
import Dues.Settings.Reading
import Dues.Store.Listing
import Dues.Store.Upgrade
import Dues.Register.Session
import Dues.Payment.Sandbox
import Dues.Payment.Hosted
import Dues.Site.Routing
import Dues.Proofs.Purchase.Finality
import Dues.Proofs.Purchase.Extension
import Dues.Proofs.Purchase.Household
import Dues.Proofs.Purchase.Progress
import Dues.Proofs.Purchase.Atomicity
import Dues.Proofs.Purchase.Entitlement
import Dues.Proofs.Time.Written
import Dues.Proofs.Money.Written
import Dues.Proofs.Register.Value
import Dues.Proofs.Register.WellFormed
import Dues.Proofs.Purchase.WellFormed
import Dues.Proofs.Money.Stored
import Dues.Proofs.Money.Within
import Dues.Proofs.Money.ReadBack
import Dues.Proofs.Money.Charge
import Dues.Proofs.Sale.Pennies
import Dues.Proofs.Purchase.Recorded
import Dues.Proofs.Site.Confirmation
import Dues.Proofs.Purchase.Agreement
import Dues.Proofs.Purchase.Opening
import Dues.Proofs.Purchase.Evidence
import Dues.Proofs.Purchase.Ownership
import Dues.Proofs.Purchase.Interleaving
import Dues.Proofs.Purchase.Returning
import Dues.Proofs.Purchase.Completion
import Dues.Proofs.Site.Thanks
import Dues.Proofs.Purchase.Bookkeeping
import Dues.Proofs.Site.Acceptance
import Dues.Proofs.Purchase.Footprint
import Dues.Proofs.Site.Sections
import Dues.Proofs.Site.Skeleton
import Dues.Proofs.Sale.Ledger
import Dues.Proofs.Store.Upgrade
import Dues.Proofs.Purchase.Transparency
import Dues.Proofs.Site.Writing
import Dues.Proofs.Time.SalesWindow
import Dues.Proofs.Site.Tariff
import Dues.Proofs.Purchase.Headcount
import Dues.Proofs.Register.RoundTrip
import Dues.Proofs.Purchase.Period
import Dues.Proofs.Purchase.Notes
import Dues.Proofs.Purchase.Refusal
import Dues.Proofs.Site.Complaints
import Dues.Proofs.Payment.SessionForm
import Dues.Proofs.Payment.Answers
import Dues.Proofs.Query.Template
