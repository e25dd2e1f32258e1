import SeatBilling.Ledger.Status
import SeatBilling.Ident.Uuid
import SeatBilling.Time.Moment

/-!
# Invoices

An invoice bills one action of a company: a checkout, an upgrade or a seat increase. It
names the plan and the seat cap it buys and the amount, and once it is created at the
payment provider, the provider's id and payment page. It starts pending and ends paid,
expired or cancelled.
-/

namespace SeatBilling

open SeatBilling.Time

/-- An invoice. -/
structure Invoice where
  id : Uuid
  company : Uuid
  subscription : Option Uuid
  providerInvoiceId : Option String
  invoiceUrl : Option String
  status : InvoiceStatus
  purpose : InvoicePurpose
  /-- The plan the invoice buys. -/
  plan : String
  /-- The seat cap the invoice buys. -/
  seats : Int
  amount : Int
  paymentMethod : Option String
  paymentChannel : Option String
  createdAt : Moment
  expiresAt : Option Moment
  paidAt : Option Moment
  deriving DecidableEq, Repr

/-- Whether an invoice still waits for payment. -/
def Invoice.isPending (invoice : Invoice) : Bool := invoice.status == .pending

/-- What the payment provider reports about a payment. -/
structure Payment where
  paidAt : Moment
  method : Option String
  channel : Option String
  deriving DecidableEq, Repr

/-- The invoice marked paid with the payment's facts. -/
def Invoice.applyPayment (invoice : Invoice) (payment : Payment) : Invoice :=
  { invoice with
    status := .paid, paidAt := some payment.paidAt,
    paymentMethod := payment.method, paymentChannel := payment.channel }

/-- An action of a company that needs to be paid for. -/
structure InvoiceRequest where
  company : Uuid
  subscription : Option Uuid
  purpose : InvoicePurpose
  plan : String
  seats : Int
  amount : Int
  description : String
  deriving DecidableEq, Repr

end SeatBilling
