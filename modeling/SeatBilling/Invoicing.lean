import SeatBilling.EventLog

/-!
# The invoice workflow

An invoice is created for one action of a company, first in the store and then at the
payment provider. A company has at most one pending invoice: creation is refused while
another is pending, and the store checks again when it stores the new one. If the provider
fails, the local invoice is cancelled so that it does not block the next attempt.

An invoice leaves `pending` once: paid (together with the subscription it buys), expired,
or cancelled. Closing an invoice that already left `pending` changes nothing and says so.
A company sees only its own invoices; another company's reads as not found.
-/

namespace SeatBilling.Invoicing

open SeatBilling.Time

/-- The invoice with an id, or not found. -/
def require (id : Uuid) : BillingM Invoice := do
  match ← Calls.getInvoice id with
  | some invoice => pure invoice
  | none => failWith (.notFound ("Invoice " ++ id.hyphenated ++ " not found"))

/-- The purpose, plan, seats and amount of an invoice, as its creation event records them. -/
def creationData (invoice : Invoice) : Json :=
  .obj [("amount", .int invoice.amount), ("plan_id", .str invoice.plan), ("purpose", .str invoice.purpose.name),
    ("seats", .int invoice.seats)]

/-- Refuses a company that already has a pending invoice. -/
def refuseSecondPending (company : Uuid) : BillingM Unit := do
  if (← Calls.findPendingInvoice company).isSome then
    failWith (.duplicatePendingInvoice company)

/-- The pending invoice for an action, created at `at_` under `id`, not yet known to the
provider. -/
def pendingInvoice (request : InvoiceRequest) (id : Uuid) (at_ expiresAt : Moment) : Invoice :=
  { id := id, company := request.company, subscription := request.subscription,
    providerInvoiceId := none, invoiceUrl := none, status := .pending, purpose := request.purpose,
    plan := request.plan, seats := request.seats, amount := request.amount, paymentMethod := none,
    paymentChannel := none, createdAt := at_, expiresAt := some expiresAt, paidAt := none }

/-- Stores a new pending invoice for an action; the store refuses it if another invoice of the
company became pending in the meantime. -/
def storePending (request : InvoiceRequest) : BillingM Invoice := do
  let at_ ← now
  let settings ← config
  let id ← freshId
  let expiresAt ← orOverflow (at_.shift? settings.invoiceTtl)
  let invoice := pendingInvoice request id at_ expiresAt
  Calls.insertInvoice invoice
  pure invoice

/-- Asks the provider for the hosted invoice; if the provider fails, the local invoice is
cancelled so that it does not block the next attempt. -/
def bill (invoice : Invoice) (description : String) : BillingM ProviderInvoice := do
  let settings ← config
  let asked : ProviderRequest :=
    ⟨invoice.id, invoice.company, invoice.amount, description, settings.invoiceTtl.seconds⟩
  catchFailure (Calls.createProviderInvoice asked) fun failure => do
    let _ ← attempt (Calls.transitionInvoice invoice.id .cancelled none)
    failWith failure

/-- Links the local invoice to the provider's hosted invoice. -/
def link (invoice : Invoice) (created : ProviderInvoice) : BillingM Invoice := do
  let expiresAt := created.expiresAt.orElse fun _ => invoice.expiresAt
  Calls.attachProviderInvoice invoice.id created.providerInvoiceId created.invoiceUrl expiresAt
  pure { invoice with
    providerInvoiceId := some created.providerInvoiceId,
    invoiceUrl := some created.invoiceUrl, expiresAt := expiresAt }

/-- Counts the company's pending invoices again and records the creation. -/
def announce (invoice : Invoice) : BillingM Unit := do
  let _ ← Calls.countPendingInvoices invoice.company
  EventLog.record invoice.company .invoiceCreated .owner none (some invoice.id) (creationData invoice)
    invoice.createdAt

/-- Creates a pending invoice for an action and the provider's hosted invoice for it. -/
def create (request : InvoiceRequest) : BillingM Invoice := do
  refuseSecondPending request.company
  let invoice ← storePending request
  let created ← bill invoice request.description
  let invoice ← link invoice created
  announce invoice
  pure invoice

/-- Marks a pending invoice paid and writes the subscription it buys, in one step; `false` if
the invoice had already left `pending`. -/
def markPaid (id : Uuid) (payment : Payment) (write : SubscriptionWrite) : BillingM Bool := do
  if ← Calls.settleInvoice id payment write then
    let subscription := write.subscription
    EventLog.record subscription.company .invoicePaid .provider (some subscription.id) (some id)
      (.obj [("payment_channel", Json.ofOptStr payment.channel), ("payment_method", Json.ofOptStr payment.method)])
      payment.paidAt
    pure true
  else
    let _ ← require id
    pure false

/-- Moves a pending invoice to `target`, recording it as done by `actor`; `false` if it had
already left `pending`. -/
def close (id : Uuid) (target : InvoiceStatus) (actor : Actor) : BillingM Bool := do
  let changed ← Calls.transitionInvoice id target none
  let invoice ← require id
  if changed then
    let kind : EventKind := if target == .expired then .invoiceExpired else .invoiceCancelled
    EventLog.record invoice.company kind actor none (some id) (.obj []) (← now)
    emit .info "hrcore_billing::invoices" "Invoice closed"
      [("invoice_id", id.hyphenated), ("company_id", invoice.company.hyphenated), ("status", Log.quoted target.name)]
  pure changed

/-- Expires a pending invoice, as the provider reports it. -/
def markExpired (id : Uuid) : BillingM Bool := close id .expired .provider

/-- Cancels a pending invoice, as its owner asks. -/
def markCancelled (id : Uuid) : BillingM Bool := close id .cancelled .owner

/-- A company's invoice; another company's reads as not found. -/
def invoiceOf (company id : Uuid) : BillingM Invoice := do
  match ← Calls.getInvoice id with
  | some invoice =>
    if invoice.company == company then pure invoice
    else failWith (.notFound ("Invoice " ++ id.hyphenated ++ " not found"))
  | none => failWith (.notFound ("Invoice " ++ id.hyphenated ++ " not found"))

/-- Cancels a company's own invoice: a pending one is cancelled, a cancelled one stays, a paid
or expired one cannot be. -/
def cancelPending (company id : Uuid) : BillingM Invoice := do
  let invoice ← invoiceOf company id
  match invoice.status with
  | .pending => let _ ← markCancelled id
  | .cancelled => pure ()
  | .paid => failWith (.conflict "Invoice has already been paid")
  | .expired => failWith (.conflict "Invoice has expired")
  require id

/-- A company's invoices, newest first. -/
def invoicesOf (company : Uuid) : BillingM (List Invoice) := Calls.listInvoices company

/-- The invoice with an id, if any. -/
def find (id : Uuid) : BillingM (Option Invoice) := Calls.getInvoice id

/-- The invoice the provider knows by an id, if any. -/
def findByProviderId (providerId : String) : BillingM (Option Invoice) :=
  Calls.getInvoiceByProviderId providerId

/-- A company's pending invoice, if any. -/
def findPending (company : Uuid) : BillingM (Option Invoice) := Calls.findPendingInvoice company

/-- What one pass over stale invoices did: the invoices it expired, and those it could not,
with why. -/
structure StaleSweep where
  expired : List Uuid
  failed : List (Uuid × String)
  deriving Repr

/-- Expires every pending invoice created more than the invoice life ago, each in a timed
section of its own; a failure or a timeout is reported and the pass goes on. -/
def expireStale : BillingM StaleSweep := do
  let settings ← config
  let cutoff ← orOverflow ((← now).unshift? settings.invoiceTtl)
  let stale ← Calls.listStalePendingInvoices cutoff
  let visit (sweep : StaleSweep) (invoice : Invoice) : BillingM StaleSweep := do
    let outcome ← tryCatch (Except.ok <$> timedSection settings.recordTimeout (attempt (markExpired invoice.id)))
      (fun halt => match halt with
        | .elapsed => pure (.error ())
        | other => throw other)
    let ids := [("invoice_id", invoice.id.hyphenated), ("company_id", invoice.company.hyphenated)]
    match outcome with
    | .ok (.ok true) => pure { sweep with expired := sweep.expired ++ [invoice.id] }
    | .ok (.ok false) => pure sweep
    | .ok (.error failure) =>
      emit .error "hrcore_billing::invoices" "Failed to expire stale invoice" (ids ++ [("error", failure.message)])
      pure { sweep with failed := sweep.failed ++ [(invoice.id, failure.message)] }
    | .error () =>
      emit .error "hrcore_billing::invoices" "Timed out expiring stale invoice" ids
      pure { sweep with failed := sweep.failed ++ [(invoice.id, "timed out")] }
  let sweep ← stale.foldlM visit ⟨[], []⟩
  if !sweep.expired.isEmpty then
    emit .info "hrcore_billing::invoices" "Expired stale invoices" [("count", toString sweep.expired.length)]
  return sweep

end SeatBilling.Invoicing
