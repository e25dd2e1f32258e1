import SeatBilling.Proofs.Calls

/-!
# Creating an invoice, phase by phase

`Invoicing.create` runs five phases: it refuses a company with a pending invoice, stores the
new pending invoice, asks the provider for the hosted invoice, links the two, and announces
the creation. Each lemma here says what one phase does in a steady world, where every
collaborator does its plain work: the store step it takes, the identifier it draws and the
request the provider records. Between two phases other callers may run, which is why each
phase is described on its own.
-/

namespace SeatBilling.Invoicing

open SeatBilling.Time

/-- What the core asks the provider for an invoice. -/
def askedFor (invoice : Invoice) (description : String) (settings : Config) : ProviderRequest :=
  ⟨invoice.id, invoice.company, invoice.amount, description, settings.invoiceTtl.seconds⟩

/-- The local provider's hosted invoice for a local invoice. -/
def hostedFor (id : Uuid) : ProviderInvoice :=
  ⟨Calls.providerIdFor id, "https://pay.example.test/" ++ Calls.providerIdFor id, none⟩

/-- A local invoice linked to the provider's hosted invoice. -/
def linkedTo (invoice : Invoice) (created : ProviderInvoice) : Invoice :=
  { invoice with
    providerInvoiceId := some created.providerInvoiceId,
    invoiceUrl := some created.invoiceUrl,
    expiresAt := created.expiresAt.orElse fun _ => invoice.expiresAt }

/-- The event that announces an invoice, under identifier `id`. -/
def creationEvent (invoice : Invoice) (id : Uuid) : Event :=
  ⟨id, invoice.company, none, some invoice.id, .invoiceCreated, .owner, creationData invoice, invoice.createdAt⟩

@[simp] theorem pendingInvoice_company (request : InvoiceRequest) (id : Uuid) (at_ expiresAt : Moment) :
    (pendingInvoice request id at_ expiresAt).company = request.company := rfl

@[simp] theorem pendingInvoice_id (request : InvoiceRequest) (id : Uuid) (at_ expiresAt : Moment) :
    (pendingInvoice request id at_ expiresAt).id = id := rfl

@[simp] theorem pendingInvoice_isPending (request : InvoiceRequest) (id : Uuid) (at_ expiresAt : Moment) :
    (pendingInvoice request id at_ expiresAt).isPending = true := rfl

@[simp] theorem linkedTo_id (invoice : Invoice) (created : ProviderInvoice) :
    (linkedTo invoice created).id = invoice.id := rfl

@[simp] theorem linkedTo_company (invoice : Invoice) (created : ProviderInvoice) :
    (linkedTo invoice created).company = invoice.company := rfl

@[simp] theorem linkedTo_isPending (invoice : Invoice) (created : ProviderInvoice) :
    (linkedTo invoice created).isPending = invoice.isPending := rfl

/-- An expiry past the calendar's range halts the whole run after the identifier is drawn. -/
theorem storePending_run_overflow {world : World}
    (expiry : world.clock.shift? world.config.invoiceTtl = none) (request : InvoiceRequest) :
    (storePending request).run.run world = (.error .overflow, { world with serial := world.serial + 1 }) := by
  simp only [storePending, run_bind, run_now, run_config, run_freshId, expiry, run_orOverflow_none]

section Steady

variable {world : World} (steady : Steady world)
include steady

theorem refuseSecondPending_run (company : Uuid) :
    (refuseSecondPending company).run.run world =
      (if world.store.pendingOf company = [] then .ok ()
        else .error (.failed (.duplicatePendingInvoice company)), world) := by
  simp only [refuseSecondPending, run_bind, Calls.findPendingInvoice_run steady, Store.findPendingInvoice]
  cases world.store.pendingOf company with
  | nil => rfl
  | cons first rest => rfl

/-- Storing draws the next identifier; the store then takes the new invoice or refuses it. -/
theorem storePending_run {expiresAt : Moment}
    (expiry : world.clock.shift? world.config.invoiceTtl = some expiresAt) (request : InvoiceRequest) :
    (storePending request).run.run world =
      match world.store.insertInvoice (pendingInvoice request (Uuid.ofSerial world.serial) world.clock expiresAt) with
      | .ok store =>
        (.ok (pendingInvoice request (Uuid.ofSerial world.serial) world.clock expiresAt),
          { world with serial := world.serial + 1, store := store })
      | .error failure => (.error (.failed failure), { world with serial := world.serial + 1 }) := by
  have drawn : Steady { world with serial := world.serial + 1 } :=
    steady.update world.store (world.serial + 1) world.provider
  simp only [storePending, run_bind, run_now, run_config, run_freshId, expiry, run_orOverflow_some]
  rw [Calls.insertInvoice_run drawn]
  cases world.store.insertInvoice (pendingInvoice request (Uuid.ofSerial world.serial) world.clock expiresAt) with
  | ok store => rfl
  | error failure => rfl

/-- The local provider that accepts requests records the request and answers at once. -/
theorem bill_run (local_ : world.provider.endpoint = none) (willing : world.provider.refusal = none)
    (invoice : Invoice) (description : String) :
    (bill invoice description).run.run world =
      (.ok (hostedFor invoice.id), { world with
        provider := { world.provider with
          requests := world.provider.requests ++ [askedFor invoice description world.config] } }) := by
  simp only [bill, run_bind, run_config]
  rw [run_catchFailure, Calls.createProviderInvoice_run steady local_ willing]
  rfl

theorem link_run (invoice : Invoice) (created : ProviderInvoice) :
    (link invoice created).run.run world =
      match world.store.attachProviderInvoice invoice.id created.providerInvoiceId created.invoiceUrl
          (created.expiresAt.orElse fun _ => invoice.expiresAt) with
      | .ok store => (.ok (linkedTo invoice created), { world with store := store })
      | .error failure => (.error (.failed failure), world) := by
  simp only [link, run_bind]
  rw [Calls.attachProviderInvoice_run steady]
  cases world.store.attachProviderInvoice invoice.id created.providerInvoiceId created.invoiceUrl
      (created.expiresAt.orElse fun _ => invoice.expiresAt) with
  | ok store => rfl
  | error failure => rfl

/-- Announcing counts the pending invoices, which changes nothing, and appends the creation
event under the next identifier. -/
theorem announce_run (invoice : Invoice) :
    (announce invoice).run.run world =
      (.ok (), { world with
        serial := world.serial + 1
        store := world.store.appendEvent (creationEvent invoice (Uuid.ofSerial world.serial)) }) := by
  simp only [announce, run_bind, Calls.countPendingInvoices_run steady]
  rw [EventLog.record_run steady]
  rfl

end Steady

end SeatBilling.Invoicing
