import SeatBilling.Proofs.Store.Writes

/-!
# Invoices that have left `pending`

An invoice leaves `pending` by a transition or a settlement, and the store refuses both for
an invoice that is not pending. So once it has left, no write changes how it ended: its
status, when and how it was paid, and the subscription it bought. Linking an invoice to the
provider's invoice changes only the provider's fields, and a new invoice goes under a fresh
identifier, so no write changes what an invoice bills either.
-/

namespace SeatBilling

open SeatBilling.Time

/-- How an invoice ended: its status, when and how it was paid, and the subscription it bought. -/
def Invoice.settlement (invoice : Invoice) :
    InvoiceStatus × Option Moment × Option String × Option String × Option Uuid :=
  (invoice.status, invoice.paidAt, invoice.paymentMethod, invoice.paymentChannel, invoice.subscription)

/-- What an invoice bills: the company, the action, the plan, the seat cap and the amount. -/
def Invoice.terms (invoice : Invoice) : Uuid × InvoicePurpose × String × Int × Int :=
  (invoice.company, invoice.purpose, invoice.plan, invoice.seats, invoice.amount)

theorem Invoice.isPending_eq_of_settlement {invoice other : Invoice} (same : other.settlement = invoice.settlement) :
    other.isPending = invoice.isPending := by
  have sameStatus : other.status = invoice.status := congrArg Prod.fst same
  unfold Invoice.isPending
  rw [sameStatus]

namespace Store

/-- What one write may do to the invoice under one identifier: keep what it bills and, once it
has left `pending`, how it ended. -/
structure InvoiceStep (before after : Invoice) : Prop where
  id : after.id = before.id
  terms : after.terms = before.terms
  closed : before.isPending = false → after.settlement = before.settlement

theorem InvoiceStep.refl (invoice : Invoice) : InvoiceStep invoice invoice := ⟨rfl, rfl, fun _ => rfl⟩

theorem InvoiceStep.trans {first middle last : Invoice} (early : InvoiceStep first middle)
    (late : InvoiceStep middle last) : InvoiceStep first last := by
  refine ⟨late.id.trans early.id, late.terms.trans early.terms, fun closed => ?_⟩
  have middleSettled := early.closed closed
  have middleClosed : middle.isPending = false := by
    rw [Invoice.isPending_eq_of_settlement middleSettled]
    exact closed
  exact (late.closed middleClosed).trans middleSettled

section Lookups

variable {store : Store}

/-- Lookups by identifier read the invoices alone. -/
theorem invoice?_eq_of_invoices {other : Store} (same : other.invoices = store.invoices) (id : Uuid) :
    other.invoice? id = store.invoice? id := by
  unfold invoice?
  rw [same]

theorem invoice?_map {rewrite : Invoice → Invoice} (keeps : ∀ invoice, (rewrite invoice).id = invoice.id)
    (id : Uuid) :
    ({ store with invoices := store.invoices.map rewrite } : Store).invoice? id = (store.invoice? id).map rewrite :=
  find?_map_of_keep Invoice.id keeps store.invoices id

theorem invoice?_upsert (invoice : Invoice) (id : Uuid) :
    ({ store with invoices := upsert (fun new old => new.id == old.id) invoice store.invoices } : Store).invoice? id =
      if invoice.id = id then some invoice else store.invoice? id :=
  find?_upsert Invoice.id invoice store.invoices id

/-- A rewrite of the invoices that is one invoice step on the invoice under `id` keeps it there
as such a step. -/
theorem invoiceStep_map {rewrite : Invoice → Invoice} (keeps : ∀ invoice, (rewrite invoice).id = invoice.id)
    {id : Uuid} {before : Invoice} (found : store.invoice? id = some before) (step : InvoiceStep before (rewrite before)) :
    ∃ after, ({ store with invoices := store.invoices.map rewrite } : Store).invoice? id = some after ∧
      InvoiceStep before after := by
  rw [invoice?_map keeps, found, Option.map_some]
  exact ⟨_, rfl, step⟩

end Lookups

theorem invoiceStep_linked (id : Uuid) (providerId url : String) (expiresAt : Option Moment) (invoice : Invoice) :
    InvoiceStep invoice (linked id providerId url expiresAt invoice) := by
  unfold linked
  split
  · exact ⟨rfl, rfl, fun _ => rfl⟩
  · exact InvoiceStep.refl invoice

/-- A write under identifier `id` that rewrites only the invoice found there, which is pending,
keeps what every stored invoice bills and changes no invoice that has left `pending`. -/
theorem invoiceStep_of_pending {store : Store} {id target : Uuid} {found before : Invoice} {rewrite : Invoice → Invoice}
    (lookup : store.invoice? id = some found) (pending : found.isPending = true)
    (others : ∀ invoice, invoice.id ≠ id → rewrite invoice = invoice)
    (sameTerms : (rewrite found).terms = found.terms) (sameId : (rewrite found).id = found.id)
    (stored : store.invoice? target = some before) : InvoiceStep before (rewrite before) := by
  by_cases isFound : before.id = id
  · -- the invoice under `target` is the one found under `id`, which is still pending
    have sameTarget : target = id := by
      rw [← invoice?_id stored]
      exact isFound
    subst sameTarget
    rw [lookup, Option.some.injEq] at stored
    subst stored
    refine ⟨sameId, sameTerms, fun closed => ?_⟩
    rw [pending] at closed
    cases closed
  · rw [others before isFound]
    exact InvoiceStep.refl before

theorem replacing_of_ne {id : Uuid} {replacement old : Invoice} (other : old.id ≠ id) :
    replacing id replacement old = old := by
  simp [replacing, other]

theorem paidBy_of_ne {id : Uuid} {payment : Payment} {subscription : Uuid} {old : Invoice} (other : old.id ≠ id) :
    paidBy id payment subscription old = old := by
  simp [paidBy, other]

theorem moved_terms {target : InvoiceStatus} {payment : Option Payment} {invoice result : Invoice}
    (moving : moved target payment invoice = some result) : result.terms = invoice.terms := by
  unfold moved at moving
  split at moving
  · cases moving
    rfl
  · cases moving
  · cases moving
    rfl

/-- Every write keeps the invoice stored under an identifier as one invoice step, when the
invoice it creates, if any, gets a fresh identifier. -/
theorem invoiceStep_apply {store : Store} {write : Write} (fresh : write.FreshInvoice store) {id : Uuid} {before : Invoice}
    (found : store.invoice? id = some before) :
    ∃ after, (write.apply store).invoice? id = some after ∧ InvoiceStep before after := by
  cases write with
  | insertSubscription subscription =>
    rw [invoice?_eq_of_invoices (invoices_apply_insertSubscription store subscription), found]
    exact ⟨before, rfl, InvoiceStep.refl before⟩
  | updateSubscription subscription version =>
    rw [invoice?_eq_of_invoices (invoices_apply_updateSubscription store subscription version), found]
    exact ⟨before, rfl, InvoiceStep.refl before⟩
  | updateExpiredToStatus statuses cutoff target now =>
    rw [invoice?_eq_of_invoices (invoices_apply_updateExpiredToStatus store statuses cutoff target now), found]
    exact ⟨before, rfl, InvoiceStep.refl before⟩
  | insertInvoice invoice =>
    rcases apply_insertInvoice store invoice with unchanged | ⟨-, inserted⟩
    · rw [unchanged, found]
      exact ⟨before, rfl, InvoiceStep.refl before⟩
    · -- the new invoice's identifier is fresh, so it is not `id`
      have otherId : invoice.id ≠ id := by
        intro same
        have absent : store.invoice? invoice.id = none := fresh
        rw [same, found] at absent
        cases absent
      rw [inserted, invoice?_upsert, if_neg otherId, found]
      exact ⟨before, rfl, InvoiceStep.refl before⟩
  | attachProviderInvoice target providerId url expiresAt =>
    rcases apply_attachProviderInvoice store target providerId url expiresAt with unchanged | attached
    · rw [unchanged, found]
      exact ⟨before, rfl, InvoiceStep.refl before⟩
    · rw [attached]
      exact invoiceStep_map (linked_id target providerId url expiresAt) found
        (invoiceStep_linked target providerId url expiresAt before)
  | transitionInvoice target status payment =>
    rcases apply_transitionInvoice store target status payment with
      unchanged | ⟨invoice, result, lookup, pending, moving, transitioned⟩
    · rw [unchanged, found]
      exact ⟨before, rfl, InvoiceStep.refl before⟩
    · rw [transitioned]
      have resultId : result.id = target := (moved_id moving).trans (invoice?_id lookup)
      have foundSelf : replacing target result invoice = result := by
        simp [replacing, invoice?_id lookup]
      exact invoiceStep_map (replacing_id resultId) found
        (invoiceStep_of_pending lookup pending (fun _ other => replacing_of_ne other)
          (by rw [foundSelf]; exact moved_terms moving) (by rw [foundSelf]; exact moved_id moving) found)
  | settleInvoice target payment effect =>
    rcases apply_settleInvoice store target payment effect with
      unchanged | ⟨invoice, stored, lookup, pending, -, settled⟩
    · rw [unchanged, found]
      exact ⟨before, rfl, InvoiceStep.refl before⟩
    · have sameInvoices : ((Write.settleInvoice target payment effect).apply store).invoices =
          ({ store with invoices := store.invoices.map (paidBy target payment stored.id) } : Store).invoices := by
        rw [settled]
      rw [invoice?_eq_of_invoices sameInvoices]
      have paidTerms : (paidBy target payment stored.id invoice).terms = invoice.terms := by
        unfold paidBy
        split <;> rfl
      exact invoiceStep_map (paidBy_id target payment stored.id) found
        (invoiceStep_of_pending lookup pending (fun _ other => paidBy_of_ne other) paidTerms
          (paidBy_id target payment stored.id invoice) found)
  | appendEvent event =>
    rw [invoice?_eq_of_invoices (invoices_apply_appendEvent store event), found]
    exact ⟨before, rfl, InvoiceStep.refl before⟩

/-- Along every run that stores new records under fresh identifiers, the invoice under an
identifier stays there, keeps what it bills and, once it has left `pending`, how it ended. -/
theorem invoiceStep_replay {store : Store} {writes : List Write} (fresh : FreshRun store writes) {id : Uuid}
    {before : Invoice} (found : store.invoice? id = some before) :
    ∃ after, (store.replay writes).invoice? id = some after ∧ InvoiceStep before after := by
  induction writes generalizing store before with
  | nil => exact ⟨before, found, InvoiceStep.refl before⟩
  | cons write writes inductionHypothesis =>
    obtain ⟨middle, foundMiddle, early⟩ := invoiceStep_apply fresh.1.invoice found
    obtain ⟨after, foundAfter, late⟩ := inductionHypothesis fresh.2 foundMiddle
    exact ⟨after, foundAfter, early.trans late⟩

end Store

end SeatBilling
