import SeatBilling.Proofs.Services.Steps
import SeatBilling.Proofs.Ledger.RacingCheckouts

/-!
# What a failed operation leaves behind

An operation of the services that ends with a collaborator's failure leaves the store as it
was, with one exception by design: an operation that bills a company stores the new pending
invoice before it asks the provider for it, and when the provider fails it cancels that
invoice rather than delete it. The cancelled invoice stays, after the invoices there were,
and since it is not pending it blocks no later attempt.

Three later failures of invoice creation would leave a pending invoice behind (the
cancellation itself, linking the provider's invoice, and counting the company's pending
invoices afterwards), and two operations can fail after they wrote (a close whose lookup
fails, a bulk expiry whose second or third write fails). Each operation spares those calls.
New identifiers are fresh, as random ones are.
-/

namespace SeatBilling

open SeatBilling.Time

/-! ## A new invoice, set after the others -/

/-- An invoice of `company`, cancelled and under an identifier no invoice of `before` holds,
set after the invoices of `before`; nothing else of the store changed. -/
def Store.CancelledAside (company : Uuid) (before after : Store) : Prop :=
  ∃ invoice : Invoice, invoice.company = company ∧ invoice.status = .cancelled ∧
    (∀ old ∈ before.invoices, old.id ≠ invoice.id) ∧ after = { before with invoices := before.invoices ++ [invoice] }

/-- The next identifier drawn is held by no stored invoice, and no stored invoice is linked to
the provider's invoice made from it. -/
def Facts.FreshNext (facts : Facts) : Prop :=
  ∀ invoice ∈ facts.store.invoices, invoice.id ≠ Uuid.ofSerial facts.serial ∧
    invoice.providerInvoiceId ≠ some (Calls.providerIdFor (Uuid.ofSerial facts.serial))

/-- A new pending invoice for `request`, set after the invoices of `before`, under an
identifier that no invoice of `before` holds and whose provider id none is linked to. -/
structure Appended (request : InvoiceRequest) (before : Store) (invoice : Invoice) (store : Store) : Prop where
  appended : store = { before with invoices := before.invoices ++ [invoice] }
  company : invoice.company = request.company
  pending : invoice.status = .pending
  fresh : ∀ old ∈ before.invoices, old.id ≠ invoice.id ∧ old.providerInvoiceId ≠ some (Calls.providerIdFor invoice.id)

namespace Store

variable {before after : Store} {invoice : Invoice}

theorem invoice?_appended (fresh : ∀ old ∈ before.invoices, old.id ≠ invoice.id) :
    ({ before with invoices := before.invoices ++ [invoice] } : Store).invoice? invoice.id = some invoice := by
  have absent : before.invoices.find? (fun old => old.id == invoice.id) = none := by
    rw [List.find?_eq_none]
    intro old member same
    exact fresh old member (beq_iff_eq.mp same)
  unfold Store.invoice?
  rw [List.find?_append, absent]
  simp

theorem insertInvoice_fresh (fresh : ∀ old ∈ before.invoices, old.id ≠ invoice.id)
    (inserted : before.insertInvoice invoice = .ok after) :
    after = { before with invoices := before.invoices ++ [invoice] } := by
  unfold Store.insertInvoice at inserted
  split at inserted
  · cases inserted
  · cases inserted
    rw [upsert_eq_append]
    intro old member
    simp only [beq_eq_false_iff_ne]
    exact fun same => fresh old member same.symm

/-- Cancelling the pending invoice set after the others changes it alone. -/
theorem transitionInvoice_appended (pending : invoice.status = .pending)
    (fresh : ∀ old ∈ before.invoices, old.id ≠ invoice.id) :
    ({ before with invoices := before.invoices ++ [invoice] } : Store).transitionInvoice invoice.id .cancelled none =
      .ok (true, { before with invoices := before.invoices ++ [{ invoice with status := .cancelled }] }) := by
  have isPending : invoice.isPending = true := by
    rw [Invoice.isPending, pending]
    rfl
  have others : before.invoices.map (fun old =>
      if (old.id == invoice.id) = true then { invoice with status := .cancelled } else old) = before.invoices := by
    conv_rhs => rw [← List.map_id before.invoices]
    apply List.map_congr_left
    intro old member
    simp [fresh old member]
  unfold Store.transitionInvoice
  rw [invoice?_appended fresh]
  simp only [isPending, Bool.not_true, Bool.false_eq_true, if_false]
  rw [List.map_append, others]
  simp

/-- Linking the invoice set after the others to the provider's invoice made from its
identifier goes through: no other invoice is linked to it. -/
theorem attachProviderInvoice_appended (url : String) (expiresAt : Option Moment)
    (fresh : ∀ old ∈ before.invoices, old.id ≠ invoice.id ∧
      old.providerInvoiceId ≠ some (Calls.providerIdFor invoice.id)) :
    ∃ linked, ({ before with invoices := before.invoices ++ [invoice] } : Store).attachProviderInvoice invoice.id
      (Calls.providerIdFor invoice.id) url expiresAt = .ok linked := by
  have unlinked : ((before.invoices ++ [invoice]).any fun other =>
      other.id != invoice.id && other.providerInvoiceId == some (Calls.providerIdFor invoice.id)) = false := by
    rw [List.any_append, List.any_eq_false.mpr]
    · simp
    · intro old member
      simp [(fresh old member).2]
  have found := invoice?_appended fun old member => (fresh old member).1
  unfold Store.attachProviderInvoice
  split
  · rename_i linked
    dsimp only at linked
    rw [unlinked] at linked
    cases linked
  · split
    · rename_i missing
      rw [found] at missing
      cases missing
    · exact ⟨_, rfl⟩

/-- An invoice set aside cancelled leaves every company's pending invoices as they were. -/
theorem CancelledAside.pendingOf {company : Uuid} (aside : before.CancelledAside company after) (other : Uuid) :
    after.pendingOf other = before.pendingOf other := by
  obtain ⟨invoice, _, cancelled, _, shape⟩ := aside
  rw [shape]
  unfold Store.pendingOf
  rw [List.filter_append]
  simp [Invoice.isPending, cancelled]

end Store

/-! ## Failing with an invoice set aside -/

namespace Spec

variable {α β : Type} {spared : List Call} {pre : Facts → Prop} {post : β → Facts → Prop} {failed : Facts → Prop}

/-- A read, then an action: a failure of the read leaves what held before it. -/
theorem read_bind {action : BillingM α} {next : α → BillingM β} {gives : α → Prop} (reads : ReadOnly spared action gives)
    (rest : ∀ value, gives value → Spec spared pre (next value) post failed) (leaves : ∀ facts, pre facts → failed facts) :
    Spec spared pre (action >>= next) post failed :=
  bind ((reads pre).mono (fun _ holds => holds) (fun _ _ done => done) leaves) fun value =>
    of_facts fun _ ⟨holds, given⟩ => (rest value given).mono (fun _ same => same ▸ holds) (fun _ _ done => done)
      fun _ stopped => stopped

/-- A failure of the action leaves the store as it was, or with a cancelled invoice of
`company` set after the others; the next identifier drawn is fresh. -/
def FailsAside (spared : List Call) (company : Uuid) (action : BillingM α) : Prop :=
  ∀ before, Spec spared (fun facts => facts.store = before ∧ facts.FreshNext) action (fun _ _ => True)
    fun facts => facts.store = before ∨ before.CancelledAside company facts.store

theorem FailsAside.read_bind {company : Uuid} {action : BillingM α} {next : α → BillingM β} {gives : α → Prop}
    (reads : ReadOnly spared action gives) (rest : ∀ value, gives value → FailsAside spared company (next value)) :
    FailsAside spared company (action >>= next) :=
  fun before => Spec.read_bind reads (fun value given => rest value given before) fun _ holds => .inl holds.1

end Spec

/-! ## Creating an invoice -/

section Creation

variable {spared : List Call}

theorem Invoicing.storePending_spec (request : InvoiceRequest) (before : Store) :
    Spec spared (fun facts => facts.store = before ∧ facts.FreshNext) (Invoicing.storePending request)
      (fun invoice facts => Appended request before invoice facts.store) fun facts => facts.store = before := by
  refine Spec.of_facts fun facts ⟨stored, fresh⟩ => ?_
  have keeps : ∀ later : Facts, later = facts → later.store = before := fun _ same => by rw [same]; exact stored
  unfold Invoicing.storePending
  refine Spec.read_bind Spec.ReadOnly.now (fun at_ _ => ?_) keeps
  refine Spec.read_bind Spec.ReadOnly.config (fun settings _ => ?_) keeps
  refine Spec.bind (Spec.freshId facts) fun id => Spec.of_facts fun drawn ⟨named, shape⟩ => ?_
  have drawnStore : drawn.store = before := by rw [shape]; exact stored
  refine Spec.read_bind (Spec.ReadOnly.orOverflow _) (fun expiresAt _ => ?_) fun _ same => by rw [same]; exact drawnStore
  -- the new invoice's identifier is the one drawn, which is fresh
  have freshId : ∀ old ∈ before.invoices, old.id ≠ id ∧ old.providerInvoiceId ≠ some (Calls.providerIdFor id) := by
    rw [← stored, named]
    exact fresh
  refine Spec.bind (Spec.stepCall_from drawnStore .insertInvoice none (some ()) none _ _) fun _ => ?_
  refine Spec.of_facts fun inserted ⟨stepped, _⟩ => ?_
  have written : drawn.store.insertInvoice (Invoicing.pendingInvoice request id at_ expiresAt) = .ok inserted.store := by
    cases insertion : drawn.store.insertInvoice (Invoicing.pendingInvoice request id at_ expiresAt) with
    | error failure =>
      rw [insertion] at stepped
      cases stepped
    | ok store =>
      rw [insertion] at stepped
      cases stepped
      rfl
  rw [drawnStore] at written
  refine (Spec.pure _).mono (fun _ same => same) (fun _ _ ⟨given, same⟩ => ?_) fun _ stopped => stopped
  subst given
  subst same
  exact ⟨Store.insertInvoice_fresh (fun old member => (freshId old member).1) written, rfl, rfl, freshId⟩

/-- Asking the provider: it gives the hosted invoice made from the local one, or fails, and then
the spared cancellation sets the new invoice aside. -/
theorem Invoicing.bill_spec (sparesCancel : Call.transitionInvoice ∈ spared) (request : InvoiceRequest) (before : Store)
    (invoice : Invoice) (description : String) :
    Spec spared (fun facts => Appended request before invoice facts.store) (Invoicing.bill invoice description)
      (fun created facts => Appended request before invoice facts.store ∧
        created.providerInvoiceId = Calls.providerIdFor invoice.id)
      fun facts => before.CancelledAside request.company facts.store := by
  unfold Invoicing.bill
  refine Spec.bind Spec.config fun settings => Spec.of_facts fun facts ⟨appended, _⟩ => ?_
  refine Spec.catchFailure ((Spec.createProviderInvoice _).mono (fun _ same => same)
    (fun _ _ ⟨same, named⟩ => ⟨by rw [same]; exact appended, named⟩) fun _ same => same) fun failure => ?_
  have cancelling := Store.transitionInvoice_appended appended.pending fun old member => (appended.fresh old member).1
  rw [← appended.appended] at cancelling
  refine Spec.bind (Spec.attempt (Spec.stepCall facts .transitionInvoice (some false) none none _ _)) fun result => ?_
  refine (Spec.failWith failure).mono (fun _ holds => holds) (fun _ _ done => done) fun after cancelled => ?_
  rcases result with _ | changed
  · -- the cancellation is spared, and cancelling the new invoice never fails
    obtain ⟨_, refused⟩ := cancelled
    obtain ⟨_, wrong⟩ := refused sparesCancel
    rw [cancelling] at wrong
    cases wrong
  · obtain ⟨stepped, _⟩ := cancelled
    rw [cancelling] at stepped
    have outcome := Prod.mk.inj (Except.ok.inj stepped)
    exact ⟨{ invoice with status := .cancelled }, appended.company, rfl,
      fun old member => (appended.fresh old member).1, outcome.2.symm⟩

/-- Linking the local invoice to the provider's cannot fail once spared: no other invoice is
linked to the provider's invoice made from the fresh identifier. -/
theorem Invoicing.link_unfailing (sparesLink : Call.attachProviderInvoice ∈ spared) (request : InvoiceRequest)
    (before : Store) (invoice : Invoice) (created : ProviderInvoice) :
    Spec spared (fun facts => Appended request before invoice facts.store ∧
        created.providerInvoiceId = Calls.providerIdFor invoice.id)
      (Invoicing.link invoice created) (fun _ _ => True) fun _ => False := by
  refine Spec.of_facts fun facts ⟨appended, named⟩ => ?_
  unfold Invoicing.link
  obtain ⟨linked, attached⟩ := Store.attachProviderInvoice_appended created.invoiceUrl
    (created.expiresAt.orElse fun _ => invoice.expiresAt) appended.fresh
  rw [← appended.appended, ← named] at attached
  refine Spec.bind ((Spec.stepCall facts .attachProviderInvoice none (some ()) none _ _).mono (fun _ same => same)
    (fun _ _ _ => trivial) fun _ ⟨_, refused⟩ => ?_) fun _ => ?_
  · obtain ⟨failure, wrong⟩ := refused sparesLink
    rw [attached] at wrong
    cases wrong
  · exact (Spec.pure _).mono (fun _ _ => trivial) (fun _ _ _ => trivial) fun _ never => never

/-- Counting the pending invoices again cannot fail once spared, and the record after it never does. -/
theorem Invoicing.announce_unfailing (sparesCount : Call.countPendingInvoices ∈ spared) (invoice : Invoice) :
    Spec.Unfailing spared (Invoicing.announce invoice) :=
  Spec.bind ((Spec.readCall _ _ _ _ _ _).mono (fun _ _ => trivial) (fun _ _ _ => trivial)
    fun _ ⟨_, unspared⟩ => unspared sparesCount) fun _ => Spec.Unfailing.record _ _ _ _ _ _ _

section Spared

variable (sparesCancel : Call.transitionInvoice ∈ spared) (sparesLink : Call.attachProviderInvoice ∈ spared)
  (sparesCount : Call.countPendingInvoices ∈ spared)

include sparesCancel sparesLink sparesCount

/-- Creating an invoice fails cleanly before the provider is asked, and with the new invoice
set aside when the provider fails; after that, nothing fails. -/
theorem Invoicing.create_failsAside (request : InvoiceRequest) :
    Spec.FailsAside spared request.company (Invoicing.create request) := by
  intro before
  unfold Invoicing.create
  refine Spec.read_bind (Invoicing.refuseSecondPending_readOnly _) (fun _ _ => ?_) fun _ holds => .inl holds.1
  refine Spec.bind ((Invoicing.storePending_spec request before).mono (fun _ holds => holds) (fun _ _ done => done)
    fun _ stored => .inl stored) fun invoice => ?_
  refine Spec.bind ((Invoicing.bill_spec sparesCancel request before invoice _).mono (fun _ appended => appended)
    (fun _ _ done => done) fun _ aside => .inr aside) fun created => ?_
  refine Spec.bind ((Invoicing.link_unfailing sparesLink request before invoice created).mono (fun _ holds => holds)
    (fun _ _ done => done) fun _ never => never.elim) fun linked => ?_
  exact ((Invoicing.announce_unfailing sparesCount linked).bind fun _ => Spec.Unfailing.pure linked).mono
    (fun _ _ => trivial) (fun _ _ _ => trivial) fun _ never => never.elim

end Spared

end Creation

/-! ## Every operation -/

/-- A public operation of the subscription ledger or of the invoices, with its arguments. -/
inductive Operation where
  | startTrial (company : Uuid) (planId : String)
  | checkout (company : Uuid) (planId : String) (seats : Option Int)
  | upgrade (company : Uuid) (planId : String)
  | downgrade (company : Uuid) (planId : String)
  | changeSeats (company : Uuid) (seats : Int)
  | cancel (company : Uuid)
  | cancelScheduledChange (company : Uuid)
  | settle (invoice : Uuid) (payment : Payment)
  | commitPendingChange (subscription : Uuid)
  | expireLapsed
  | createInvoice (request : InvoiceRequest)
  | markExpired (invoice : Uuid)
  | markCancelled (invoice : Uuid)
  | cancelPendingInvoice (company invoice : Uuid)

namespace Operation

/-- Runs the operation; what it returns is dropped. -/
def perform : Operation → BillingM Unit
  | startTrial company planId => Ledger.startTrial company planId >>= fun _ => pure ()
  | checkout company planId seats => Ledger.checkout company planId seats >>= fun _ => pure ()
  | upgrade company planId => Ledger.upgrade company planId >>= fun _ => pure ()
  | downgrade company planId => Ledger.downgrade company planId >>= fun _ => pure ()
  | changeSeats company seats => Ledger.changeSeats company seats >>= fun _ => pure ()
  | cancel company => Ledger.cancel company >>= fun _ => pure ()
  | cancelScheduledChange company => Ledger.cancelScheduledChange company >>= fun _ => pure ()
  | settle invoice payment => Ledger.settle invoice payment >>= fun _ => pure ()
  | commitPendingChange subscription => Ledger.commitPendingChange subscription >>= fun _ => pure ()
  | expireLapsed => Ledger.expireLapsed >>= fun _ => pure ()
  | createInvoice request => Invoicing.create request >>= fun _ => pure ()
  | markExpired invoice => Invoicing.markExpired invoice >>= fun _ => pure ()
  | markCancelled invoice => Invoicing.markCancelled invoice >>= fun _ => pure ()
  | cancelPendingInvoice company invoice => Invoicing.cancelPending company invoice >>= fun _ => pure ()

/-- The calls whose failure would come after the operation wrote: the cancellation, the link
and the count of invoice creation; the lookup after a close; the bulk expiries. -/
def spared : Operation → List Call
  | checkout .. | upgrade .. | changeSeats .. | createInvoice .. =>
    [.transitionInvoice, .attachProviderInvoice, .countPendingInvoices]
  | markExpired .. | markCancelled .. | cancelPendingInvoice .. => [.getInvoice]
  | expireLapsed => [.updateExpiredToStatus]
  | _ => []

/-- The company the operation may bill. -/
def billedCompany : Operation → Option Uuid
  | checkout company .. | upgrade company .. | changeSeats company .. => some company
  | createInvoice request => some request.company
  | _ => none

/-- What a failure of the operation may leave of the store `before`: the store itself, or, for
an operation that bills a company, that company's new invoice set aside cancelled. -/
def FailureLeaves (operation : Operation) (before after : Store) : Prop :=
  after = before ∨ ∃ company, operation.billedCompany = some company ∧ before.CancelledAside company after

theorem FailureLeaves.pendingOf {operation : Operation} {before after : Store}
    (leaves : operation.FailureLeaves before after) (company : Uuid) :
    after.pendingOf company = before.pendingOf company := by
  rcases leaves with same | ⟨_, _, aside⟩
  · rw [same]
  · exact aside.pendingOf company

variable {α : Type} {operation : Operation} {action : BillingM α}

end Operation

/-- `quietStart` with the provider told to refuse every request. -/
def refusingStart : World := { Ledger.quietStart with provider := ⟨some "declined", [], none⟩ }

end SeatBilling
