import SeatBilling.Proofs.Ledger.RecordSteps

/-!
# Invoices a run settles

The triggers that settle paid invoices make no other calls but closing invoices and recording
events (`Trigger.uses_of_settle`), and each of those calls rewrites every invoice into itself or
into one that has left `pending`, under the same identifier (`CoreWrite.closes_invoices`). So in
such a run an invoice pending at some point was pending under the same identifier when the run
started, billing the same (`Store.PendingSince`), and an invoice paid at some point is still
paid when the run ends (`Store.KeptUntil`, from the invoice steps of `ClosedInvoices`).

A run from `start` to `finish` settles the invoice under an identifier when it is pending in
`start` and paid in `finish` (`Store.SettledBetween`); a settlement call made in the middle of a
settling run settles its invoice in this sense (`Store.settledBetween_of_call`).
-/

namespace SeatBilling

open SeatBilling.Time

theorem Invoice.company_eq_of_terms {invoice other : Invoice} (same : other.terms = invoice.terms) :
    other.company = invoice.company :=
  congrArg Prod.fst same

theorem Invoice.purpose_eq_of_terms {invoice other : Invoice} (same : other.terms = invoice.terms) :
    other.purpose = invoice.purpose :=
  congrArg (fun terms => terms.2.1) same

/-- The triggers that settle paid invoices make no other calls but closing invoices and
recording events. -/
theorem Trigger.uses_of_settle {trigger : Trigger} (settling : .settle ∈ trigger.uses) :
    ∀ kind ∈ trigger.uses, kind = .settle ∨ kind = .close ∨ kind = .record := by
  rcases trigger with action | _ | _
  · cases action <;> simp [Trigger.uses] at settling ⊢
  · simp [Trigger.uses]
  · simp [Trigger.uses] at settling

/-! ## Calls that only close invoices -/

section Calls

variable {settings : Config} {now : Moment} {headcount : List (Uuid × Int)} {store : Store}

/-- A call that moves an invoice out of `pending` moves it to a closed status. -/
theorem Store.moved_closing {target : InvoiceStatus} {invoice result : Invoice}
    (closing : target = .expired ∨ target = .cancelled) (moving : Store.moved target none invoice = some result) :
    result.isPending = false := by
  rcases closing with rfl | rfl <;>
  · simp only [Store.moved, Option.some.injEq] at moving
    subst moving
    rfl

/-- A call that settles or closes an invoice, or records an event, rewrites each invoice into
itself or into one that has left `pending`, under the same identifier. -/
theorem CoreWrite.closes_invoices {kind : WriteKind} {write : Store.Write}
    (closing : kind = .settle ∨ kind = .close ∨ kind = .record) (made : CoreWrite settings now headcount store kind write) :
    ∃ rewrite : Invoice → Invoice, (write.apply store).invoices = store.invoices.map rewrite ∧
      (∀ invoice, (rewrite invoice).id = invoice.id) ∧
      ∀ invoice, rewrite invoice = invoice ∨ (rewrite invoice).isPending = false := by
  cases made
  case settle id _ _ _ payment effect _ _ _ =>
    rcases Store.apply_settleInvoice store id payment effect with unchanged | ⟨_, stored, -, -, -, settled⟩
    · exact ⟨fun invoice => invoice, by rw [unchanged, List.map_id'], fun _ => rfl, fun _ => .inl rfl⟩
    · refine ⟨Store.paidBy id payment stored.id, by rw [settled], Store.paidBy_id id payment stored.id, fun original => ?_⟩
      unfold Store.paidBy
      split
      · exact .inr rfl
      · exact .inl rfl
  case close id target closingTarget =>
    rcases Store.apply_transitionInvoice store id target none with unchanged | ⟨_, result, lookup, -, moving, moved⟩
    · exact ⟨fun invoice => invoice, by rw [unchanged, List.map_id'], fun _ => rfl, fun _ => .inl rfl⟩
    · have resultId : result.id = id := (Store.moved_id moving).trans (Store.invoice?_id lookup)
      refine ⟨Store.replacing id result, by rw [moved], Store.replacing_id resultId, fun original => ?_⟩
      unfold Store.replacing
      split
      · exact .inr (Store.moved_closing closingTarget moving)
      · exact .inl rfl
  case record event =>
    exact ⟨fun invoice => invoice, by rw [Store.invoices_apply_appendEvent, List.map_id'], fun _ => rfl, fun _ => .inl rfl⟩
  all_goals simp at closing

end Calls

/-! ## Pending since the start, kept until the end -/

/-- Every invoice pending in `store` was pending under the same identifier in `start`, billing
the same. -/
def Store.PendingSince (start store : Store) : Prop :=
  ∀ id invoice, store.invoice? id = some invoice → invoice.isPending = true →
    ∃ earlier, start.invoice? id = some earlier ∧ earlier.isPending = true ∧ earlier.terms = invoice.terms

/-- Every invoice of `store` is still under its identifier in `finish`, one invoice step on. -/
def Store.KeptUntil (store finish : Store) : Prop :=
  ∀ id invoice, store.invoice? id = some invoice → ∃ later, finish.invoice? id = some later ∧ Store.InvoiceStep invoice later

theorem Store.PendingSince.refl (start : Store) : start.PendingSince start :=
  fun _ invoice found pending => ⟨invoice, found, pending, rfl⟩

/-- Rewriting each invoice, under the same identifier, into itself or into one that is not
pending keeps where the pending invoices come from. -/
theorem Store.PendingSince.of_map {start store after : Store} {rewrite : Invoice → Invoice}
    (holding : start.PendingSince store) (invoices : after.invoices = store.invoices.map rewrite)
    (keeps : ∀ invoice, (rewrite invoice).id = invoice.id)
    (closes : ∀ invoice, rewrite invoice = invoice ∨ (rewrite invoice).isPending = false) : start.PendingSince after := by
  intro id invoice found pending
  have lookup : after.invoice? id = (store.invoice? id).map rewrite :=
    (Store.invoice?_eq_of_invoices invoices id).trans (Store.invoice?_map keeps id)
  rw [lookup, Option.map_eq_some_iff] at found
  obtain ⟨original, stored, rfl⟩ := found
  rcases closes original with same | closed
  · rw [same] at pending ⊢
    exact holding id original stored pending
  · rw [closed] at pending
    cases pending

/-- The calls that settle or close invoices, or record events, create no pending invoice. -/
theorem CoreWrite.pendingSince {settings : Config} {now : Moment} {headcount : List (Uuid × Int)} {start store : Store}
    {kind : WriteKind} {write : Store.Write} (closing : kind = .settle ∨ kind = .close ∨ kind = .record)
    (made : CoreWrite settings now headcount store kind write) (holding : start.PendingSince store) :
    start.PendingSince (write.apply store) := by
  obtain ⟨rewrite, invoices, keeps, closes⟩ := made.closes_invoices closing
  exact holding.of_map invoices keeps closes

/-- Along every run that stores new records under fresh identifiers, every invoice is kept until
the run's end. -/
theorem Store.keptUntil_replay {store : Store} {writes : List Store.Write} (fresh : Store.FreshRun store writes) :
    store.KeptUntil (store.replay writes) :=
  fun _ _ found => Store.invoiceStep_replay fresh found

/-! ## Settled between two stores -/

/-- A run from `start` to `finish` settles the invoice under `id`: it is `invoice`, pending, in
`start`, and paid in `finish`, billing the same. -/
structure Store.SettledBetween (start finish : Store) (id : Uuid) (invoice : Invoice) : Prop where
  found : start.invoice? id = some invoice
  pending : invoice.isPending = true
  paid : ∃ settled, finish.invoice? id = some settled ∧ settled.status = .paid ∧ settled.terms = invoice.terms

/-- An invoice that a call in the middle of a run pays, pending since the run started and kept
until it ends, is settled by the run, billing what the call settled. -/
theorem Store.settledBetween_of_call {start store after finish : Store} {id : Uuid} {invoice paid : Invoice}
    (since : start.PendingSince store) (found : store.invoice? id = some invoice) (pending : invoice.isPending = true)
    (settled : after.invoice? id = some paid) (paidStatus : paid.status = .paid) (paidTerms : paid.terms = invoice.terms)
    (kept : after.KeptUntil finish) :
    ∃ earlier, start.SettledBetween finish id earlier ∧ earlier.terms = invoice.terms := by
  obtain ⟨earlier, foundEarlier, pendingEarlier, sameTerms⟩ := since id invoice found pending
  obtain ⟨later, foundLater, step⟩ := kept id paid settled
  -- a paid invoice has left `pending`, so how it ended stays
  have closed : paid.isPending = false := by simp [Invoice.isPending, paidStatus]
  have laterStatus : later.status = paid.status := congrArg Prod.fst (step.closed closed)
  have laterTerms : later.terms = earlier.terms := (step.terms.trans paidTerms).trans sameTerms.symm
  exact ⟨earlier, ⟨foundEarlier, pendingEarlier, later, foundLater, laterStatus.trans paidStatus, laterTerms⟩, sameTerms⟩

end SeatBilling
