import Mathlib.Data.List.Nodup
import SeatBilling.Proofs.Store.Writes

/-!
# At most one pending invoice per company

`Store.SinglePending` says that every company has at most one pending invoice. No call of the
billing core can break it, whatever its arguments and whatever runs before it:

- a new pending invoice is refused while the company has another one, and a new invoice
  stored under an identifier the store holds replaces that invoice;
- a transition or a settlement only takes a pending invoice out of `pending` (or leaves it
  there), and linking an invoice to the provider changes neither its company nor its status;
- the other calls do not touch invoices.

So the rule holds of every store that a sequence of calls reaches from a store without
invoices, which is every store that concurrent callers can leave, in whatever order their
calls reach the store and whichever of them fail.
-/

namespace SeatBilling.Store

/-- Whether an invoice is a pending invoice of `company`. -/
def pendingFor (company : Uuid) (invoice : Invoice) : Bool :=
  invoice.company == company && invoice.isPending

/-- Every company has at most one pending invoice. -/
def SinglePending (store : Store) : Prop := ∀ company, (store.pendingOf company).length ≤ 1

theorem pendingOf_length (store : Store) (company : Uuid) :
    (store.pendingOf company).length = store.invoices.countP (pendingFor company) := by
  unfold pendingOf pendingFor
  rw [List.countP_eq_length_filter]

/-! ## Counting pending invoices -/

section Counting

variable {α : Type} {entries : List α}

/-- Rewriting entries so that none becomes one that `keeps` counts does not raise the count. -/
theorem countP_map_le {rewrite : α → α} {keeps : α → Bool}
    (notGained : ∀ entry ∈ entries, keeps (rewrite entry) = true → keeps entry = true) :
    (entries.map rewrite).countP keeps ≤ entries.countP keeps := by
  rw [List.countP_map]
  exact List.countP_mono_left notGained

/-- With distinct keys, at most one entry has a given key. -/
theorem countP_key_le_one (key : α → Uuid) (distinct : (entries.map key).Nodup) (wanted : Uuid) :
    entries.countP (fun entry => key entry == wanted) ≤ 1 := by
  have counted : entries.countP (fun entry => key entry == wanted) = (entries.map key).count wanted := by
    rw [List.count, List.countP_map]
    rfl
  rw [counted]
  exact List.nodup_iff_count.mp distinct wanted

end Counting

variable {store : Store}

/-- In a keyed store, the invoice found under an identifier is the only one with it. -/
theorem Keyed.eq_of_invoice? (keyed : store.Keyed) {id : Uuid} {found stored : Invoice}
    (lookup : store.invoice? id = some found) (member : stored ∈ store.invoices) (sameId : stored.id = id) :
    stored = found := by
  have foundMember : found ∈ store.invoices := List.mem_of_find?_eq_some lookup
  have foundId : found.id = id := invoice?_id lookup
  exact List.inj_on_of_nodup_map keyed.invoices member foundMember (sameId.trans foundId.symm)

/-- In keyed records a stored invoice is what a lookup of its identifier finds. -/
theorem Keyed.invoice?_of_mem (keyed : store.Keyed) {invoice : Invoice}
    (member : invoice ∈ store.invoices) : store.invoice? invoice.id = some invoice := by
  obtain ⟨found, lookup⟩ : ∃ found, store.invoice? invoice.id = some found :=
    Option.isSome_iff_exists.mp (List.find?_isSome.mpr ⟨invoice, member, by simp⟩)
  rw [lookup, keyed.eq_of_invoice? lookup member rfl]

/-- In keyed records a stored subscription is what a lookup of its identifier finds. -/
theorem Keyed.subscription?_of_mem (keyed : store.Keyed) {subscription : Subscription}
    (member : subscription ∈ store.subscriptions) : store.subscription? subscription.id = some subscription := by
  obtain ⟨found, lookup⟩ : ∃ found, store.subscription? subscription.id = some found :=
    Option.isSome_iff_exists.mp (List.find?_isSome.mpr ⟨subscription, member, by simp⟩)
  have same := List.inj_on_of_nodup_map keyed.subscriptions member (List.mem_of_find?_eq_some lookup)
    (subscription?_id lookup).symm
  rw [lookup, same]

/-! ## One call at a time -/

/-- A call that rewrites every invoice without making any a pending invoice of `company` that
was not one keeps that company's count. -/
theorem pending_le_of_not_gained {rewrite : Invoice → Invoice} {company : Uuid}
    (notGained : ∀ invoice ∈ store.invoices,
      pendingFor company (rewrite invoice) = true → pendingFor company invoice = true)
    (single : (store.pendingOf company).length ≤ 1) :
    (({ store with invoices := store.invoices.map rewrite } : Store).pendingOf company).length ≤ 1 := by
  rw [pendingOf_length] at single ⊢
  exact Nat.le_trans (countP_map_le notGained) single

/-- Storing a new invoice keeps every company at one pending invoice at most. -/
theorem singlePending_insertInvoice (keyed : store.Keyed) (single : store.SinglePending)
    (invoice : Invoice) : ((Write.insertInvoice invoice).apply store).SinglePending := by
  rcases apply_insertInvoice store invoice with unchanged | ⟨allowed, inserted⟩
  · rw [unchanged]
    exact single
  intro company
  rw [inserted, pendingOf_length]
  by_cases counted : pendingFor company invoice = true
  · -- the new invoice is a pending invoice of `company`, which had none before it
    have noneBefore : store.pendingOf company = [] := by
      have pendingNew : invoice.isPending = true := by
        simp only [pendingFor, Bool.and_eq_true] at counted
        exact counted.2
      have sameCompany : invoice.company = company := by
        simp only [pendingFor, Bool.and_eq_true, beq_iff_eq] at counted
        exact counted.1
      subst sameCompany
      cases before : store.pendingOf invoice.company with
      | nil => rfl
      | cons first rest => exact absurd ⟨pendingNew, by simp [before]⟩ allowed
    have zeroBefore : store.invoices.countP (pendingFor company) = 0 := by
      rw [← pendingOf_length, noneBefore]
      rfl
    unfold upsert
    split
    · -- the invoice replaces the one with its identifier: only that entry can count
      rw [List.countP_map]
      calc (store.invoices.countP (pendingFor company ∘ fun old => if invoice.id == old.id then invoice else old))
          ≤ store.invoices.countP (fun old => old.id == invoice.id) := by
            apply List.countP_mono_left
            intro old member replacedCounts
            by_cases same : invoice.id = old.id
            · simp [same]
            · have stays : pendingFor company old = true := by simpa [same] using replacedCounts
              have notCounted := List.countP_eq_zero.mp zeroBefore old member
              exact absurd stays notCounted
        _ ≤ 1 := countP_key_le_one Invoice.id keyed.invoices invoice.id
    · rw [List.countP_append, zeroBefore]
      simp [counted]
  · -- the new invoice does not count for `company`, so the count cannot grow
    have notGained : ∀ old ∈ store.invoices,
        pendingFor company ((fun old => if invoice.id == old.id then invoice else old) old) = true →
          pendingFor company old = true := by
      intro old _ replacedCounts
      by_cases same : invoice.id = old.id
      · simp only [same, beq_self_eq_true, if_true] at replacedCounts
        exact absurd replacedCounts counted
      · simpa [same] using replacedCounts
    have countedBefore := single company
    rw [pendingOf_length] at countedBefore
    unfold upsert
    split
    · exact Nat.le_trans (countP_map_le notGained) countedBefore
    · rw [List.countP_append]
      simp [counted, countedBefore]

theorem moved_company {target : InvoiceStatus} {payment : Option Payment} {invoice result : Invoice}
    (moving : moved target payment invoice = some result) : result.company = invoice.company := by
  unfold moved at moving
  split at moving
  · cases moving
    rfl
  · cases moving
  · cases moving
    rfl

/-- The pending invoices of a company are read off the invoices alone. -/
theorem pendingOf_eq_of_invoices {other : Store} (sameInvoices : other.invoices = store.invoices)
    (company : Uuid) : other.pendingOf company = store.pendingOf company := by
  unfold pendingOf
  rw [sameInvoices]

/-- No call of the billing core gives a company a second pending invoice. -/
theorem SinglePending.apply (keyed : store.Keyed) (single : store.SinglePending) (write : Write) :
    (write.apply store).SinglePending := by
  cases write with
  | insertSubscription subscription =>
    intro company
    rw [pendingOf_eq_of_invoices (invoices_apply_insertSubscription store subscription)]
    exact single company
  | updateSubscription subscription version =>
    intro company
    rw [pendingOf_eq_of_invoices (invoices_apply_updateSubscription store subscription version)]
    exact single company
  | updateExpiredToStatus statuses cutoff target now =>
    intro company
    rw [pendingOf_eq_of_invoices (invoices_apply_updateExpiredToStatus store statuses cutoff target now)]
    exact single company
  | insertInvoice invoice => exact singlePending_insertInvoice keyed single invoice
  | attachProviderInvoice id providerId url expiresAt =>
    rcases apply_attachProviderInvoice store id providerId url expiresAt with unchanged | attached
    · rw [unchanged]
      exact single
    · intro company
      rw [attached]
      -- linking changes neither the company nor the status of an invoice
      refine pending_le_of_not_gained (fun old _ counts => ?_) (single company)
      unfold linked at counts
      split at counts
      · simpa [pendingFor, Invoice.isPending] using counts
      · exact counts
  | transitionInvoice id target payment =>
    rcases apply_transitionInvoice store id target payment with
      unchanged | ⟨invoice, result, found, pending, moving, transitioned⟩
    · rw [unchanged]
      exact single
    · intro company
      rw [transitioned]
      -- only the pending invoice found under `id` is rewritten, and it keeps its company
      refine pending_le_of_not_gained (fun old member counts => ?_) (single company)
      unfold replacing at counts
      split at counts
      · rename_i sameId
        have isFound : old = invoice := keyed.eq_of_invoice? found member (beq_iff_eq.mp sameId)
        subst isFound
        simp only [pendingFor, Bool.and_eq_true, beq_iff_eq] at counts ⊢
        exact ⟨(moved_company moving).symm.trans counts.1, pending⟩
      · exact counts
  | settleInvoice id payment write =>
    rcases apply_settleInvoice store id payment write with
      unchanged | ⟨invoice, stored, -, -, -, settled⟩
    · rw [unchanged]
      exact single
    · intro company
      rw [settled]
      -- a settled invoice is paid, so it counts for no company
      refine pending_le_of_not_gained (fun old _ counts => ?_) (single company)
      unfold paidBy at counts
      split at counts
      · simp [pendingFor, Invoice.isPending, Invoice.applyPayment] at counts
      · exact counts
  | appendEvent event => exact single

/-- Every store that a sequence of calls reaches from a keyed store with at most one pending
invoice per company has at most one pending invoice per company. -/
theorem SinglePending.replay (keyed : store.Keyed) (single : store.SinglePending) (writes : List Write) :
    (store.replay writes).SinglePending :=
  (replay_induction (fun reached => reached.Keyed ∧ reached.SinglePending)
    (fun _ write kept => ⟨kept.1.apply write, kept.2.apply kept.1 write⟩) ⟨keyed, single⟩).2

end SeatBilling.Store
