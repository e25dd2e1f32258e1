import SeatBilling.Proofs.Store.PendingInvoices
import SeatBilling.Proofs.Ledger.WellFormed

/-!
# Store calls that keep to one company

A store call keeps to `company` on the store it is made on (`Write.Within`) when it stores a new
record of the company, rewrites only records under an identifier that the company's records alone
hold, or appends an event. Such a call leaves every other company's subscriptions and invoices as
they were, in the same order (`Within.othersKept`), and keeps an identifier the company's
invoices alone hold so held (`Within.invoiceOwned`): the two facts a run of such calls carries
from its start to its end.

A company's invoices are listed as the store holds them, newest first.
-/

namespace SeatBilling

namespace Store

/-- Every stored subscription under `id` is one of `company`'s. -/
def SubscriptionOwned (store : Store) (company id : Uuid) : Prop :=
  ∀ stored ∈ store.subscriptions, stored.id = id → stored.company = company

/-- Every stored invoice under `id` is one of `company`'s. -/
def InvoiceOwned (store : Store) (company id : Uuid) : Prop :=
  ∀ stored ∈ store.invoices, stored.id = id → stored.company = company

/-- A store call that writes only records of `company`, on the store it is made on: it stores
a new record of the company, rewrites records whose identifier only the company's records
hold, or appends an event. -/
def Write.Within (company : Uuid) (store : Store) : Write → Prop
  | .insertSubscription subscription => subscription.company = company
  | .updateSubscription subscription _ => subscription.company = company ∧ store.SubscriptionOwned company subscription.id
  | .insertInvoice invoice => invoice.company = company
  | .attachProviderInvoice id .. => store.InvoiceOwned company id
  | .transitionInvoice id .. => store.InvoiceOwned company id
  | .appendEvent _ => True
  | .updateExpiredToStatus .. | .settleInvoice .. => False

/-- Every company but `company` has the same subscriptions and invoices, in the same order, in
both stores. -/
def OthersKept (company : Uuid) (before after : Store) : Prop :=
  ∀ other, other ≠ company →
    after.subscriptions.filter (·.company == other) = before.subscriptions.filter (·.company == other) ∧
      after.invoices.filter (·.company == other) = before.invoices.filter (·.company == other)

namespace OthersKept

variable {company : Uuid}

theorem refl (store : Store) : OthersKept company store store := fun _ _ => ⟨rfl, rfl⟩

theorem trans {first second third : Store} (early : OthersKept company first second)
    (late : OthersKept company second third) : OthersKept company first third := fun other other_ne =>
  ⟨(late other other_ne).1.trans (early other other_ne).1, (late other other_ne).2.trans (early other other_ne).2⟩

end OthersKept

/-- Rewriting records keeps the ones a predicate picks when every record the rewrite changes is
passed over by the predicate, before and after. -/
theorem filter_map_of_untouched {α : Type} {rewrite : α → α} {picks : α → Bool} :
    ∀ {entries : List α}, (∀ entry ∈ entries, rewrite entry ≠ entry → picks entry = false ∧ picks (rewrite entry) = false) →
      (entries.map rewrite).filter picks = entries.filter picks := by
  intro entries
  induction entries with
  | nil => intro _; rfl
  | cons entry rest inductionHypothesis =>
    intro untouched
    have later := inductionHypothesis fun other member => untouched other (List.mem_cons_of_mem entry member)
    by_cases same : rewrite entry = entry
    · simp [List.filter_cons, same, later]
    · obtain ⟨before, after⟩ := untouched entry List.mem_cons_self same
      simp [before, after, later]

/-- Appending a record of `company` keeps the records every other company picks. -/
theorem filter_append_of_company {α : Type} (owner : α → Uuid) {company other : Uuid} (other_ne : other ≠ company)
    {entry : α} (owned : owner entry = company) (entries : List α) :
    (entries ++ [entry]).filter (fun stored => owner stored == other) = entries.filter (fun stored => owner stored == other) := by
  have passed : (owner entry == other) = false := by
    rw [owned]
    exact beq_false_of_ne (Ne.symm other_ne)
  simp [List.filter_append, passed]

namespace Write

variable {company : Uuid} {store : Store}

/-- A call that writes only records of `company` keeps every other company's records. -/
theorem Within.othersKept {write : Write} (within : write.Within company store) (fresh : write.Fresh store) :
    OthersKept company store (write.apply store) := by
  intro other other_ne
  cases write with
  | insertSubscription subscription =>
    rcases apply_insertSubscription store subscription with unchanged | inserted
    · rw [unchanged]; exact ⟨rfl, rfl⟩
    · -- a fresh identifier is appended, not written over another record
      have appended : upsert (fun new old => new.id == old.id) subscription store.subscriptions =
          store.subscriptions ++ [subscription] :=
        upsert_eq_append fun old member => beq_false_of_ne fun same =>
          (List.find?_eq_none.mp fresh) old member (by simp [same])
      rw [inserted]
      exact ⟨by simp only [appended]; exact filter_append_of_company Subscription.company other_ne within _, rfl⟩
  | updateSubscription subscription version =>
    rcases apply_updateSubscription store subscription version with unchanged | ⟨-, updated⟩
    · rw [unchanged]; exact ⟨rfl, rfl⟩
    · rw [updated]
      refine ⟨filter_map_of_untouched fun old member changed => ?_, rfl⟩
      have sameId : old.id = subscription.id := by
        unfold bumped at changed
        split at changed
        · rename_i same; exact beq_iff_eq.mp same
        · exact absurd rfl changed
      have rewritten : bumped subscription version old = { subscription with version := version + 1 } := by
        simp [bumped, sameId]
      rw [rewritten, within.2 old member sameId]
      exact ⟨beq_false_of_ne (Ne.symm other_ne), by simpa using (within.1 ▸ Ne.symm other_ne : subscription.company ≠ other)⟩
  | updateExpiredToStatus => exact within.elim
  | insertInvoice invoice =>
    rcases apply_insertInvoice store invoice with unchanged | ⟨-, inserted⟩
    · rw [unchanged]; exact ⟨rfl, rfl⟩
    · have appended : upsert (fun new old => new.id == old.id) invoice store.invoices = store.invoices ++ [invoice] :=
        upsert_eq_append fun old member => beq_false_of_ne fun same =>
          (List.find?_eq_none.mp fresh) old member (by simp [same])
      rw [inserted]
      exact ⟨rfl, by simp only [appended]; exact filter_append_of_company Invoice.company other_ne within _⟩
  | attachProviderInvoice id providerId url expiresAt =>
    rcases apply_attachProviderInvoice store id providerId url expiresAt with unchanged | attached
    · rw [unchanged]; exact ⟨rfl, rfl⟩
    · rw [attached]
      refine ⟨rfl, filter_map_of_untouched fun old member changed => ?_⟩
      have sameId : old.id = id := by
        unfold linked at changed
        split at changed
        · rename_i same; exact beq_iff_eq.mp same
        · exact absurd rfl changed
      have owned := within old member sameId
      have keeps : (linked id providerId url expiresAt old).company = old.company := by
        unfold linked; split <;> rfl
      rw [keeps, owned]
      exact ⟨beq_false_of_ne (Ne.symm other_ne), beq_false_of_ne (Ne.symm other_ne)⟩
  | transitionInvoice id target payment =>
    rcases apply_transitionInvoice store id target payment with unchanged | ⟨invoice, result, found, -, moving, moved⟩
    · rw [unchanged]; exact ⟨rfl, rfl⟩
    · rw [moved]
      -- the invoice moved is the one stored under `id`, so the company's
      have resultOwned : result.company = company :=
        (moved_company moving).trans (within invoice (List.mem_of_find?_eq_some found) (invoice?_id found))
      refine ⟨rfl, filter_map_of_untouched fun old member changed => ?_⟩
      have sameId : old.id = id := by
        unfold replacing at changed
        split at changed
        · rename_i same; exact beq_iff_eq.mp same
        · exact absurd rfl changed
      have rewritten : replacing id result old = result := by simp [replacing, sameId]
      rw [rewritten, within old member sameId, resultOwned]
      exact ⟨beq_false_of_ne (Ne.symm other_ne), beq_false_of_ne (Ne.symm other_ne)⟩
  | settleInvoice => exact within.elim
  | appendEvent event => exact ⟨rfl, rfl⟩

/-- A call that writes only records of `company` keeps an identifier held only by the company's
invoices so held. -/
theorem Within.invoiceOwned {write : Write} (within : write.Within company store) {id : Uuid}
    (owned : store.InvoiceOwned company id) : (write.apply store).InvoiceOwned company id := by
  cases write with
  | insertInvoice invoice =>
    rcases apply_insertInvoice store invoice with unchanged | ⟨-, inserted⟩
    · rw [unchanged]; exact owned
    · rw [inserted]
      intro stored member sameId
      dsimp only at member
      rcases Store.mem_upsert member with new | old
      · rw [new]; exact within
      · exact owned stored old sameId
  | attachProviderInvoice linkedId providerId url expiresAt =>
    rcases apply_attachProviderInvoice store linkedId providerId url expiresAt with unchanged | attached
    · rw [unchanged]; exact owned
    · rw [attached]
      intro stored member sameId
      obtain ⟨old, oldMember, rewritten⟩ := List.mem_map.mp member
      have keepsId : (linked linkedId providerId url expiresAt old).id = old.id := linked_id _ _ _ _ old
      have keepsCompany : (linked linkedId providerId url expiresAt old).company = old.company := by
        unfold linked; split <;> rfl
      rw [← rewritten] at sameId ⊢
      rw [keepsCompany]
      exact owned old oldMember (keepsId ▸ sameId)
  | transitionInvoice movedId target payment =>
    rcases apply_transitionInvoice store movedId target payment with unchanged | ⟨invoice, result, found, -, moving, moved⟩
    · rw [unchanged]; exact owned
    · rw [moved]
      intro stored member sameId
      obtain ⟨old, oldMember, rewritten⟩ := List.mem_map.mp member
      rw [← rewritten] at sameId ⊢
      unfold replacing at sameId ⊢
      split
      · exact (moved_company moving).trans (within invoice (List.mem_of_find?_eq_some found) (invoice?_id found))
      · rename_i kept
        rw [if_neg kept] at sameId
        exact owned old oldMember sameId
  | updateExpiredToStatus => exact within.elim
  | settleInvoice => exact within.elim
  | insertSubscription | updateSubscription | appendEvent =>
    intro stored member sameId
    simp only [invoices_apply_insertSubscription, invoices_apply_updateSubscription,
      invoices_apply_appendEvent] at member
    exact owned stored member sameId

end Write

/-! ## A company's invoices, newest first -/

/-- A company's invoices, as listed, are the company's stored invoices. -/
theorem listInvoices_perm (store : Store) (company : Uuid) :
    (store.listInvoices company).Perm (store.invoices.filter (·.company == company)) :=
  (List.mergeSort_perm _ _).trans (List.reverse_perm _)

theorem mem_listInvoices {store : Store} {company : Uuid} {invoice : Invoice}
    (member : invoice ∈ store.listInvoices company) : invoice ∈ store.invoices ∧ invoice.company = company := by
  have stored := (store.listInvoices_perm company).subset member
  simp only [List.mem_filter, beq_iff_eq] at stored
  exact stored

/-- A company's invoices are listed newest first. -/
theorem listInvoices_newest_first (store : Store) (company : Uuid) :
    (store.listInvoices company).Pairwise fun newer older => older.createdAt ≤ newer.createdAt := by
  have sorted : (store.listInvoices company).Pairwise
      fun first second => decide (second.createdAt ≤ first.createdAt) = true := List.pairwise_mergeSort
    (fun first second third firstLater secondLater => by
      simp only [decide_eq_true_eq] at firstLater secondLater ⊢
      exact Int.le_trans secondLater firstLater)
    (fun first second => by
      simp only [Bool.or_eq_true, decide_eq_true_eq]
      exact Int.le_total _ _)
    ((store.invoices.filter (·.company == company)).reverse)
  exact sorted.imp fun later => of_decide_eq_true later

end Store

end SeatBilling
