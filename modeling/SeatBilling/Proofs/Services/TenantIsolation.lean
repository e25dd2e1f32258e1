import SeatBilling.Proofs.Store.Ownership
import SeatBilling.Proofs.Access.FastPath

/-!
# Tenant isolation

Every request a company's owner makes keeps to the company. Walked through its code, each
operation makes only store calls that keep to the company on the store they meet
(`Store.Write.Within`): what it saves it read as the company's, what it creates it creates for the
company under an identifier no record held, and what it closes it found among the company's
invoices. Such calls leave every other company's records as they were, whatever fault cuts the
run short; and what the operation gives back shows the company's records only.

The lookups by identifier filter by company, so that another company's invoice reads as not
found; the listing is the company's invoices, newest first.
-/

namespace SeatBilling

open SeatBilling.Time

/-- In keyed records, an identifier of a stored subscription is held by its company alone. -/
theorem Store.Keyed.subscriptionOwned {store : Store} (keyed : store.Keyed) {subscription : Subscription}
    (member : subscription ∈ store.subscriptions) : store.SubscriptionOwned subscription.company subscription.id :=
  fun stored storedMember sameId => by
    rw [List.inj_on_of_nodup_map keyed.subscriptions storedMember member sameId]

/-- In keyed records, an identifier of a stored invoice is held by its company alone. -/
theorem Store.Keyed.invoiceOwned {store : Store} (keyed : store.Keyed) {invoice : Invoice}
    (member : invoice ∈ store.invoices) : store.InvoiceOwned invoice.company invoice.id :=
  fun stored storedMember sameId => by
    rw [List.inj_on_of_nodup_map keyed.invoices storedMember member sameId]

/-- An identifier no record holds is held by every company's records alone. -/
theorem Facts.DrawsFresh.invoiceOwned {facts : Facts} (fresh : facts.DrawsFresh) (company : Uuid) {serial : Nat}
    (later : facts.serial ≤ serial) : facts.store.InvoiceOwned company (Uuid.ofSerial serial) :=
  fun stored member sameId => absurd sameId ((fresh serial later).2 stored member)

namespace Facts.Reaches

variable {company : Uuid} {start facts : Facts}

theorem of_eq {makes : Store → Store.Write → Prop} (same : facts = start) : start.Reaches makes facts := by
  rw [same]
  exact refl start

/-- Calls that write only records of `company` keep every other company's records. -/
theorem othersKept (reached : start.Reaches (Store.Write.Within company) facts) :
    Store.OthersKept company start.store facts.store := by
  obtain ⟨writes, made, reachedStore⟩ := reached.made
  rw [reachedStore]
  exact made.chain (Store.OthersKept company) Store.OthersKept.refl (fun _ _ _ => Store.OthersKept.trans)
    (fun _ _ within fresh => within.othersKept fresh)

theorem invoiceOwned (reached : start.Reaches (Store.Write.Within company) facts) {id : Uuid}
    (owned : start.store.InvoiceOwned company id) : facts.store.InvoiceOwned company id := by
  obtain ⟨writes, made, reachedStore⟩ := reached.made
  rw [reachedStore]
  exact made.induction (fun store => store.InvoiceOwned company id)
    (fun _ _ within _ held => within.invoiceOwned held) owned

end Facts.Reaches

/-! ## The requests of a company's owner -/

/-- A request a company's owner makes about the company's own billing. -/
inductive OwnerRequest where
  | startTrial (planId : String)
  | checkout (planId : String) (seats : Option Int)
  | upgrade (planId : String)
  | downgrade (planId : String)
  | changeSeats (seats : Int)
  | cancel
  | cancelScheduledChange
  | cancelPendingInvoice (id : Uuid)
  | invoice (id : Uuid)
  | invoices
  | subscription

/-- What the service gives back to an owner's request. -/
inductive OwnerAnswer where
  | subscription (subscription : Subscription)
  | invoice (invoice : Invoice)
  | invoices (invoices : List Invoice)
  | seatChange (change : Ledger.SeatChange)
  | view (view : Ledger.SubscriptionView)

namespace OwnerAnswer

/-- The companies whose records the answer shows. -/
def companies : OwnerAnswer → List Uuid
  | subscription shown => [shown.company]
  | invoice shown => [shown.company]
  | invoices shown => shown.map (·.company)
  | seatChange (.invoiced shown) => [shown.company]
  | seatChange (.applied shown) | seatChange (.scheduled shown) | seatChange (.pendingCleared shown) => [shown.company]
  | view shown => [shown.subscription.company]

/-- The answer shows records of `company` only. -/
def Shows (company : Uuid) (answer : OwnerAnswer) : Prop := ∀ owner ∈ answer.companies, owner = company

end OwnerAnswer

/-- Serves an owner's request for `company`. -/
def OwnerRequest.serve (company : Uuid) : OwnerRequest → BillingM OwnerAnswer
  | startTrial planId => .subscription <$> Ledger.startTrial company planId
  | checkout planId seats => .invoice <$> Ledger.checkout company planId seats
  | upgrade planId => .invoice <$> Ledger.upgrade company planId
  | downgrade planId => .subscription <$> Ledger.downgrade company planId
  | changeSeats seats => .seatChange <$> Ledger.changeSeats company seats
  | cancel => .subscription <$> Ledger.cancel company
  | cancelScheduledChange => .subscription <$> Ledger.cancelScheduledChange company
  | cancelPendingInvoice id => .invoice <$> Invoicing.cancelPending company id
  | invoice id => .invoice <$> Invoicing.invoiceOf company id
  | invoices => .invoices <$> Invoicing.invoicesOf company
  | subscription => .view <$> Ledger.view company

/-! ## Walking the owner operations -/

section Walks

variable {α : Type} {now : Moment} {headcount : List (Uuid × Int)} {company : Uuid} {start : Facts}

/-- Events belong to no company's subscriptions or invoices: they may be recorded anywhere. -/
theorem Allows.within_record {settings : Config} :
    Allows (Store.Write.Within company) settings now headcount .record :=
  fun _ _ made => by cases made; trivial

/-- What is known of the values before an action may be assumed while it runs. -/
theorem Runs.assuming {pre : Facts → Prop} {known : Prop} {action : BillingM α} {gives : α → Facts → Prop}
    {ends : Facts → Prop} (runs : known → Runs now headcount pre action gives ends) :
    Runs now headcount (fun facts => pre facts ∧ known) action gives ends :=
  fun world settled ⟨holds, knows⟩ => runs knows world settled holds

/-- Giving back a value keeps the facts and gives what is known of the value. -/
theorem Runs.pure_giving {pre : Facts → Prop} {want : α → Prop} (value : α) (wanted : want value) :
    Runs now headcount pre (Pure.pure value) (fun result after => pre after ∧ want result) pre :=
  (Runs.pure value).mono (fun _ holds => holds) (fun _ _ ⟨same, holds⟩ => ⟨holds, same ▸ wanted⟩) fun _ holds => holds

theorem Ledger.startTrial_within (fresh : start.DrawsFresh) (planId : String) :
    Runs now headcount (· = start) (Ledger.startTrial company planId)
      (fun trial after => start.Reaches (Store.Write.Within company) after ∧ trial.company = company)
      (start.Reaches (Store.Write.Within company)) := by
  unfold Ledger.startTrial
  dsimp only
  refine Observes.bind_at (Catalog.getPurchasablePlan_observes planId) (fun plan _ => ?_) (.refl start)
  refine Observes.bind_at (Ledger.subscriptionOf_observes company) (fun current _ => ?_) (.refl start)
  split
  · exact Runs.refused_at (.refl start) _ _
  refine Observes.bind_at Observes.clock (fun at_ named => ?_) (.refl start)
  refine Observes.bind_at Observes.config (fun settings configured => ?_) (.refl start)
  subst named configured
  have drawnReached : start.Reaches (Store.Write.Within company) { start with serial := start.serial + 1 } :=
    (Facts.Reaches.refl start).draw
  refine Runs.bind ((Runs.freshId start).mono (fun _ same => same) (fun _ _ drawn => drawn)
    fun _ same => by rw [same]; exact drawnReached) fun id => Runs.of_facts fun drawn ⟨named, shape⟩ => ?_
  subst shape named
  refine Observes.bind_at (Observes.orOverflow _) (fun trialEnd _ => ?_) drawnReached
  -- the trial is stored for the company asking, under the identifier just drawn
  refine Runs.bind ((Runs.insertSubscription _ _).wrote_at drawnReached rfl fresh.subscription?) fun _ => ?_
  exact Runs.bind (EventLog.record_reaching Allows.within_record _ _ _ _ _ _ _) fun _ => Runs.pure_giving _ rfl

/-- Saving a company's subscription, as read from the store, over itself writes only records
of the company, and gives back a subscription of the company. -/
theorem Ledger.save_within (keyed : start.store.Keyed) {subscription : Subscription}
    (read : start.store.subscriptionOf? company = some subscription) (next : Subscription)
    (sameCompany : next.company = subscription.company) (sameId : next.id = subscription.id) :
    Runs now headcount (· = start) (Ledger.save subscription next)
      (fun saved after => start.Reaches (Store.Write.Within company) after ∧ saved.company = company)
      (start.Reaches (Store.Write.Within company)) := by
  have owner : subscription.company = company := by simpa using List.find?_some read
  have owned : start.store.SubscriptionOwned company next.id := by
    rw [sameId, ← owner]
    exact keyed.subscriptionOwned (List.mem_of_find?_eq_some read)
  unfold Ledger.save
  refine Runs.bind ((Runs.updateSubscription start next subscription.version).wrote_at (.refl start)
    ⟨sameCompany.trans owner, owned⟩ trivial) fun written => ?_
  extract_lets finish
  have finishing : ∀ previous : Unit, Runs now headcount (start.Reaches (Store.Write.Within company)) (finish previous)
      (fun saved after => start.Reaches (Store.Write.Within company) after ∧ saved.company = company)
      (start.Reaches (Store.Write.Within company)) := by
    intro _
    dsimp only [finish]
    exact Runs.bind (Observes.orOverflow _).keeps fun _ => Runs.pure_giving _ (sameCompany.trans owner)
  cases written with
  | false =>
    rw [if_pos (show (!false) = true from rfl)]
    exact Observes.failWith_bind _ _ _
  | true =>
    rw [if_neg (show ¬(!true) = true by decide)]
    exact finishing ()

/-- A change saved over the company's subscription, then recorded, gives back a subscription of
the company. -/
theorem Ledger.save_then_record_within (keyed : start.store.Keyed) {subscription : Subscription}
    (read : start.store.subscriptionOf? company = some subscription) (next : Subscription)
    (sameCompany : next.company = subscription.company) (sameId : next.id = subscription.id)
    (record : Subscription → BillingM Unit)
    (records : ∀ saved, Runs now headcount (start.Reaches (Store.Write.Within company)) (record saved)
      (fun _ => start.Reaches (Store.Write.Within company)) (start.Reaches (Store.Write.Within company))) :
    Runs now headcount (· = start) (Ledger.save subscription next >>= fun saved => record saved >>= fun _ => Pure.pure saved)
      (fun saved after => start.Reaches (Store.Write.Within company) after ∧ saved.company = company)
      (start.Reaches (Store.Write.Within company)) :=
  Runs.bind (Ledger.save_within keyed read next sameCompany sameId) fun saved =>
    Runs.assuming fun owner => Runs.bind (records saved) fun _ => Runs.pure_giving saved owner

theorem Ledger.downgrade_within (keyed : start.store.Keyed) (planId : String) :
    Runs now headcount (· = start) (Ledger.downgrade company planId)
      (fun saved after => start.Reaches (Store.Write.Within company) after ∧ saved.company = company)
      (start.Reaches (Store.Write.Within company)) := by
  unfold Ledger.downgrade
  dsimp only
  refine Observes.bind_at (Catalog.getPurchasablePlan_observes planId) (fun target _ => ?_) (.refl start)
  refine Observes.bind_at (Ledger.requireSubscription_observes company) (fun subscription read => ?_) (.refl start)
  split
  · exact Runs.refused_at (.refl start) _ _
  split
  · exact Runs.refused_at (.refl start) _ _
  refine Observes.bind_at (Catalog.getPlan_observes _) (fun currentPlan _ => ?_) (.refl start)
  split
  · exact Runs.refused_at (.refl start) _ _
  refine Observes.bind_at Observes.clock (fun at_ _ => ?_) (.refl start)
  exact Ledger.save_then_record_within keyed read _ (by rfl) (by rfl) _ fun _ =>
    EventLog.record_reaching Allows.within_record _ _ _ _ _ _ _

theorem Ledger.cancel_within (keyed : start.store.Keyed) :
    Runs now headcount (· = start) (Ledger.cancel company)
      (fun saved after => start.Reaches (Store.Write.Within company) after ∧ saved.company = company)
      (start.Reaches (Store.Write.Within company)) := by
  unfold Ledger.cancel
  dsimp only
  refine Observes.bind_at (Ledger.requireSubscription_observes company) (fun subscription read => ?_) (.refl start)
  have owner : subscription.company = company := by simpa using List.find?_some read
  split
  · exact (Observes.pure _).gives_at (.refl start) fun _ same => same ▸ owner
  · exact Runs.refused_at (.refl start) _ _
  refine Observes.bind_at Observes.clock (fun at_ _ => ?_) (.refl start)
  exact Ledger.save_then_record_within keyed read _ (by rfl) (by rfl) _ fun _ =>
    EventLog.record_reaching Allows.within_record _ _ _ _ _ _ _

theorem Ledger.cancelScheduledChange_within (keyed : start.store.Keyed) :
    Runs now headcount (· = start) (Ledger.cancelScheduledChange company)
      (fun saved after => start.Reaches (Store.Write.Within company) after ∧ saved.company = company)
      (start.Reaches (Store.Write.Within company)) := by
  unfold Ledger.cancelScheduledChange
  dsimp only
  refine Observes.bind_at (Ledger.requireSubscription_observes company) (fun subscription read => ?_) (.refl start)
  split
  · exact Runs.refused_at (.refl start) _ _
  refine Observes.bind_at Observes.clock (fun at_ _ => ?_) (.refl start)
  exact Ledger.save_then_record_within keyed read _ (by rfl) (by rfl) _ fun _ =>
    EventLog.record_reaching Allows.within_record _ _ _ _ _ _ _

/-- A new invoice of the company is stored under the identifier drawn, which no record held
when the operation started. -/
theorem Invoicing.storePending_within (fresh : start.DrawsFresh) (request : InvoiceRequest)
    (billed : request.company = company) :
    Runs now headcount (· = start) (Invoicing.storePending request)
      (fun invoice after => start.Reaches (Store.Write.Within company) after ∧
        invoice.company = company ∧ start.store.InvoiceOwned company invoice.id)
      (start.Reaches (Store.Write.Within company)) := by
  unfold Invoicing.storePending
  refine Observes.bind_at Observes.clock (fun at_ named => ?_) (.refl start)
  refine Observes.bind_at Observes.config (fun settings configured => ?_) (.refl start)
  subst named configured
  have drawnReached : start.Reaches (Store.Write.Within company) { start with serial := start.serial + 1 } :=
    (Facts.Reaches.refl start).draw
  refine Runs.bind ((Runs.freshId start).mono (fun _ same => same) (fun _ _ drawn => drawn)
    fun _ same => by rw [same]; exact drawnReached) fun id => Runs.of_facts fun drawn ⟨named, shape⟩ => ?_
  subst shape named
  refine Observes.bind_at (Observes.orOverflow _) (fun expiresAt _ => ?_) drawnReached
  refine Runs.bind ((Runs.insertInvoice _ _).wrote_at drawnReached billed fresh.invoice?) fun _ => ?_
  exact Runs.pure_giving _ ⟨billed, fresh.invoiceOwned company (Nat.le_refl _)⟩

/-- When the provider fails, the new invoice set aside is the company's own. -/
theorem Invoicing.bill_within {invoice : Invoice} (owned : start.store.InvoiceOwned company invoice.id)
    (description : String) :
    Runs now headcount (start.Reaches (Store.Write.Within company)) (Invoicing.bill invoice description)
      (fun _ => start.Reaches (Store.Write.Within company)) (start.Reaches (Store.Write.Within company)) := by
  unfold Invoicing.bill
  refine Observes.bind Observes.config (fun settings => ?_) fun _ reached => reached
  refine Runs.mono ?_ (fun _ holds => holds.1) (fun _ _ reached => reached) fun _ reached => reached
  refine Runs.catchFailure (Observes.createProviderInvoice _).reaching (fun failure => ?_) fun _ reached => reached
  refine Runs.bind (Runs.attempt_reaching (Runs.of_facts fun facts reached =>
    (Runs.transitionInvoice facts _ _ _).wrote_at reached (reached.invoiceOwned owned) trivial)) fun _ => ?_
  exact (Runs.failWith failure).mono (fun _ reached => reached) (fun _ _ given => given) fun _ reached => reached

/-- Linking the new invoice to the provider's writes the company's own invoice, and gives it
back linked. -/
theorem Invoicing.link_within {invoice : Invoice} (owned : start.store.InvoiceOwned company invoice.id)
    (owner : invoice.company = company) (created : ProviderInvoice) :
    Runs now headcount (start.Reaches (Store.Write.Within company)) (Invoicing.link invoice created)
      (fun linked after => start.Reaches (Store.Write.Within company) after ∧ linked.company = company)
      (start.Reaches (Store.Write.Within company)) := by
  unfold Invoicing.link
  exact Runs.bind (Runs.of_facts fun facts reached =>
    (Runs.attachProviderInvoice facts _ _ _ _).wrote_at reached (reached.invoiceOwned owned) trivial) fun _ =>
      Runs.pure_giving _ owner

/-- Creating an invoice for the company writes only records of the company, and gives back an
invoice of the company. -/
theorem Invoicing.create_within (fresh : start.DrawsFresh) (request : InvoiceRequest) (billed : request.company = company) :
    Runs now headcount (· = start) (Invoicing.create request)
      (fun invoice after => start.Reaches (Store.Write.Within company) after ∧ invoice.company = company)
      (start.Reaches (Store.Write.Within company)) := by
  unfold Invoicing.create
  refine Observes.bind_at (Invoicing.refuseSecondPending_observes _) (fun _ _ => ?_) (.refl start)
  refine Runs.bind (Invoicing.storePending_within fresh request billed) fun invoice =>
    Runs.assuming fun ⟨owner, owned⟩ => ?_
  refine Runs.bind (Invoicing.bill_within owned _) fun created => ?_
  refine Runs.bind (Invoicing.link_within owned owner created) fun linked => Runs.assuming fun linkedOwner => ?_
  exact Runs.bind (Invoicing.announce_reaching Allows.within_record linked) fun _ => Runs.pure_giving _ linkedOwner

/-- A checkout's request bills the company that asked. -/
theorem Ledger.checkoutRequest_observes_company (planId : String) (seats : Option Int) :
    Observes now headcount (Ledger.checkoutRequest company planId seats) fun request _ => request.company = company :=
  fun pre world settled holds =>
    have runs := Ledger.checkoutRequest_observes company planId seats pre world settled holds
    ⟨runs.1, runs.2.1, fun request ok => ⟨(runs.2.2 request ok).1, Ledger.checkoutRequest_company (Prod.ext ok rfl)⟩⟩

theorem Ledger.checkout_within (fresh : start.DrawsFresh) (planId : String) (seats : Option Int) :
    Runs now headcount (· = start) (Ledger.checkout company planId seats)
      (fun invoice after => start.Reaches (Store.Write.Within company) after ∧ invoice.company = company)
      (start.Reaches (Store.Write.Within company)) := by
  unfold Ledger.checkout
  exact Observes.bind_at (Ledger.checkoutRequest_observes_company planId seats)
    (fun request billed => Invoicing.create_within fresh request billed) (.refl start)

theorem Ledger.upgrade_within (fresh : start.DrawsFresh) (planId : String) :
    Runs now headcount (· = start) (Ledger.upgrade company planId)
      (fun invoice after => start.Reaches (Store.Write.Within company) after ∧ invoice.company = company)
      (start.Reaches (Store.Write.Within company)) := by
  unfold Ledger.upgrade
  dsimp only
  refine Observes.bind_at (Catalog.getPurchasablePlan_observes planId) (fun target _ => ?_) (.refl start)
  refine Observes.bind_at (Ledger.requireSubscription_observes company) (fun subscription _ => ?_) (.refl start)
  split
  · exact Runs.refused_at (.refl start) _ _
  refine Observes.bind_at (Catalog.getPlan_observes _) (fun currentPlan _ => ?_) (.refl start)
  split
  · exact Runs.refused_at (.refl start) _ _
  refine Observes.bind_at (Ledger.priceOf_observes _ _) (fun amount _ => ?_) (.refl start)
  exact Invoicing.create_within fresh _ rfl

/-- Closing an invoice only the company's records hold writes only records of the company. -/
theorem Invoicing.close_within {id : Uuid} (owned : start.store.InvoiceOwned company id) (target : InvoiceStatus)
    (actor : Actor) :
    Runs now headcount (start.Reaches (Store.Write.Within company)) (Invoicing.close id target actor)
      (fun _ => start.Reaches (Store.Write.Within company)) (start.Reaches (Store.Write.Within company)) := by
  unfold Invoicing.close
  refine Runs.bind (Runs.of_facts fun facts reached =>
    (Runs.transitionInvoice facts _ _ _).wrote_at reached (reached.invoiceOwned owned) trivial) fun changed => ?_
  refine Runs.bind (Invoicing.require_observes id).reaching fun invoice => ?_
  split
  · refine Runs.bind Observes.clock.reaching fun at_ => ?_
    exact Runs.bind (EventLog.record_reaching Allows.within_record _ _ _ _ _ _ _) fun _ =>
      Runs.bind (Observes.emit _ _ _ _).reaching fun _ => (Observes.pure _).reaching
  · exact (Observes.pure _).reaching

/-- A company's invoice looked up by identifier is stored under it, and is the company's. -/
theorem Invoicing.invoiceOf_owned (id : Uuid) :
    Observes now headcount (Invoicing.invoiceOf company id)
      fun invoice facts => facts.store.invoice? id = some invoice ∧ invoice.company = company := by
  refine (Observes.andThen (fun found invoice _ => found = some invoice ∧ invoice.company = company)
    (Observes.readCall _ _ _ _ _ _) fun found => ?_).mono ?_
  · split
    · rename_i invoice
      split
      · rename_i owner
        exact (Observes.pure _).mono fun _ _ same => ⟨by rw [same], by simpa [same] using owner⟩
      · exact (Observes.failWith _).mono fun _ _ never => never.elim
    · exact (Observes.failWith _).mono fun _ _ never => never.elim
  · rintro invoice facts ⟨found, read | kept | kept | kept, same, owner⟩
    · exact ⟨by rw [← read, same], owner⟩
    all_goals simp_all

/-- Cancelling a company's pending invoice writes only records of the company, and gives back
an invoice of the company. -/
theorem Invoicing.cancelPending_within (keyed : start.store.Keyed) (id : Uuid) :
    Runs now headcount (· = start) (Invoicing.cancelPending company id)
      (fun invoice after => start.Reaches (Store.Write.Within company) after ∧ invoice.company = company)
      (start.Reaches (Store.Write.Within company)) := by
  unfold Invoicing.cancelPending
  refine Observes.bind_at (Invoicing.invoiceOf_owned id) (fun invoice ⟨found, owner⟩ => ?_) (.refl start)
  -- the identifier asked for is held by the company's invoice alone, so every later read is its
  have owned : start.store.InvoiceOwned company id := by
    rw [← Store.invoice?_id found, ← owner]
    exact keyed.invoiceOwned (List.mem_of_find?_eq_some found)
  have reread : Runs now headcount (start.Reaches (Store.Write.Within company)) (Invoicing.require id)
      (fun again after => start.Reaches (Store.Write.Within company) after ∧ again.company = company)
      (start.Reaches (Store.Write.Within company)) :=
    Runs.of_facts fun _ reached => (Invoicing.require_observes id).gives_at reached fun again againFound =>
      reached.invoiceOwned owned again (List.mem_of_find?_eq_some againFound) (Store.invoice?_id againFound)
  extract_lets rereading
  split
  · exact Runs.bind ((Invoicing.close_within owned _ _).mono (fun _ => Facts.Reaches.of_eq) (fun _ _ reached => reached)
      fun _ reached => reached) fun _ => reread
  · exact reread.mono (fun _ => Facts.Reaches.of_eq) (fun _ _ given => given) fun _ reached => reached
  · exact Runs.refused_at (.refl start) _ _
  · exact Runs.refused_at (.refl start) _ _

theorem Ledger.changeSeats_within (keyed : start.store.Keyed) (fresh : start.DrawsFresh) (seats : Int) :
    Runs now headcount (· = start) (Ledger.changeSeats company seats)
      (fun change after => start.Reaches (Store.Write.Within company) after ∧ (OwnerAnswer.seatChange change).Shows company)
      (start.Reaches (Store.Write.Within company)) := by
  unfold Ledger.changeSeats
  dsimp only
  refine Observes.bind_at (Ledger.requirePositiveSeats_observes seats) (fun _ _ => ?_) (.refl start)
  refine Observes.bind_at (Ledger.requireSubscription_observes company) (fun subscription read => ?_) (.refl start)
  split
  · exact Runs.refused_at (.refl start) _ _
  refine Observes.bind_at Observes.clock (fun at_ named => ?_) (.refl start)
  subst named
  -- every change that is not billed is saved over the company's subscription, then recorded
  have saving : ∀ (next : Subscription) (kind : EventKind) (change : Subscription → Ledger.SeatChange),
      next.company = subscription.company → next.id = subscription.id →
      (∀ saved : Subscription, saved.company = company → (OwnerAnswer.seatChange (change saved)).Shows company) →
      Runs at_ headcount (· = start) (do
          let saved ← Ledger.save subscription next
          Ledger.recordSeatEvent saved kind subscription.maxSeats at_
          pure (change saved))
        (fun change after => start.Reaches (Store.Write.Within company) after ∧
          (OwnerAnswer.seatChange change).Shows company)
        (start.Reaches (Store.Write.Within company)) := by
    intro next kind change sameCompany sameId shows
    refine Runs.bind (Ledger.save_within keyed read next sameCompany sameId) fun saved =>
      Runs.assuming fun owner => ?_
    exact Runs.bind (Ledger.recordSeatEvent_reaching Allows.within_record _ _ _ _) fun _ =>
      Runs.pure_giving _ (shows saved owner)
  have savedShows : ∀ (change : Subscription → Ledger.SeatChange),
      (∀ saved : Subscription, (OwnerAnswer.seatChange (change saved)).companies = [saved.company]) →
      ∀ saved : Subscription, saved.company = company → (OwnerAnswer.seatChange (change saved)).Shows company := by
    intro change single saved owner
    simp [OwnerAnswer.Shows, single, owner]
  split
  · refine Observes.bind_at (Catalog.getPlan_observes _) (fun plan _ => ?_) (.refl start)
    refine Observes.bind_at (Ledger.priceOf_observes _ _) (fun raised _ => ?_) (.refl start)
    refine Observes.bind_at (Ledger.priceOf_observes _ _) (fun current _ => ?_) (.refl start)
    refine Observes.bind_at (Observes.orOverflow _) (fun cost _ => ?_) (.refl start)
    split
    · refine Observes.bind_at (Observes.orOverflow _) (fun added _ => ?_) (.refl start)
      exact Runs.bind (Invoicing.create_within fresh _ rfl) fun invoice => Runs.assuming fun owner =>
        Runs.pure_giving _ (by simp [OwnerAnswer.Shows, OwnerAnswer.companies, owner])
    · exact saving _ _ _ rfl rfl (savedShows _ fun _ => rfl)
  split
  · exact saving _ _ _ rfl rfl (savedShows _ fun _ => rfl)
  split
  · exact Runs.refused_at (.refl start) _ _
  · exact saving _ _ _ rfl rfl (savedShows _ fun _ => rfl)

/-- Reading the company's subscription shows the company's own. -/
theorem Ledger.view_within :
    Runs now headcount (· = start) (Ledger.view company)
      (fun view after => start.Reaches (Store.Write.Within company) after ∧ view.subscription.company = company)
      (start.Reaches (Store.Write.Within company)) := by
  unfold Ledger.view
  refine Observes.bind_at (Ledger.requireSubscription_observes company) (fun subscription read => ?_) (.refl start)
  have owner : subscription.company = company := by simpa using List.find?_some read
  refine Observes.bind_at (Catalog.getPlan_observes _) (fun plan _ => ?_) (.refl start)
  extract_lets finish
  -- the pending plan is read for the view only; what follows shows the subscription read
  have finishing : ∀ pendingPlan, Runs now headcount (· = start) (finish pendingPlan)
      (fun view after => start.Reaches (Store.Write.Within company) after ∧ view.subscription.company = company)
      (start.Reaches (Store.Write.Within company)) := by
    intro pendingPlan
    dsimp only [finish]
    refine Observes.bind_at (Observes.countActive company) (fun _ _ => ?_) (.refl start)
    refine Observes.bind_at Observes.clock (fun _ _ => ?_) (.refl start)
    exact (Observes.pure _).gives_at (.refl start) fun _ same => by rw [same]; exact owner
  split
  · exact Runs.bind ((Runs.map some (Catalog.getPlan_observes _).keeps).mono (fun _ same => same)
      (fun _ _ held => by obtain ⟨_, _, same⟩ := held; exact same) fun _ => Facts.Reaches.of_eq) finishing
  · exact Runs.bind ((Observes.pure _).keeps.mono (fun _ same => same) (fun _ _ same => same)
      fun _ => Facts.Reaches.of_eq) finishing

/-- An answer made from what an operation gave shows the company's records when what it gave
does. -/
theorem Runs.answering {action : BillingM α} {want : α → Prop} (wrap : α → OwnerAnswer)
    (shows : ∀ value, want value → (wrap value).Shows company)
    (runs : Runs now headcount (· = start) action
      (fun value after => start.Reaches (Store.Write.Within company) after ∧ want value)
      (start.Reaches (Store.Write.Within company))) :
    Runs now headcount (· = start) (wrap <$> action)
      (fun answer after => start.Reaches (Store.Write.Within company) after ∧ answer.Shows company)
      (start.Reaches (Store.Write.Within company)) :=
  (Runs.map wrap runs).mono (fun _ same => same)
    (fun _ _ ⟨value, same, reached, wanted⟩ => ⟨reached, same ▸ shows value wanted⟩) fun _ reached => reached

/-- Every request of the company's owner writes only records of the company, and shows only the
company's records. -/
theorem OwnerRequest.serve_within (keyed : start.store.Keyed) (fresh : start.DrawsFresh) (request : OwnerRequest) :
    Runs now headcount (· = start) (request.serve company)
      (fun answer after => start.Reaches (Store.Write.Within company) after ∧ answer.Shows company)
      (start.Reaches (Store.Write.Within company)) := by
  have single : ∀ shown : Uuid, shown = company → ∀ owner ∈ [shown], owner = company := by
    intro shown same owner member
    rw [List.mem_singleton.mp member, same]
  cases request with
  | startTrial planId =>
    exact Runs.answering _ (fun _ => single _) (Ledger.startTrial_within fresh planId)
  | checkout planId seats =>
    exact Runs.answering _ (fun _ => single _) (Ledger.checkout_within fresh planId seats)
  | upgrade planId => exact Runs.answering _ (fun _ => single _) (Ledger.upgrade_within fresh planId)
  | downgrade planId => exact Runs.answering _ (fun _ => single _) (Ledger.downgrade_within keyed planId)
  | changeSeats seats => exact Runs.answering _ (fun _ shows => shows) (Ledger.changeSeats_within keyed fresh seats)
  | cancel => exact Runs.answering _ (fun _ => single _) (Ledger.cancel_within keyed)
  | cancelScheduledChange => exact Runs.answering _ (fun _ => single _) (Ledger.cancelScheduledChange_within keyed)
  | cancelPendingInvoice id => exact Runs.answering _ (fun _ => single _) (Invoicing.cancelPending_within keyed id)
  | invoice id =>
    exact Runs.answering _ (fun _ => single _)
      ((Invoicing.invoiceOf_owned id).gives_at (.refl start) fun _ given => given.2)
  | invoices =>
    -- a listing the store gives holds the company's invoices only
    have listed : ∀ listed : List Invoice, listed = start.store.listInvoices company ∨ none = some listed ∨
        none = some listed ∨ none = some listed → ∀ invoice ∈ listed, invoice.company = company := by
      rintro listed (same | kept | kept | kept) invoice member
      · exact (Store.mem_listInvoices (same ▸ member)).2
      all_goals simp at kept
    have reading : Runs now headcount (· = start) (Invoicing.invoicesOf company)
        (fun shown after => start.Reaches (Store.Write.Within company) after ∧ ∀ invoice ∈ shown, invoice.company = company)
        (start.Reaches (Store.Write.Within company)) :=
      (Observes.readCall _ _ _ _ _ _).gives_at (.refl start) listed
    refine Runs.answering _ (fun shown owned owner member => ?_) reading
    obtain ⟨invoice, shownMember, same⟩ := List.mem_map.mp member
    rw [← same]
    exact owned invoice shownMember
  | subscription => exact Runs.answering _ (fun _ => single _) Ledger.view_within

end Walks

/-- Asked for an identifier that no invoice of the company holds, the company's invoice lookup
answers that it is not found, and changes nothing. -/
theorem Invoicing.invoiceOf_run_foreign {world : World} {company id : Uuid} (inMemory : world.backend = .memory)
    (unarmed : ∀ fault ∈ world.faults, fault.method ≠ Call.getInvoice.name)
    (foreign : ∀ invoice, world.store.invoice? id = some invoice → invoice.company ≠ company) :
    (Invoicing.invoiceOf company id).run.run world =
      (.error (.failed (.notFound ("Invoice " ++ id.hyphenated ++ " not found"))), world) := by
  simp only [Invoicing.invoiceOf, Calls.getInvoice, run_bind, guarded_run_of_unarmed unarmed,
    Calls.backed_run inMemory, Calls.readStore_run]
  cases found : world.store.invoice? id with
  | none => rfl
  | some invoice =>
    have other : (invoice.company == company) = false := beq_false_of_ne (foreign invoice found)
    simp only [other, Bool.false_eq_true, if_false]
    rfl

/-- Cancelling an invoice no invoice of the company holds answers that it is not found, and
changes nothing. -/
theorem Invoicing.cancelPending_run_foreign {world : World} {company id : Uuid} (inMemory : world.backend = .memory)
    (unarmed : ∀ fault ∈ world.faults, fault.method ≠ Call.getInvoice.name)
    (foreign : ∀ invoice, world.store.invoice? id = some invoice → invoice.company ≠ company) :
    (Invoicing.cancelPending company id).run.run world =
      (.error (.failed (.notFound ("Invoice " ++ id.hyphenated ++ " not found"))), world) := by
  simp only [Invoicing.cancelPending, run_bind, Invoicing.invoiceOf_run_foreign inMemory unarmed foreign]

/-- The company's invoices are listed as the store holds them, and nothing changes. -/
theorem Invoicing.invoicesOf_run {world : World} {company : Uuid} (inMemory : world.backend = .memory)
    (unarmed : ∀ fault ∈ world.faults, fault.method ≠ Call.listInvoices.name) :
    (Invoicing.invoicesOf company).run.run world = (.ok (world.store.listInvoices company), world) := by
  simp only [Invoicing.invoicesOf, Calls.listInvoices, guarded_run_of_unarmed unarmed, Calls.backed_run inMemory,
    Calls.readStore_run]

/-! ## Tenant isolation -/

/-- Whatever fault it meets, every request a company's owner makes leaves the subscriptions and
invoices of every other company as they were, and shows only the company's own records. Where
the lookups meet no fault, another company's invoice reads as not found, to the lookup and to a
cancellation alike, whatever its status, and the company's invoices are listed, all of them and
no other, newest first. -/
theorem owner_requests_stay_within_company (company : Uuid) (world : World) (inMemory : world.backend = .memory)
    (keyed : world.store.Keyed) (fresh : world.facts.DrawsFresh) :
    (∀ request : OwnerRequest,
      Store.OthersKept company world.store ((request.serve company).run.run world).2.store ∧
        ∀ answer, ((request.serve company).run.run world).1 = .ok answer → answer.Shows company) ∧
      ((∀ fault ∈ world.faults, fault.method ≠ Call.getInvoice.name) →
        ∀ invoice ∈ world.store.invoices, invoice.company ≠ company →
          ((OwnerRequest.invoice invoice.id).serve company).run.run world =
              (.error (.failed (.notFound ("Invoice " ++ invoice.id.hyphenated ++ " not found"))), world) ∧
            ((OwnerRequest.cancelPendingInvoice invoice.id).serve company).run.run world =
              (.error (.failed (.notFound ("Invoice " ++ invoice.id.hyphenated ++ " not found"))), world)) ∧
      ((∀ fault ∈ world.faults, fault.method ≠ Call.listInvoices.name) →
        ∃ invoices, (OwnerRequest.invoices.serve company).run.run world = (.ok (.invoices invoices), world) ∧
          invoices.Perm (world.store.invoices.filter (·.company == company)) ∧
          invoices.Pairwise fun newer older => older.createdAt ≤ newer.createdAt) := by
  have settled : world.Settled world.clock world.headcount := ⟨inMemory, rfl, rfl⟩
  refine ⟨fun request => ?_, fun unarmed invoice member other => ?_, fun unarmed => ?_⟩
  · obtain ⟨-, reached, shows⟩ := OwnerRequest.serve_within keyed fresh request world settled rfl
    exact ⟨reached.othersKept, fun answer ok => (shows answer ok).2⟩
  · -- the identifier is the other company's invoice's alone
    have foreign : ∀ found, world.store.invoice? invoice.id = some found → found.company ≠ company := by
      intro found lookup
      rw [keyed.invoice?_of_mem member] at lookup
      rw [← Option.some.inj lookup]
      exact other
    simp only [OwnerRequest.serve, Spec.run_map, Invoicing.invoiceOf_run_foreign inMemory unarmed foreign,
      Invoicing.cancelPending_run_foreign inMemory unarmed foreign, and_self]
  · refine ⟨world.store.listInvoices company, ?_, world.store.listInvoices_perm company,
      world.store.listInvoices_newest_first company⟩
    simp only [OwnerRequest.serve, Spec.run_map, Invoicing.invoicesOf_run inMemory unarmed]

/-- A checkout of the basic plan by the company `Uuid.ofSerial 7`, under identifier `id`, asked
for at `at_`. -/
def laterCheckout (id : Uuid) (at_ : Time.Moment) : Invoice :=
  Invoicing.pendingInvoice ⟨Uuid.ofSerial 7, none, .checkout, "basic", 5, 10000, "basic plan, 5 seats"⟩ id at_ at_

/-- The first checkout of `Uuid.ofSerial 7`, on the January morning, left to expire. -/
def expiredCheckout : Invoice := { laterCheckout ⟨2⟩ Ledger.quietStart.clock with status := .expired }

/-- The second checkout of `Uuid.ofSerial 7`, a day later, still pending. -/
def pendingCheckout : Invoice := laterCheckout ⟨3⟩ ⟨(1767225600 + 86400) * Time.nanosPerSecond, 0⟩

/-- The January world with three invoices: a pending checkout of the January company, then the
two checkouts of `Uuid.ofSerial 7`. -/
def twoCompanyWorld : World :=
  { januaryWorld with
    store := { januaryWorld.store with invoices := [Ledger.examplePending ⟨1⟩, expiredCheckout, pendingCheckout] } }

/-- In the January world with a second company's invoices, no request of that company touches
the January company's records; its lookup and cancellation of the January invoice are answered
not found; and its invoices are listed, the later one first. -/
theorem january_ledger_kept_from_other_company :
    twoCompanyWorld.backend = .memory ∧ twoCompanyWorld.store.Keyed ∧ twoCompanyWorld.facts.DrawsFresh ∧
      (∀ request : OwnerRequest, Store.OthersKept (Uuid.ofSerial 7) twoCompanyWorld.store
        ((request.serve (Uuid.ofSerial 7)).run.run twoCompanyWorld).2.store) ∧
      ((OwnerRequest.invoice ⟨1⟩).serve (Uuid.ofSerial 7)).run.run twoCompanyWorld =
        (.error (.failed (.notFound ("Invoice " ++ Uuid.hyphenated ⟨1⟩ ++ " not found"))), twoCompanyWorld) ∧
      ((OwnerRequest.cancelPendingInvoice ⟨1⟩).serve (Uuid.ofSerial 7)).run.run twoCompanyWorld =
        (.error (.failed (.notFound ("Invoice " ++ Uuid.hyphenated ⟨1⟩ ++ " not found"))), twoCompanyWorld) ∧
      (OwnerRequest.invoices.serve (Uuid.ofSerial 7)).run.run twoCompanyWorld =
        (.ok (.invoices [pendingCheckout, expiredCheckout]), twoCompanyWorld) := by
  have stored : twoCompanyWorld.store.invoices = [Ledger.examplePending ⟨1⟩, expiredCheckout, pendingCheckout] := rfl
  have noFaults : twoCompanyWorld.faults = [] := rfl
  have keyed : twoCompanyWorld.store.Keyed := ⟨List.nodup_singleton _, by decide⟩
  have fresh : twoCompanyWorld.facts.DrawsFresh := by
    intro serial _
    refine ⟨fun subscription member => ?_, fun invoice member => ?_⟩
    · rw [List.mem_singleton.mp member]
      exact (Uuid.ofSerial_ne_nil serial).symm
    · -- the invoices are under small identifiers, which are never drawn
      change invoice ∈ twoCompanyWorld.store.invoices at member
      simp only [stored, List.mem_cons, List.not_mem_nil, or_false] at member
      rcases member with rfl | rfl | rfl <;> exact (Uuid.ofSerial_ne_of_lt (by decide) serial).symm
  obtain ⟨kept, foreign, listed⟩ := owner_requests_stay_within_company (Uuid.ofSerial 7) twoCompanyWorld rfl keyed fresh
  obtain ⟨lookup, cancel⟩ := foreign (fun _ member => by rw [noFaults] at member; cases member)
    (Ledger.examplePending ⟨1⟩) (by rw [stored]; exact List.mem_cons_self) (by decide)
  obtain ⟨invoices, served, perm, newestFirst⟩ := listed (fun _ member => by rw [noFaults] at member; cases member)
  -- the listing holds the company's two invoices, and newest first there is one order of them
  have own : twoCompanyWorld.store.invoices.filter (·.company == Uuid.ofSerial 7) = [expiredCheckout, pendingCheckout] := by
    rw [stored]
    rfl
  have listedPerm : invoices.Perm [pendingCheckout, expiredCheckout] := by
    rw [own] at perm
    exact perm.trans (List.Perm.swap _ _ [])
  have ordered : invoices = [pendingCheckout, expiredCheckout] := by
    refine List.Perm.eq_of_pairwise ?_ newestFirst (by decide) listedPerm
    intro first second firstMember secondMember later earlier
    have firstListed := listedPerm.subset firstMember
    simp only [List.mem_cons, List.not_mem_nil, or_false] at firstListed secondMember
    rcases firstListed with rfl | rfl <;> rcases secondMember with rfl | rfl
    · rfl
    · exact absurd earlier (by decide)
    · exact absurd later (by decide)
    · rfl
  rw [ordered] at served
  exact ⟨rfl, keyed, fresh, fun request => (kept request).1, lookup, cancel, served⟩

end SeatBilling
