import SeatBilling.Proofs.Ledger.OperationWrites
import SeatBilling.Proofs.Ledger.Payments
import SeatBilling.Proofs.Store.PendingInvoices

/-!
# What one store call does to one subscription

Every store call the core makes leaves the subscription under each identifier as it was, or
does one of five things to it (`RecordStep`): a trial starts; a subscription read is written
back revised, at the next version; a paid invoice creates the company's first subscription;
a paid invoice settles onto the subscription read, with what `paidEffect` computes; or an
expiry move changes its status. This is said once here, from the store's own code
(`Store.apply_*`); the laws of the ledger read it and never open a store call again.

The store must be keyed (no two records share an identifier), as every store the core reaches
is, so that the subscription a write names is the one it read.
-/

namespace SeatBilling

open SeatBilling.Time

/-- What a store call of kind `kind`, made on `store` at the clock reading `now`, does to the
subscription stored under one identifier, from `before` to `after` (none when there is none). -/
inductive RecordStep (settings : Config) (now : Moment) (headcount : List (Uuid × Int)) (store : Store) :
    WriteKind → Option Subscription → Option Subscription → Prop
  | keep (kind : WriteKind) (stored : Option Subscription) : RecordStep settings now headcount store kind stored stored
  /-- A trial starts on a plan on offer, with the seats it includes, for the trial length. -/
  | start (company : Uuid) (plan : Plan) (id : Uuid) (trialEnd : Moment) (found : store.plan? plan.id = some plan)
      (offered : plan.active = true) (ends : now.shift? settings.trial = some trialEnd) :
      RecordStep settings now headcount store .trial none (some
        { id := id, company := company, plan := plan.id, status := .trial, maxSeats := plan.maxSeatsIncluded,
          pendingMaxSeats := none, pendingPlan := none, periodStart := now, periodEnd := trialEnd,
          createdAt := now, updatedAt := now, version := 0 })
  /-- The subscription read is written back revised, at the next version. -/
  | revise (current next : Subscription) (revision : Revision)
      (revises : Revises settings now headcount store current revision next) :
      RecordStep settings now headcount store (.revise revision) (some current)
        (some { next with version := current.version + 1 })
  /-- A paid invoice opens the first subscription of its company. -/
  | opened (id : Uuid) (invoice : Invoice) (newId : Uuid) (paidAt finish : Moment)
      (found : store.invoice? id = some invoice) (pending : invoice.isPending = true)
      (first : store.subscriptionOf? invoice.company = none) (shifted : paidAt.shift? settings.period = some finish) :
      RecordStep settings now headcount store .settle none (some (invoice.opening newId paidAt finish now))
  /-- A paid invoice settles onto the company's subscription, revised as `PaidRevision` says, at
  the next version. -/
  | settled (id : Uuid) (invoice : Invoice) (paidAt : Moment) (current revised : Subscription)
      (found : store.invoice? id = some invoice) (pending : invoice.isPending = true)
      (read : store.subscriptionOf? invoice.company = some current)
      (revision : PaidRevision settings.period paidAt invoice current revised) :
      RecordStep settings now headcount store .settle (some current)
        (some { revised with updatedAt := now, version := current.version + 1 })
  /-- An expiry move changes the status of a subscription it selects. -/
  | expire (statuses : List SubscriptionStatus) (cutoff : Moment) (target : SubscriptionStatus)
      (move : ExpiryMove settings now statuses cutoff target) (stored : Subscription) :
      RecordStep settings now headcount store .expire (some stored)
        (some (Store.expired statuses cutoff target now stored))

/-- What a call that settles `invoice` does to the subscription stored under one identifier:
it keeps it, opens the first subscription of the invoice's company, or settles onto the
company's subscription, revised as `PaidRevision` says, at the next version. -/
inductive SettleStep (settings : Config) (now : Moment) (store : Store) (invoice : Invoice) :
    Option Subscription → Option Subscription → Prop
  | keep (stored : Option Subscription) : SettleStep settings now store invoice stored stored
  | opened (newId : Uuid) (paidAt finish : Moment) (first : store.subscriptionOf? invoice.company = none)
      (shifted : paidAt.shift? settings.period = some finish) :
      SettleStep settings now store invoice none (some (invoice.opening newId paidAt finish now))
  | settled (paidAt : Moment) (current revised : Subscription)
      (read : store.subscriptionOf? invoice.company = some current)
      (revision : PaidRevision settings.period paidAt invoice current revised) :
      SettleStep settings now store invoice (some current) (some { revised with updatedAt := now, version := current.version + 1 })

/-- A settlement step of an invoice found pending is a record step of a settlement call. -/
theorem SettleStep.recordStep {settings : Config} {now : Moment} {headcount : List (Uuid × Int)} {store : Store}
    {id : Uuid} {invoice : Invoice} {before after : Option Subscription} (found : store.invoice? id = some invoice)
    (pending : invoice.isPending = true) (step : SettleStep settings now store invoice before after) :
    RecordStep settings now headcount store .settle before after := by
  cases step with
  | keep => exact .keep _ _
  | opened newId paidAt finish first shifted => exact .opened id invoice newId paidAt finish found pending first shifted
  | settled paidAt current revised read revision =>
    exact .settled id invoice paidAt current revised found pending read revision

/-! ## Revisions keep the record's identity -/

namespace Revises

variable {settings : Config} {now : Moment} {headcount : List (Uuid × Int)} {store : Store}
  {current next : Subscription} {revision : Revision}

theorem id_eq (revises : Revises settings now headcount store current revision next) : next.id = current.id := by
  cases revises <;> rfl

theorem company_eq (revises : Revises settings now headcount store current revision next) :
    next.company = current.company := by
  cases revises <;> rfl

/-- A revision keeps the period, but a committed change of an active subscription rolls it
forward by a period. -/
theorem periodEnd_le (forward : 0 ≤ settings.period.seconds)
    (revises : Revises settings now headcount store current revision next) : current.periodEnd ≤ next.periodEnd := by
  cases revises
  case commitRolling _ _ _ _ _ _ _ rolled => exact Moment.le_of_shift? forward rolled
  all_goals exact Moment.le_refl _

/-- A revision keeps the status, but a cancellation cancels a subscription in trial, active or
past due. -/
theorem status_cases (revises : Revises settings now headcount store current revision next) :
    next.status = current.status ∨ revision = .cancel ∧ next.status = .cancelled ∧
      (current.status = .trial ∨ current.status = .active ∨ current.status = .pastDue) := by
  cases revises
  case cancel cancellable => exact .inr ⟨rfl, rfl, cancellable⟩
  all_goals exact .inl rfl

end Revises

/-! ## Each call, one step under each identifier -/

namespace CoreWrite

variable {settings : Config} {now : Moment} {headcount : List (Uuid × Int)} {store : Store}

/-- A call that leaves the subscriptions alone keeps the record under every identifier. -/
theorem recordStep_of_subscriptions {kind : WriteKind} {write : Store.Write}
    (same : (write.apply store).subscriptions = store.subscriptions) (id : Uuid) :
    RecordStep settings now headcount store kind (store.subscription? id) ((write.apply store).subscription? id) := by
  rw [Store.subscription?_eq_of_subscriptions same]
  exact .keep _ _

/-- A settlement call leaves the store as it was, or settles the pending invoice it names: the
invoice is paid after the call, billing the same, and the subscription under every identifier
takes one settlement step of that invoice, on keyed records and with a new subscription under a
fresh identifier. -/
theorem settle_cases {write : Store.Write} (keyed : store.Keyed) (made : CoreWrite settings now headcount store .settle write)
    (fresh : write.Fresh store) :
    write.apply store = store ∨
      ∃ invoiceId invoice, store.invoice? invoiceId = some invoice ∧ invoice.isPending = true ∧
        (∃ paid, (write.apply store).invoice? invoiceId = some paid ∧ paid.status = .paid ∧ paid.terms = invoice.terms) ∧
        ∀ id, SettleStep settings now store invoice (store.subscription? id) ((write.apply store).subscription? id) := by
  cases made with
  | settle invoiceId invoice current newId payment effect found read made =>
    rcases Store.apply_settleInvoice store invoiceId payment effect with
      unchanged | ⟨stored, written, storedFound, pending, settles, settled⟩
    · exact .inl unchanged
    have sameInvoice : stored = invoice := by rw [found] at storedFound; exact (Option.some.inj storedFound).symm
    subst sameInvoice
    refine .inr ⟨invoiceId, stored, found, pending, ?_, fun id => ?_⟩
    · -- the invoice under `invoiceId` is the one marked paid
      have sameInvoices : ((Store.Write.settleInvoice invoiceId payment effect).apply store).invoices =
          ({ store with invoices := store.invoices.map (Store.paidBy invoiceId payment written.id) } : Store).invoices := by
        rw [settled]
      rw [Store.invoice?_eq_of_invoices sameInvoices, Store.invoice?_map (Store.paidBy_id invoiceId payment written.id),
        found, Option.map_some]
      have named : (stored.id == invoiceId) = true := beq_iff_eq.mpr (Store.invoice?_id found)
      refine ⟨_, rfl, ?_, ?_⟩
      · simp [Store.paidBy, named, Invoice.applyPayment]
      · simp [Store.paidBy, named, Invoice.applyPayment, Invoice.terms]
    rw [settled, Store.subscription?_settled]
    split
    · rename_i sameId
      cases effect with
      | insert created =>
        -- the first subscription of the company, under the identifier drawn
        obtain ⟨first, rfl⟩ := settles
        obtain ⟨rfl, finish, shifted, rfl⟩ := paidEffect_insert made
        have absent : store.subscription? id = none := by rw [← sameId]; exact fresh
        rw [absent]
        exact .opened newId payment.paidAt finish first shifted
      | update next version =>
        obtain ⟨-, rfl⟩ := settles
        cases current with
        | none => obtain ⟨_, wrong, -⟩ := Webhook.paidEffect_none made; cases wrong
        | some current =>
          obtain ⟨rfl, revised, revision, rfl⟩ := paidEffect_update made
          have companyRead : store.subscriptionOf? stored.company = some current := by
            rcases read with read | read
            · exact read.symm
            · cases read
          -- the subscription read is the one stored under its identifier
          have underId : store.subscription? id = some current := by
            rw [← sameId]
            show store.subscription? revised.id = some current
            rw [revision.id_eq]
            exact keyed.subscription?_of_mem (List.mem_of_find?_eq_some companyRead)
          rw [underId]
          exact .settled payment.paidAt current revised companyRead revision
    · exact .keep _

/-- Every store call the core makes is one `RecordStep` under every identifier, on keyed
records and with new records under fresh identifiers. -/
theorem recordStep {kind : WriteKind} {write : Store.Write} (keyed : store.Keyed)
    (made : CoreWrite settings now headcount store kind write) (fresh : write.Fresh store) (id : Uuid) :
    RecordStep settings now headcount store kind (store.subscription? id) ((write.apply store).subscription? id) := by
  by_cases settling : kind = .settle
  · subst settling
    rcases settle_cases keyed made fresh with unchanged | ⟨_, _, found, pending, -, steps⟩
    · rw [unchanged]
      exact .keep _ _
    · exact (steps id).recordStep found pending
  cases made with
  | trial company plan newId trialEnd found offered ends =>
    rcases Store.apply_insertSubscription store _ with unchanged | inserted
    · rw [unchanged]
      exact .keep _ _
    · rw [inserted, Store.subscription?_upsert]
      split
      · rename_i sameId
        -- the identifier drawn is fresh, so nothing was stored under it
        have absent : store.subscription? id = none := by rw [← sameId]; exact fresh
        rw [absent]
        exact .start company plan newId trialEnd found offered ends
      · exact .keep _ _
  | revise current next revision read revises =>
    rcases Store.apply_updateSubscription store next current.version with unchanged | ⟨_, updated⟩
    · rw [unchanged]
      exact .keep _ _
    · rw [updated, Store.subscription?_map (fun old => Store.bumped_id next old current.version)]
      cases stored : store.subscription? id with
      | none => exact .keep _ _
      | some old =>
        rw [Option.map_some]
        unfold Store.bumped
        split
        · rename_i sameId
          -- on keyed records the subscription under the identifier is the one read
          have oldIsCurrent : old = current := by
            have named : old.id = current.id := (beq_iff_eq.mp sameId).trans revises.id_eq
            have foundCurrent := keyed.subscription?_of_mem read
            rw [← named, Store.subscription?_id stored, stored] at foundCurrent
            exact Option.some.inj foundCurrent
          subst oldIsCurrent
          exact .revise old next revision revises
        · exact .keep _ _
  | bill request newId expiresAt _ _ => exact recordStep_of_subscriptions (Store.subscriptions_apply_insertInvoice _ _) id
  | billDirect request newId expiresAt _ =>
    exact recordStep_of_subscriptions (Store.subscriptions_apply_insertInvoice _ _) id
  | setAside invoice => exact recordStep_of_subscriptions (Store.subscriptions_apply_transitionInvoice _ _ _ _) id
  | link invoice providerId url expiresAt =>
    exact recordStep_of_subscriptions (Store.subscriptions_apply_attachProviderInvoice _ _ _ _ _) id
  | close invoice target _ => exact recordStep_of_subscriptions (Store.subscriptions_apply_transitionInvoice _ _ _ _) id
  | record event => exact recordStep_of_subscriptions (Store.subscriptions_apply_appendEvent _ _) id
  | expire statuses cutoff target move =>
    rcases Store.apply_updateExpiredToStatus store statuses cutoff target now with unchanged | updated
    · rw [unchanged]
      exact .keep _ _
    · rw [updated, Store.subscription?_map (Store.expired_id statuses cutoff target now)]
      cases store.subscription? id with
      | none => exact .keep _ _
      | some stored =>
        rw [Option.map_some]
        exact .expire statuses cutoff target move stored
  | settle => exact absurd rfl settling

end CoreWrite

/-! ## The catalog stays -/

/-- No store call touches the plans. -/
theorem Store.plans_apply (store : Store) (write : Store.Write) : (write.apply store).plans = store.plans := by
  cases write with
  | insertSubscription subscription =>
    rcases Store.apply_insertSubscription store subscription with written | written <;> rw [written]
  | updateSubscription subscription version =>
    rcases Store.apply_updateSubscription store subscription version with written | ⟨-, written⟩ <;> rw [written]
  | updateExpiredToStatus statuses cutoff target now =>
    rcases Store.apply_updateExpiredToStatus store statuses cutoff target now with written | written <;>
      rw [written]
  | insertInvoice invoice =>
    rcases Store.apply_insertInvoice store invoice with written | ⟨-, written⟩ <;> rw [written]
  | attachProviderInvoice id providerId url expiresAt =>
    rcases Store.apply_attachProviderInvoice store id providerId url expiresAt with written | written <;>
      rw [written]
  | transitionInvoice id target payment =>
    rcases Store.apply_transitionInvoice store id target payment with written | ⟨_, _, -, -, -, written⟩ <;>
      rw [written]
  | settleInvoice id payment effect =>
    rcases Store.apply_settleInvoice store id payment effect with written | ⟨_, _, -, -, -, written⟩ <;>
      rw [written]
  | appendEvent event => rfl

theorem Store.plan?_apply (store : Store) (write : Store.Write) (id : String) :
    (write.apply store).plan? id = store.plan? id := by
  unfold Store.plan?
  rw [Store.plans_apply]

/-! ## Runs of calls, one identifier at a time -/

section Runs

variable {settings : Config} {now : Moment} {headcount : List (Uuid × Int)} {uses : List WriteKind}

/-- A relation between the subscriptions stored under one identifier that chains, and that
every step of the kinds `uses` moves along on a store where `holds` holds, relates the
subscription under each identifier at the start of a run of such calls to the one at its end,
when `holds` holds at the start, every call keeps it, and it keeps the records keyed. -/
theorem Store.Made.records_of (holds : Store → Prop) (keyedOf : ∀ store, holds store → store.Keyed)
    (keeps : ∀ store write, CoreWrite.Of settings now headcount uses store write → write.Fresh store → holds store →
      holds (write.apply store))
    (related : Option Subscription → Option Subscription → Prop)
    (refl : ∀ stored, related stored stored)
    (trans : ∀ first second third, related first second → related second third → related first third)
    (step : ∀ store kind before after, holds store → kind ∈ uses →
      RecordStep settings now headcount store kind before after → related before after)
    {store : Store} {writes : List Store.Write} (start : holds store)
    (made : Store.Made (CoreWrite.Of settings now headcount uses) store writes) (id : Uuid) :
    related (store.subscription? id) ((store.replay writes).subscription? id) := by
  -- `holds` stays along the run, so each of its calls is a record step on a store where it holds
  have chained := Store.Made.chain
    (fun first second => holds first → holds second ∧ ∀ id, related (first.subscription? id) (second.subscription? id))
    (fun _ holding => ⟨holding, fun _ => refl _⟩)
    (fun _ _ _ firstSecond secondThird holding =>
      have ⟨holdsSecond, relatedSecond⟩ := firstSecond holding
      have ⟨holdsThird, relatedThird⟩ := secondThird holdsSecond
      ⟨holdsThird, fun id => trans _ _ _ (relatedSecond id) (relatedThird id)⟩)
    (fun store write made fresh holding =>
      have ⟨kind, used, allowed⟩ := made
      ⟨keeps store write made fresh holding,
        fun id => step store kind _ _ holding used (allowed.recordStep (keyedOf store holding) fresh id)⟩)
    made
  exact (chained start).2 id

/-- A relation between the subscriptions stored under one identifier that every step of the
kinds `uses` moves along, and that chains, relates the subscription under each identifier at
the start of a run of such calls, on keyed records, to the one at its end. -/
theorem Store.Made.records (related : Option Subscription → Option Subscription → Prop)
    (refl : ∀ stored, related stored stored)
    (trans : ∀ first second third, related first second → related second third → related first third)
    (step : ∀ store kind before after, kind ∈ uses → RecordStep settings now headcount store kind before after →
      related before after)
    {store : Store} {writes : List Store.Write} (keyed : store.Keyed)
    (made : Store.Made (CoreWrite.Of settings now headcount uses) store writes) (id : Uuid) :
    related (store.subscription? id) ((store.replay writes).subscription? id) :=
  made.records_of Store.Keyed (fun _ keyed => keyed) (fun _ write _ _ keyed => keyed.apply write) related refl trans
    (fun store kind before after _ used recorded => step store kind before after used recorded) keyed id

/-- What every record step of a trigger's kinds keeps, the trigger keeps under every identifier,
whatever its outcome and whatever fault it meets. -/
theorem Trigger.records (trigger : Trigger) (world : World) (inMemory : world.backend = .memory)
    (fresh : world.facts.DrawsFresh) (keyed : world.facts.store.Keyed)
    (related : Option Subscription → Option Subscription → Prop)
    (refl : ∀ stored, related stored stored)
    (trans : ∀ first second third, related first second → related second third → related first third)
    (step : ∀ store kind before after, kind ∈ trigger.uses →
      RecordStep world.config world.clock world.headcount store kind before after → related before after)
    (id : Uuid) :
    related (world.facts.store.subscription? id) ((trigger.perform.run.run world).2.facts.store.subscription? id) := by
  obtain ⟨writes, made, reachedStore⟩ := (trigger.reaches world inMemory fresh).made
  rw [reachedStore]
  exact made.records related refl trans step keyed id

end Runs

end SeatBilling
