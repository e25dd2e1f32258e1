import SeatBilling.Proofs.Ledger.RecordSteps
import SeatBilling.Invariants

/-!
# The ledger's representation invariant

The records of the ledger keep these rules (`Store.WellFormed`):

- a company has one subscription at most;
- a waiting plan is another plan of the catalog, of no higher tier than the plan in force;
- a waiting seat cap is at least one and below the cap in force;
- every seat cap is at least one, and every period starts no later than it ends;
- a subscription in trial or cancelled has nothing waiting;
- every paid invoice records when it was paid and the subscription it bought;
- no two invoices carry one provider invoice id.

They rest on three more: the records are keyed, the plans of the catalog include a seat at
least, and every invoice bills a seat at least. Every store call the core makes keeps them all
(`Store.WellFormed.apply`), for periods and trials that are not negative, when a new invoice it
stores bills a seat at least, as every invoice of the ledger's own operations does. The store's
refusals keep a company to one subscription and a provider id to one invoice; the checks of the
operation that made the call keep the rest, one case per kind of call and per step it makes on
a record (`RecordStep`).

On a well-formed ledger, the checks of waiting plans, paid invoices and waiting seat caps that
the core runs find nothing (`Store.PassesChecks`).
-/

namespace SeatBilling

open SeatBilling.Time

/-- The rules a stored subscription keeps, with the plans of `store` as its catalog. -/
structure Subscription.WellFormed (store : Store) (subscription : Subscription) : Prop where
  /-- A waiting plan is another plan of the catalog, of no higher tier than the plan in force. -/
  pendingPlan : ∀ planId, subscription.pendingPlan = some planId → planId ≠ subscription.plan ∧
    ∃ target current, store.plan? planId = some target ∧ store.plan? subscription.plan = some current ∧
      target.isHigherTierThan current = false
  /-- A waiting seat cap is at least one and below the cap in force. -/
  pendingSeats : ∀ seats, subscription.pendingMaxSeats = some seats → 1 ≤ seats ∧ seats < subscription.maxSeats
  seats : 1 ≤ subscription.maxSeats
  period : subscription.periodStart ≤ subscription.periodEnd
  /-- Nothing waits in a trial or once cancelled. -/
  settled : subscription.status = .trial ∨ subscription.status = .cancelled → subscription.hasPendingChange = false

/-- An invoice bills a seat at least and, once paid, records when and the subscription it bought. -/
structure Invoice.WellFormed (invoice : Invoice) : Prop where
  seats : 1 ≤ invoice.seats
  paid : invoice.status = .paid → invoice.paidAt.isSome = true ∧ invoice.subscription.isSome = true

/-- No two invoices carry one provider invoice id. -/
def DistinctProviderIds (invoices : List Invoice) : Prop :=
  ∀ first ∈ invoices, ∀ second ∈ invoices, ∀ providerId,
    first.providerInvoiceId = some providerId → second.providerInvoiceId = some providerId → first = second

/-- The ledger's representation invariant. -/
structure Store.WellFormed (store : Store) : Prop where
  keyed : store.Keyed
  catalog : ∀ plan ∈ store.plans, 1 ≤ plan.maxSeatsIncluded
  /-- A company has one subscription at most. -/
  oneEach : (store.subscriptions.map Subscription.company).Nodup
  subscriptions : ∀ subscription ∈ store.subscriptions, subscription.WellFormed store
  invoices : ∀ invoice ∈ store.invoices, invoice.WellFormed
  providerIds : DistinctProviderIds store.invoices

/-- A new invoice the call stores, if any, bills a seat at least. -/
def Store.Write.BillsSeats : Store.Write → Prop
  | .insertInvoice invoice => 1 ≤ invoice.seats
  | _ => True

/-! ## What the store refuses -/

namespace Store

section Lookups

variable {store : Store}

theorem subscription?_eq_none_iff {id : Uuid} :
    store.subscription? id = none ↔ ∀ stored ∈ store.subscriptions, stored.id ≠ id := by
  simp [subscription?, List.find?_eq_none]

theorem subscriptionOf?_eq_none_iff {company : Uuid} :
    store.subscriptionOf? company = none ↔ ∀ stored ∈ store.subscriptions, stored.company ≠ company := by
  simp [subscriptionOf?, List.find?_eq_none]

/-- With one subscription per company, a stored subscription is the one its company's lookup
finds. -/
theorem subscriptionOf?_of_mem (oneEach : (store.subscriptions.map Subscription.company).Nodup)
    {subscription : Subscription} (member : subscription ∈ store.subscriptions) :
    store.subscriptionOf? subscription.company = some subscription := by
  obtain ⟨found, lookup⟩ : ∃ found, store.subscriptionOf? subscription.company = some found :=
    Option.isSome_iff_exists.mp (List.find?_isSome.mpr ⟨subscription, member, by simp⟩)
  have sameCompany : found.company = subscription.company := by simpa using List.find?_some lookup
  rw [lookup, List.inj_on_of_nodup_map oneEach (List.mem_of_find?_eq_some lookup) member sameCompany]

end Lookups

section Refusals

variable (store : Store)

/-- A new subscription is stored only for a company without one. -/
theorem apply_insertSubscription_alone (subscription : Subscription) :
    (Write.insertSubscription subscription).apply store = store ∨
      store.subscriptionOf? subscription.company = none ∧
        (Write.insertSubscription subscription).apply store =
          { store with subscriptions := upsert (fun new old => new.id == old.id) subscription store.subscriptions } := by
  simp only [Write.apply, Store.insertSubscription]
  split
  · left; rfl
  · rename_i absent
    right
    exact ⟨by simpa using absent, rfl⟩

/-- An invoice is linked to a provider id only while no other invoice carries it. -/
theorem apply_attachProviderInvoice_unclaimed (id : Uuid) (providerId url : String) (expiresAt : Option Moment) :
    (Write.attachProviderInvoice id providerId url expiresAt).apply store = store ∨
      (∀ invoice ∈ store.invoices, invoice.id ≠ id → invoice.providerInvoiceId ≠ some providerId) ∧
        (Write.attachProviderInvoice id providerId url expiresAt).apply store =
          { store with invoices := store.invoices.map (linked id providerId url expiresAt) } := by
  simp only [Write.apply, Store.attachProviderInvoice]
  split
  · left; rfl
  · rename_i unclaimed
    split
    · left; rfl
    · right
      refine ⟨fun invoice member other claimed => unclaimed (List.any_eq_true.mpr ⟨invoice, member, ?_⟩), rfl⟩
      simp [other, claimed]

end Refusals

theorem mem_upsert {α : Type} {sameKey : α → α → Bool} {entry stored : α} {entries : List α}
    (member : stored ∈ upsert sameKey entry entries) : stored = entry ∨ stored ∈ entries := by
  unfold upsert at member
  split at member
  · obtain ⟨old, oldMember, rewritten⟩ := List.mem_map.mp member
    split at rewritten
    · exact .inl rewritten.symm
    · rw [← rewritten]
      exact .inr oldMember
  · rcases List.mem_append.mp member with old | added
    · exact .inr old
    · exact .inl (List.mem_singleton.mp added)

/-- Storing a subscription under its identifier keeps one subscription per company, when it
replaces one of its own company or its company has none. -/
theorem companies_upsert {entry : Subscription} {entries : List Subscription}
    (distinct : (entries.map Subscription.company).Nodup)
    (sameCompany : ∀ old ∈ entries, old.id = entry.id → old.company = entry.company)
    (alone : (∀ old ∈ entries, old.id ≠ entry.id) → ∀ old ∈ entries, old.company ≠ entry.company) :
    ((upsert (fun new old => new.id == old.id) entry entries).map Subscription.company).Nodup := by
  unfold upsert
  split
  · rw [map_keys_of_keep Subscription.company (fun old member => ?_)]
    · exact distinct
    · by_cases sameId : entry.id = old.id
      · simp [sameId, sameCompany old member sameId.symm]
      · simp [sameId]
  · rename_i absent
    have fresh : ∀ old ∈ entries, old.id ≠ entry.id := fun old member sameId =>
      absent (List.any_eq_true.mpr ⟨old, member, by simp [sameId]⟩)
    rw [List.map_append, List.nodup_append]
    refine ⟨distinct, by simp, ?_⟩
    intro company member added appended
    simp only [List.map_cons, List.map_nil, List.mem_singleton] at appended
    subst appended
    obtain ⟨old, oldMember, rfl⟩ := List.mem_map.mp member
    exact alone fresh old oldMember

/-- A subscription stored under a fresh identifier, for a company without one, keeps one
subscription per company. -/
theorem companies_upsert_new {store : Store} {entry : Subscription} (fresh : store.subscription? entry.id = none)
    (alone : store.subscriptionOf? entry.company = none)
    (distinct : (store.subscriptions.map Subscription.company).Nodup) :
    ((upsert (fun new old => new.id == old.id) entry store.subscriptions).map Subscription.company).Nodup :=
  companies_upsert distinct (fun old member sameId => absurd sameId (subscription?_eq_none_iff.mp fresh old member))
    (fun _ => subscriptionOf?_eq_none_iff.mp alone)

/-- A subscription a settlement read as its company's is what the company's lookup finds. -/
theorem subscriptionOf?_of_read {store : Store} {company : Uuid} {current : Subscription}
    (read : some current = store.subscriptionOf? company ∨ some current = none) :
    store.subscriptionOf? company = some current := by
  rcases read with read | read
  · exact read.symm
  · cases read

end Store

theorem Requested.seats_pos {store : Store} {request : InvoiceRequest}
    (catalog : ∀ plan ∈ store.plans, 1 ≤ plan.maxSeatsIncluded) (requested : Requested store request) :
    1 ≤ request.seats := by
  cases requested with
  | checkout _ _ _ _ _ _ _ _ positive => exact positive
  | upgrade _ _ target _ _ _ _ _ found =>
    -- an upgrade buys the seats it has or the plan includes, whichever is more
    exact Int.le_trans (catalog target (List.mem_of_find?_eq_some found)) (Int.le_max_right _ _)
  | seatIncrease _ _ _ _ _ _ _ positive => exact positive

/-! ## One subscription -/

namespace Subscription.WellFormed

variable {store : Store} {subscription : Subscription}

/-- The rules read the catalog alone of the store. -/
theorem of_plans {other : Store} (same : other.plans = store.plans) (wellFormed : subscription.WellFormed store) :
    subscription.WellFormed other := by
  have lookups : ∀ id, other.plan? id = store.plan? id := fun id => by unfold Store.plan?; rw [same]
  refine ⟨fun planId waiting => ?_, wellFormed.pendingSeats, wellFormed.seats, wellFormed.period, wellFormed.settled⟩
  simp only [lookups]
  exact wellFormed.pendingPlan planId waiting

/-- The rules read neither when a subscription was last written nor its version. -/
theorem stamp (wellFormed : subscription.WellFormed store) (updatedAt : Moment) (version : Int) :
    ({ subscription with updatedAt := updatedAt, version := version } : Subscription).WellFormed store :=
  ⟨wellFormed.pendingPlan, wellFormed.pendingSeats, wellFormed.seats, wellFormed.period, wellFormed.settled⟩

/-- A subscription with nothing waiting keeps the rules when its seat cap and period do. -/
theorem of_nothing_waiting (noPlan : subscription.pendingPlan = none) (noSeats : subscription.pendingMaxSeats = none)
    (seats : 1 ≤ subscription.maxSeats) (period : subscription.periodStart ≤ subscription.periodEnd) :
    subscription.WellFormed store where
  pendingPlan planId waiting := by
    rw [noPlan] at waiting
    cases waiting
  pendingSeats count waiting := by
    rw [noSeats] at waiting
    cases waiting
  seats := seats
  period := period
  settled _ := by simp [Subscription.hasPendingChange, noPlan, noSeats]

/-- An active subscription is neither in trial nor cancelled. -/
theorem settled_of_active (active : subscription.status = .active) :
    subscription.status = .trial ∨ subscription.status = .cancelled → subscription.hasPendingChange = false := by
  rw [active]
  simp

/-- A committed change leaves a seat at least: the waiting seat cap, the seats the waiting plan
includes, or the cap in force. -/
theorem committedSeats_pos (wellFormed : subscription.WellFormed store) {targetPlan : Plan}
    (catalog : ∀ plan ∈ store.plans, 1 ≤ plan.maxSeatsIncluded)
    (found : store.plan? (subscription.pendingPlan.getD subscription.plan) = some targetPlan) :
    1 ≤ subscription.committedSeats targetPlan := by
  unfold Subscription.committedSeats
  cases waitingSeats : subscription.pendingMaxSeats with
  | some seats => exact (wellFormed.pendingSeats seats waitingSeats).1
  | none =>
    cases subscription.pendingPlan with
    | some _ => exact catalog targetPlan (List.mem_of_find?_eq_some found)
    | none => exact wellFormed.seats

end Subscription.WellFormed

section Steps

variable {settings : Config} {now : Moment} {headcount : List (Uuid × Int)} {store : Store}
  {current next : Subscription}

/-- A revision the ledger makes keeps the rules: each operation checked what its change needs. -/
theorem Revises.wellFormed (catalog : ∀ plan ∈ store.plans, 1 ≤ plan.maxSeatsIncluded)
    (period : 0 ≤ settings.period.seconds) {revision : Revision}
    (revises : Revises settings now headcount store current revision next) (wellFormed : current.WellFormed store) :
    next.WellFormed store := by
  cases revises with
  | downgrade target currentPlan active found _ different currentFound notHigher =>
    refine ⟨fun planId waiting => ?_, wellFormed.pendingSeats, wellFormed.seats, wellFormed.period,
      Subscription.WellFormed.settled_of_active active⟩
    obtain rfl : target.id = planId := Option.some.inj waiting
    exact ⟨different, target, currentPlan, found, currentFound, notHigher⟩
  | raiseSeats seats active positive _ =>
    refine ⟨wellFormed.pendingPlan, fun _ waiting => ?_, positive, wellFormed.period,
      Subscription.WellFormed.settled_of_active active⟩
    cases waiting
  | lowerSeats seats active positive fewer =>
    refine ⟨wellFormed.pendingPlan, fun count waiting => ?_, wellFormed.seats, wellFormed.period,
      Subscription.WellFormed.settled_of_active active⟩
    obtain rfl : seats = count := Option.some.inj waiting
    exact ⟨positive, fewer⟩
  | keepSeats active _ =>
    refine ⟨wellFormed.pendingPlan, fun _ waiting => ?_, wellFormed.seats, wellFormed.period,
      Subscription.WellFormed.settled_of_active active⟩
    cases waiting
  | cancel _ => exact .of_nothing_waiting rfl rfl wellFormed.seats wellFormed.period
  | withdraw _ => exact .of_nothing_waiting rfl rfl wellFormed.seats wellFormed.period
  | commit targetPlan _ _ _ _ found _ =>
    exact .of_nothing_waiting rfl rfl (wellFormed.committedSeats_pos catalog found) wellFormed.period
  | commitRolling targetPlan periodEnd _ _ _ found _ rolled =>
    exact .of_nothing_waiting rfl rfl (wellFormed.committedSeats_pos catalog found) (Moment.le_of_shift? period rolled)

/-- A payment keeps the rules, for an invoice of a seat at least: a checkout or an upgrade
drops what waited and starts a period no later than it ends, and extra seats on the plan in
force drop a waiting decrease. -/
theorem PaidRevision.wellFormed {paidAt : Moment} {invoice : Invoice} {revised : Subscription}
    (seats : 1 ≤ invoice.seats) (period : 0 ≤ settings.period.seconds)
    (revision : PaidRevision settings.period paidAt invoice current revised) (wellFormed : current.WellFormed store) :
    revised.WellFormed store := by
  cases revision with
  | renew _ _ finish shifted => exact .of_nothing_waiting rfl rfl seats (Moment.le_of_shift? period shifted)
  | switch _ finish shifted =>
    exact .of_nothing_waiting rfl rfl seats
      (Moment.le_trans (Moment.le_of_shift? period shifted) (Moment.le_latest_left finish current.periodEnd))
  | seats _ _ =>
    refine ⟨wellFormed.pendingPlan, fun _ waiting => ?_, seats, wellFormed.period, fun held => ?_⟩
    · cases waiting
    · -- the status stays, and only a waiting plan could be left, which none was
      have nothingWaited := wellFormed.settled held
      simp only [Subscription.hasPendingChange, Bool.or_eq_false_iff] at nothingWaited ⊢
      exact ⟨nothingWaited.1, rfl⟩
  | stale _ _ => exact wellFormed

/-- An expiry move keeps the rules: it moves a subscription to expired or past due. -/
theorem ExpiryMove.wellFormed {statuses : List SubscriptionStatus} {cutoff : Moment} {target : SubscriptionStatus}
    (move : ExpiryMove settings now statuses cutoff target) {stored : Subscription}
    (wellFormed : stored.WellFormed store) : (Store.expired statuses cutoff target now stored).WellFormed store := by
  unfold Store.expired
  split
  · refine ⟨wellFormed.pendingPlan, wellFormed.pendingSeats, wellFormed.seats, wellFormed.period, fun held => ?_⟩
    cases move <;> simp at held
  · exact wellFormed

/-- Every record step keeps the rules of the subscription it writes, on a well-formed store, for
periods and trials that are not negative. -/
theorem RecordStep.wellFormed (wellFormed : store.WellFormed) (period : 0 ≤ settings.period.seconds)
    (trial : 0 ≤ settings.trial.seconds) {kind : WriteKind} {before after : Option Subscription}
    (step : RecordStep settings now headcount store kind before after)
    (prior : ∀ old, before = some old → old.WellFormed store) : ∀ new, after = some new → new.WellFormed store := by
  cases step with
  | keep => exact prior
  | start _ plan _ _ found _ ends =>
    rintro _ ⟨⟩
    exact .of_nothing_waiting rfl rfl (wellFormed.catalog plan (List.mem_of_find?_eq_some found))
      (Moment.le_of_shift? trial ends)
  | revise current next _ revises =>
    rintro _ ⟨⟩
    exact (revises.wellFormed wellFormed.catalog period (prior current rfl)).stamp next.updatedAt _
  | opened _ invoice _ _ _ found _ _ shifted =>
    rintro _ ⟨⟩
    exact .of_nothing_waiting rfl rfl (wellFormed.invoices invoice (List.mem_of_find?_eq_some found)).seats
      (Moment.le_of_shift? period shifted)
  | settled _ invoice _ current _ found _ _ revision =>
    rintro _ ⟨⟩
    have seats := (wellFormed.invoices invoice (List.mem_of_find?_eq_some found)).seats
    exact (revision.wellFormed seats period (prior current rfl)).stamp now _
  | expire _ _ _ move stored =>
    rintro _ ⟨⟩
    exact move.wellFormed (prior stored rfl)

end Steps

/-! ## The invoices -/

namespace DistinctProviderIds

variable {invoices : List Invoice}

/-- Rewriting invoices without touching their provider ids keeps the ids distinct. -/
theorem map {rewrite : Invoice → Invoice} (distinct : DistinctProviderIds invoices)
    (keeps : ∀ invoice ∈ invoices, (rewrite invoice).providerInvoiceId = invoice.providerInvoiceId) :
    DistinctProviderIds (invoices.map rewrite) := by
  intro first firstMember second secondMember providerId firstLinked secondLinked
  obtain ⟨firstBefore, firstBeforeMember, rfl⟩ := List.mem_map.mp firstMember
  obtain ⟨secondBefore, secondBeforeMember, rfl⟩ := List.mem_map.mp secondMember
  rw [keeps firstBefore firstBeforeMember] at firstLinked
  rw [keeps secondBefore secondBeforeMember] at secondLinked
  rw [distinct firstBefore firstBeforeMember secondBefore secondBeforeMember providerId firstLinked secondLinked]

/-- Storing an invoice with no provider id keeps the ids distinct. -/
theorem upsert {sameKey : Invoice → Invoice → Bool} {entry : Invoice} (distinct : DistinctProviderIds invoices)
    (unlinked : entry.providerInvoiceId = none) : DistinctProviderIds (Store.upsert sameKey entry invoices) := by
  intro first firstMember second secondMember providerId firstLinked secondLinked
  rcases Store.mem_upsert firstMember with rfl | firstBefore
  · rw [unlinked] at firstLinked
    cases firstLinked
  rcases Store.mem_upsert secondMember with rfl | secondBefore
  · rw [unlinked] at secondLinked
    cases secondLinked
  exact distinct first firstBefore second secondBefore providerId firstLinked secondLinked

/-- Linking an invoice to a provider id no other invoice carries keeps the ids distinct. -/
theorem linked (keyed : (invoices.map Invoice.id).Nodup) (distinct : DistinctProviderIds invoices) {id : Uuid}
    {providerId url : String} {expiresAt : Option Moment}
    (unclaimed : ∀ invoice ∈ invoices, invoice.id ≠ id → invoice.providerInvoiceId ≠ some providerId) :
    DistinctProviderIds (invoices.map (Store.linked id providerId url expiresAt)) := by
  -- an invoice keeps its provider id unless it is the one linked, which gets `providerId`
  have linkedId : ∀ invoice, (Store.linked id providerId url expiresAt invoice).providerInvoiceId =
      if invoice.id = id then some providerId else invoice.providerInvoiceId := by
    intro invoice
    unfold Store.linked
    by_cases named : invoice.id = id <;> simp [named]
  intro first firstMember second secondMember shared firstLinked secondLinked
  obtain ⟨firstBefore, firstBeforeMember, rfl⟩ := List.mem_map.mp firstMember
  obtain ⟨secondBefore, secondBeforeMember, rfl⟩ := List.mem_map.mp secondMember
  rw [linkedId] at firstLinked secondLinked
  by_cases firstNamed : firstBefore.id = id <;> by_cases secondNamed : secondBefore.id = id
  · rw [List.inj_on_of_nodup_map keyed firstBeforeMember secondBeforeMember (firstNamed.trans secondNamed.symm)]
  · rw [if_pos firstNamed] at firstLinked
    rw [if_neg secondNamed, ← firstLinked] at secondLinked
    exact absurd secondLinked (unclaimed secondBefore secondBeforeMember secondNamed)
  · rw [if_pos secondNamed] at secondLinked
    rw [if_neg firstNamed, ← secondLinked] at firstLinked
    exact absurd firstLinked (unclaimed firstBefore firstBeforeMember firstNamed)
  · rw [if_neg firstNamed] at firstLinked
    rw [if_neg secondNamed] at secondLinked
    rw [distinct firstBefore firstBeforeMember secondBefore secondBeforeMember shared firstLinked secondLinked]

end DistinctProviderIds

/-- A transition with no payment never marks an invoice paid: it keeps the rules of the invoice. -/
theorem Store.moved_wellFormed {target : InvoiceStatus} {invoice result : Invoice}
    (moving : Store.moved target none invoice = some result) (wellFormed : invoice.WellFormed) : result.WellFormed := by
  unfold Store.moved at moving
  split at moving
  · rename_i noPayment
    cases noPayment
  · cases moving
  · obtain rfl := Option.some.inj moving
    rename_i _ notPaid
    exact ⟨wellFormed.seats, fun paid => absurd rfl (notPaid paid)⟩

/-! ## Every call -/

section Calls

variable {settings : Config} {now : Moment} {headcount : List (Uuid × Int)} {store : Store} {kind : WriteKind}
  {write : Store.Write}

/-- A call that leaves the subscriptions alone. -/
private theorem oneEach_of_subscriptions (same : (write.apply store).subscriptions = store.subscriptions)
    (distinct : (store.subscriptions.map Subscription.company).Nodup) :
    ((write.apply store).subscriptions.map Subscription.company).Nodup := by
  rw [same]
  exact distinct

/-- Every call the core makes keeps one subscription per company: a new one is stored only for
a company without one, and a revision keeps the company of the subscription it revises. -/
theorem CoreWrite.oneEach_apply (keyed : store.Keyed) (made : CoreWrite settings now headcount store kind write)
    (fresh : write.Fresh store) (distinct : (store.subscriptions.map Subscription.company).Nodup) :
    ((write.apply store).subscriptions.map Subscription.company).Nodup := by
  cases made with
  | trial =>
    rcases Store.apply_insertSubscription_alone store _ with unchanged | ⟨alone, inserted⟩
    · rw [unchanged]
      exact distinct
    · rw [inserted]
      exact Store.companies_upsert_new fresh alone distinct
  | revise current next _ read revises =>
    rcases Store.apply_updateSubscription store next current.version with unchanged | ⟨-, updated⟩
    · rw [unchanged]
      exact distinct
    · rw [updated]
      show ((store.subscriptions.map (Store.bumped next current.version)).map Subscription.company).Nodup
      rw [Store.map_keys_of_keep Subscription.company (fun old member => ?_)]
      · exact distinct
      unfold Store.bumped
      split
      · rename_i sameId
        -- on keyed records the subscription rewritten is the one read
        obtain rfl : old = current := List.inj_on_of_nodup_map keyed.subscriptions member read
          ((beq_iff_eq.mp sameId).trans revises.id_eq)
        exact revises.company_eq
      · rfl
  | settle _ invoice current _ _ effect _ read made =>
    rcases Store.apply_settleInvoice store _ _ effect with unchanged | ⟨_, stored, -, -, settles, settled⟩
    · rw [unchanged]
      exact distinct
    rw [settled]
    show ((Store.upsert (fun new old => new.id == old.id) stored store.subscriptions).map Subscription.company).Nodup
    cases effect with
    | insert created =>
      obtain ⟨alone, rfl⟩ := settles
      exact Store.companies_upsert_new fresh alone distinct
    | update next version =>
      obtain ⟨-, rfl⟩ := settles
      cases current with
      | none =>
        obtain ⟨_, wrong, -⟩ := Webhook.paidEffect_none made
        cases wrong
      | some current =>
        obtain ⟨rfl, revised, revision, rfl⟩ := paidEffect_update made
        have member : current ∈ store.subscriptions :=
          List.mem_of_find?_eq_some (Store.subscriptionOf?_of_read read)
        refine Store.companies_upsert distinct (fun old oldMember sameId => ?_)
          (fun fresh => absurd revision.id_eq.symm (fresh current member))
        -- the subscription replaced is the one read, whose company the payment keeps
        obtain rfl : old = current := List.inj_on_of_nodup_map keyed.subscriptions oldMember member
          (sameId.trans revision.id_eq)
        exact revision.company_eq.symm
  | expire statuses cutoff target _ =>
    rcases Store.apply_updateExpiredToStatus store statuses cutoff target now with unchanged | updated
    · rw [unchanged]
      exact distinct
    · rw [updated]
      show ((store.subscriptions.map (Store.expired statuses cutoff target now)).map Subscription.company).Nodup
      rw [Store.map_keys_of_keep Subscription.company (fun old _ => ?_)]
      · exact distinct
      unfold Store.expired
      split <;> rfl
  | bill => exact oneEach_of_subscriptions (Store.subscriptions_apply_insertInvoice _ _) distinct
  | billDirect => exact oneEach_of_subscriptions (Store.subscriptions_apply_insertInvoice _ _) distinct
  | setAside => exact oneEach_of_subscriptions (Store.subscriptions_apply_transitionInvoice _ _ _ _) distinct
  | link => exact oneEach_of_subscriptions (Store.subscriptions_apply_attachProviderInvoice _ _ _ _ _) distinct
  | close => exact oneEach_of_subscriptions (Store.subscriptions_apply_transitionInvoice _ _ _ _) distinct
  | record => exact oneEach_of_subscriptions (Store.subscriptions_apply_appendEvent _ _) distinct

/-- Every call the core makes keeps the rules of each stored subscription, read from the step
it makes on the record (`RecordStep`). -/
theorem Store.WellFormed.subscriptions_apply (wellFormed : store.WellFormed) (period : 0 ≤ settings.period.seconds)
    (trial : 0 ≤ settings.trial.seconds) (made : CoreWrite settings now headcount store kind write)
    (fresh : write.Fresh store) :
    ∀ subscription ∈ (write.apply store).subscriptions, subscription.WellFormed (write.apply store) := by
  intro subscription member
  have step := made.recordStep wellFormed.keyed fresh subscription.id
  rw [(wellFormed.keyed.apply write).subscription?_of_mem member] at step
  have prior : ∀ old, store.subscription? subscription.id = some old → old.WellFormed store :=
    fun old found => wellFormed.subscriptions old (List.mem_of_find?_eq_some found)
  exact (step.wellFormed wellFormed period trial prior subscription rfl).of_plans (Store.plans_apply store write)

/-- A call that leaves the invoices alone. -/
private theorem invoices_of_invoices (same : (write.apply store).invoices = store.invoices)
    (wellFormed : ∀ invoice ∈ store.invoices, invoice.WellFormed) :
    ∀ invoice ∈ (write.apply store).invoices, invoice.WellFormed := by
  rw [same]
  exact wellFormed

/-- Every call the core makes keeps the rules of each invoice, when a new invoice it stores bills
a seat at least: no call but a settlement marks an invoice paid, and a settlement records the
payment's time and the subscription it wrote. -/
theorem CoreWrite.invoices_apply (made : CoreWrite settings now headcount store kind write)
    (bills : write.BillsSeats) (wellFormed : ∀ invoice ∈ store.invoices, invoice.WellFormed) :
    ∀ invoice ∈ (write.apply store).invoices, invoice.WellFormed := by
  -- a new invoice is pending, so only its seats are to be shown
  have billed : ∀ request id expiresAt, 1 ≤ request.seats →
      ∀ invoice ∈ ((Store.Write.insertInvoice (Invoicing.pendingInvoice request id now expiresAt)).apply store).invoices,
        invoice.WellFormed := by
    intro request id expiresAt positive
    rcases Store.apply_insertInvoice store (Invoicing.pendingInvoice request id now expiresAt) with
      unchanged | ⟨-, inserted⟩
    · rw [unchanged]
      exact wellFormed
    rw [inserted]
    dsimp only
    intro invoice member
    rcases Store.mem_upsert member with rfl | old
    · exact ⟨positive, fun paid => by cases paid⟩
    · exact wellFormed invoice old
  -- a transition with no payment keeps the rules of the invoice it moves
  have transitioned : ∀ id target, ∀ invoice ∈ ((Store.Write.transitionInvoice id target none).apply store).invoices,
      invoice.WellFormed := by
    intro id target
    rcases Store.apply_transitionInvoice store id target none with
      unchanged | ⟨moving, result, found, -, moved, changed⟩
    · rw [unchanged]
      exact wellFormed
    rw [changed]
    intro invoice member
    obtain ⟨old, oldMember, rfl⟩ := List.mem_map.mp member
    unfold Store.replacing
    split
    · exact Store.moved_wellFormed moved (wellFormed moving (List.mem_of_find?_eq_some found))
    · exact wellFormed old oldMember
  cases made with
  | bill request id expiresAt => exact billed request id expiresAt bills
  | billDirect request id expiresAt => exact billed request id expiresAt bills
  | setAside id => exact transitioned id .cancelled
  | close id target => exact transitioned id target
  | link id providerId url expiresAt =>
    rcases Store.apply_attachProviderInvoice store id providerId url expiresAt with unchanged | attached
    · rw [unchanged]
      exact wellFormed
    rw [attached]
    intro invoice member
    obtain ⟨old, oldMember, rfl⟩ := List.mem_map.mp member
    have oldWellFormed := wellFormed old oldMember
    unfold Store.linked
    split
    · exact ⟨oldWellFormed.seats, oldWellFormed.paid⟩
    · exact oldWellFormed
  | settle id _ _ _ payment effect =>
    rcases Store.apply_settleInvoice store id payment effect with unchanged | ⟨_, stored, -, -, -, settled⟩
    · rw [unchanged]
      exact wellFormed
    rw [settled]
    intro invoice member
    obtain ⟨old, oldMember, rfl⟩ := List.mem_map.mp member
    unfold Store.paidBy
    split
    · exact ⟨(wellFormed old oldMember).seats, fun _ => ⟨rfl, rfl⟩⟩
    · exact wellFormed old oldMember
  | trial => exact invoices_of_invoices (Store.invoices_apply_insertSubscription _ _) wellFormed
  | revise => exact invoices_of_invoices (Store.invoices_apply_updateSubscription _ _ _) wellFormed
  | expire => exact invoices_of_invoices (Store.invoices_apply_updateExpiredToStatus _ _ _ _ _) wellFormed
  | record => exact invoices_of_invoices (Store.invoices_apply_appendEvent _ _) wellFormed

/-- Every call the core makes keeps the provider ids distinct: a new invoice has none, the store
links one only while no other invoice carries it, and nothing else touches them. -/
theorem CoreWrite.providerIds_apply (keyed : store.Keyed) (made : CoreWrite settings now headcount store kind write)
    (distinct : DistinctProviderIds store.invoices) : DistinctProviderIds (write.apply store).invoices := by
  have billed : ∀ request id expiresAt,
      DistinctProviderIds ((Store.Write.insertInvoice (Invoicing.pendingInvoice request id now expiresAt)).apply store).invoices := by
    intro request id expiresAt
    rcases Store.apply_insertInvoice store (Invoicing.pendingInvoice request id now expiresAt) with
      unchanged | ⟨-, inserted⟩
    · rw [unchanged]
      exact distinct
    · rw [inserted]
      dsimp only
      exact distinct.upsert (show (Invoicing.pendingInvoice request id now expiresAt).providerInvoiceId = none from rfl)
  have transitioned : ∀ id target,
      DistinctProviderIds ((Store.Write.transitionInvoice id target none).apply store).invoices := by
    intro id target
    rcases Store.apply_transitionInvoice store id target none with
      unchanged | ⟨moving, result, found, -, moved, changed⟩
    · rw [unchanged]
      exact distinct
    rw [changed]
    refine distinct.map fun old member => ?_
    unfold Store.replacing
    split
    · rename_i named
      -- on keyed records the invoice moved is the one found
      obtain rfl := keyed.eq_of_invoice? found member (beq_iff_eq.mp named)
      unfold Store.moved at moved
      split at moved <;> cases moved <;> rfl
    · rfl
  cases made with
  | bill request id expiresAt => exact billed request id expiresAt
  | billDirect request id expiresAt => exact billed request id expiresAt
  | setAside id => exact transitioned id .cancelled
  | close id target => exact transitioned id target
  | link id providerId url expiresAt =>
    rcases Store.apply_attachProviderInvoice_unclaimed store id providerId url expiresAt with
      unchanged | ⟨unclaimed, attached⟩
    · rw [unchanged]
      exact distinct
    · rw [attached]
      exact distinct.linked keyed.invoices unclaimed
  | settle id _ _ _ payment effect =>
    rcases Store.apply_settleInvoice store id payment effect with unchanged | ⟨_, stored, -, -, -, settled⟩
    · rw [unchanged]
      exact distinct
    rw [settled]
    refine distinct.map fun old _ => ?_
    unfold Store.paidBy
    split <;> rfl
  | trial => rw [Store.invoices_apply_insertSubscription]; exact distinct
  | revise => rw [Store.invoices_apply_updateSubscription]; exact distinct
  | expire => rw [Store.invoices_apply_updateExpiredToStatus]; exact distinct
  | record => rw [Store.invoices_apply_appendEvent]; exact distinct

/-- Every call the core makes keeps the ledger well formed, for periods and trials that are not
negative, when a new invoice it stores bills a seat at least and new records get fresh
identifiers. -/
theorem Store.WellFormed.apply (wellFormed : store.WellFormed) (period : 0 ≤ settings.period.seconds)
    (trial : 0 ≤ settings.trial.seconds) (made : CoreWrite settings now headcount store kind write)
    (bills : write.BillsSeats) (fresh : write.Fresh store) : (write.apply store).WellFormed where
  keyed := wellFormed.keyed.apply write
  catalog := by
    rw [Store.plans_apply]
    exact wellFormed.catalog
  oneEach := made.oneEach_apply wellFormed.keyed fresh wellFormed.oneEach
  subscriptions := wellFormed.subscriptions_apply period trial made fresh
  invoices := made.invoices_apply bills wellFormed.invoices
  providerIds := made.providerIds_apply wellFormed.keyed wellFormed.providerIds

/-- The ledger's own operations bill a seat at least: only an invoice asked for directly may bill
none. -/
theorem CoreWrite.billsSeats (catalog : ∀ plan ∈ store.plans, 1 ≤ plan.maxSeatsIncluded)
    (made : CoreWrite settings now headcount store kind write) (direct : kind ≠ .billDirect) : write.BillsSeats := by
  cases made with
  | bill _ _ _ requested => exact requested.seats_pos catalog
  | billDirect => exact absurd rfl direct
  | trial => trivial
  | revise => trivial
  | setAside => trivial
  | link => trivial
  | close => trivial
  | settle => trivial
  | expire => trivial
  | record => trivial

end Calls

/-- A store holding only a catalog whose plans include a seat at least is well formed. -/
theorem Store.WellFormed.of_catalog {store : Store} (noSubscriptions : store.subscriptions = [])
    (noInvoices : store.invoices = []) (catalog : ∀ plan ∈ store.plans, 1 ≤ plan.maxSeatsIncluded) :
    store.WellFormed where
  keyed := ⟨by simp [noSubscriptions], by simp [noInvoices]⟩
  catalog := catalog
  oneEach := by simp [noSubscriptions]
  subscriptions := by simp [noSubscriptions]
  invoices := by simp [noInvoices]
  providerIds := by simp [DistinctProviderIds, noInvoices]

/-! ## What the invariant checks find -/

/-- Run on the records in memory with no fault armed, the checks of waiting plans, paid invoices
and waiting seat caps find nothing in `store`. -/
def Store.PassesChecks (store : Store) : Prop :=
  ∀ world : World, world.store = store → Steady world →
    (Invariants.pendingPlanNotUpgrade.run.run world).1 = .ok [] ∧
      (Invariants.paidInvoiceHasPaidAt.run.run world).1 = .ok [] ∧
      (Invariants.pendingSeatsPositive.run.run world).1 = .ok []

namespace Calls

variable {world : World} (steady : Steady world)
include steady

theorem listWithPendingChanges_run (dueBy : Option Moment) :
    (listWithPendingChanges dueBy).run.run world = (.ok (world.store.listWithPendingChanges dueBy), world) := by
  rw [listWithPendingChanges, guarded_run steady.noFaults, backed_run steady.inMemory, readStore_run]

theorem paidInvoicesMissingPaidAt_run :
    paidInvoicesMissingPaidAt.run.run world = (.ok world.store.paidInvoicesMissingPaidAt, world) := by
  rw [paidInvoicesMissingPaidAt, guarded_run steady.noFaults, backed_run steady.inMemory, readStore_run]

theorem getPlan_run (id : String) : (getPlan id).run.run world = (.ok (world.store.plan? id), world) := by
  rw [getPlan, guarded_run steady.noFaults, backed_run steady.inMemory, readStore_run]

end Calls

theorem Catalog.getPlan_run {world : World} (steady : Steady world) {id : String} {plan : Plan}
    (found : world.store.plan? id = some plan) : (Catalog.getPlan id).run.run world = (.ok plan, world) := by
  unfold Catalog.getPlan
  rw [run_bind, Calls.getPlan_run steady, found]
  rfl

/-- A fold whose every step, from nothing found, finds nothing and leaves the world as it is,
finds nothing. -/
theorem foldlM_run_quiet {α β : Type} (world : World) (visit : List β → α → BillingM (List β)) :
    ∀ items : List α, (∀ item ∈ items, (visit [] item).run.run world = (.ok [], world)) →
      (items.foldlM visit []).run.run world = (.ok [], world) := by
  intro items
  induction items with
  | nil => intro _; rfl
  | cons item rest inductionHypothesis =>
    intro quiet
    rw [List.foldlM_cons, run_bind, quiet item List.mem_cons_self]
    exact inductionHypothesis fun other member => quiet other (List.mem_cons_of_mem item member)

/-- The listing of waiting changes holds stored subscriptions only. -/
theorem Store.mem_of_mem_listWithPendingChanges {store : Store} {dueBy : Option Moment} {subscription : Subscription}
    (listed : subscription ∈ store.listWithPendingChanges dueBy) : subscription ∈ store.subscriptions :=
  (List.mem_filter.mp (List.mem_mergeSort.mp listed)).1

namespace Store.WellFormed

variable {world : World}

theorem paidInvoicesMissingPaidAt_eq_nil {store : Store} (wellFormed : store.WellFormed) :
    store.paidInvoicesMissingPaidAt = [] := by
  unfold Store.paidInvoicesMissingPaidAt
  rw [List.filter_eq_nil_iff]
  intro invoice member missing
  simp only [Bool.and_eq_true, beq_iff_eq] at missing
  have recorded := ((wellFormed.invoices invoice member).paid missing.1).1
  cases stamped : invoice.paidAt <;> simp_all

/-- Every waiting plan is found in the catalog and is no upgrade, so the check of waiting plans
finds nothing. -/
theorem pendingPlanNotUpgrade_run (wellFormed : world.store.WellFormed) (steady : Steady world) :
    Invariants.pendingPlanNotUpgrade.run.run world = (.ok [], world) := by
  unfold Invariants.pendingPlanNotUpgrade
  rw [run_bind, Calls.listWithPendingChanges_run steady]
  dsimp only
  refine foldlM_run_quiet world _ _ fun subscription listed => ?_
  have rules := wellFormed.subscriptions subscription (Store.mem_of_mem_listWithPendingChanges listed)
  split
  · rfl
  · rename_i planId waiting
    obtain ⟨-, target, current, targetFound, currentFound, notHigher⟩ := rules.pendingPlan planId waiting
    simp only [run_bind, Webhook.run_attempt, Catalog.getPlan_run steady currentFound,
      Catalog.getPlan_run steady targetFound, Invariants.planChangeProblem, notHigher, Bool.false_eq_true, ↓reduceIte]
    rfl

theorem paidInvoiceHasPaidAt_run (wellFormed : world.store.WellFormed) (steady : Steady world) :
    Invariants.paidInvoiceHasPaidAt.run.run world = (.ok [], world) := by
  unfold Invariants.paidInvoiceHasPaidAt
  rw [run_bind, Calls.paidInvoicesMissingPaidAt_run steady, wellFormed.paidInvoicesMissingPaidAt_eq_nil]
  rfl

/-- Every waiting seat cap is at least one, so the check of waiting seat caps finds nothing. -/
theorem pendingSeatsPositive_run (wellFormed : world.store.WellFormed) (steady : Steady world) :
    Invariants.pendingSeatsPositive.run.run world = (.ok [], world) := by
  unfold Invariants.pendingSeatsPositive
  rw [run_bind, Calls.listWithPendingChanges_run steady]
  dsimp only
  rw [List.filter_eq_nil_iff.mpr ?_]
  · rfl
  intro subscription listed
  have rules := wellFormed.subscriptions subscription (Store.mem_of_mem_listWithPendingChanges listed)
  cases waiting : subscription.pendingMaxSeats with
  | none => simp
  | some seats =>
    have positive := (rules.pendingSeats seats waiting).1
    simp only [decide_eq_true_eq, Int.not_lt]
    exact positive

theorem passesChecks {store : Store} (wellFormed : store.WellFormed) : store.PassesChecks := by
  intro world held steady
  subst held
  rw [wellFormed.pendingPlanNotUpgrade_run steady, wellFormed.paidInvoiceHasPaidAt_run steady,
    wellFormed.pendingSeatsPositive_run steady]
  exact ⟨rfl, rfl, rfl⟩

end Store.WellFormed

end SeatBilling
