import SeatBilling.Proofs.Store.Writes

/-!
# Subscription versions

A stored subscription carries a version, and every write that changes it stores the next
version: an update and a settlement only while the version they name is the one stored, the
bulk expiry for every subscription it moves. A new subscription is stored under an identifier
the store does not hold. So the subscription under an identifier only moves forward through
its versions (`VersionStep`), and when the store shows a version it showed before, it holds
the very record it held then (`NotBehind`).

This is what makes a compare-and-set write safe among concurrent callers: a write of a
subscription read at version `v` goes through only while the store still holds version `v`,
hence only while it holds the record as it was read, whatever other callers wrote in between.
-/

namespace SeatBilling.Store

open SeatBilling.Time

/-- What one write may do to the subscription stored under one identifier: leave it, store a
first one there, or store the next version of the one there. -/
inductive VersionStep : Option Subscription → Option Subscription → Prop
  | keep (stored : Option Subscription) : VersionStep stored stored
  | create (created : Subscription) : VersionStep none (some created)
  | bump {old new : Subscription} (next : new.version = old.version + 1) : VersionStep (some old) (some new)

section Lookups

variable {store : Store}

/-- Lookups by identifier read the subscriptions alone. -/
theorem subscription?_eq_of_subscriptions {other : Store} (same : other.subscriptions = store.subscriptions)
    (id : Uuid) : other.subscription? id = store.subscription? id := by
  unfold subscription?
  rw [same]

theorem subscription?_map {rewrite : Subscription → Subscription}
    (keeps : ∀ subscription, (rewrite subscription).id = subscription.id) (id : Uuid) :
    ({ store with subscriptions := store.subscriptions.map rewrite } : Store).subscription? id =
      (store.subscription? id).map rewrite :=
  find?_map_of_keep Subscription.id keeps store.subscriptions id

theorem subscription?_upsert (subscription : Subscription) (id : Uuid) :
    ({ store with subscriptions := upsert (fun new old => new.id == old.id) subscription store.subscriptions } :
        Store).subscription? id =
      if subscription.id = id then some subscription else store.subscription? id :=
  find?_upsert Subscription.id subscription store.subscriptions id

/-- A settlement rewrites the invoices and stores one subscription under its identifier. -/
theorem subscription?_settled (invoices : List Invoice) (subscription : Subscription) (id : Uuid) :
    ({ store with
        invoices := invoices
        subscriptions := upsert (fun new old => new.id == old.id) subscription store.subscriptions } :
        Store).subscription? id =
      if subscription.id = id then some subscription else store.subscription? id :=
  find?_upsert Subscription.id subscription store.subscriptions id

/-- A rewrite that keeps each subscription or stores its next version is one version step
under every identifier. -/
theorem versionStep_map {rewrite : Subscription → Subscription}
    (moves : ∀ old, store.subscription? old.id = some old → rewrite old = old ∨ (rewrite old).version = old.version + 1)
    (id : Uuid) : VersionStep (store.subscription? id) ((store.subscription? id).map rewrite) := by
  cases found : store.subscription? id with
  | none => exact .keep none
  | some old =>
    have foundOld : store.subscription? old.id = some old := by rw [subscription?_id found]; exact found
    rcases moves old foundOld with same | next
    · rw [Option.map_some, same]
      exact .keep _
    · exact .bump next

/-- A write of a subscription under its identifier, where the store held none or the version
before it, is one version step under every identifier. -/
theorem versionStep_upsert {stored : Subscription}
    (fresh : store.subscription? stored.id = none ∨
      ∃ old, store.subscription? stored.id = some old ∧ stored.version = old.version + 1) (id : Uuid) :
    VersionStep (store.subscription? id)
      (({ store with subscriptions := upsert (fun new old => new.id == old.id) stored store.subscriptions } :
        Store).subscription? id) := by
  rw [subscription?_upsert]
  split
  · rename_i sameId
    subst sameId
    rcases fresh with absent | ⟨old, found, next⟩
    · rw [absent]
      exact .create stored
    · rw [found]
      exact .bump next
  · exact .keep _

end Lookups

/-- Every write moves the subscription under each identifier by one version step at most,
when the records it creates get fresh identifiers. -/
theorem versionStep_apply {store : Store} {write : Write} (fresh : write.Fresh store) (id : Uuid) :
    VersionStep (store.subscription? id) ((write.apply store).subscription? id) := by
  cases write with
  | insertSubscription subscription =>
    rcases apply_insertSubscription store subscription with unchanged | inserted
    · rw [unchanged]
      exact .keep _
    · rw [inserted]
      exact versionStep_upsert (.inl fresh) id
  | updateSubscription subscription version =>
    rcases apply_updateSubscription store subscription version with unchanged | ⟨found, updated⟩
    · rw [unchanged]
      exact .keep _
    · rw [updated, subscription?_map (fun old => bumped_id subscription old version)]
      -- only the subscription read at `version` is rewritten, to the version after it
      refine versionStep_map (fun old foundOld => ?_) id
      unfold bumped
      split
      · rename_i sameId
        rw [← beq_iff_eq.mp sameId, foundOld] at found
        simp only [Option.map_some, Option.some.injEq] at found
        exact .inr (by rw [found])
      · exact .inl rfl
  | updateExpiredToStatus statuses cutoff target now =>
    rcases apply_updateExpiredToStatus store statuses cutoff target now with unchanged | updated
    · rw [unchanged]
      exact .keep _
    · rw [updated, subscription?_map (expired_id statuses cutoff target now)]
      refine versionStep_map (fun old _ => ?_) id
      unfold expired
      split
      · exact .inr rfl
      · exact .inl rfl
  | insertInvoice invoice =>
    rw [subscription?_eq_of_subscriptions (subscriptions_apply_insertInvoice store invoice)]
    exact .keep _
  | attachProviderInvoice invoice providerId url expiresAt =>
    rw [subscription?_eq_of_subscriptions (subscriptions_apply_attachProviderInvoice store invoice providerId url expiresAt)]
    exact .keep _
  | transitionInvoice invoice target payment =>
    rw [subscription?_eq_of_subscriptions (subscriptions_apply_transitionInvoice store invoice target payment)]
    exact .keep _
  | settleInvoice invoice payment effect =>
    rcases apply_settleInvoice store invoice payment effect with
      unchanged | ⟨_, stored, -, -, settles, settled⟩
    · rw [unchanged]
      exact .keep _
    · have sameSubscriptions :
          ((Write.settleInvoice invoice payment effect).apply store).subscriptions =
            ({ store with subscriptions := upsert (fun new old => new.id == old.id) stored store.subscriptions } :
              Store).subscriptions := by
        rw [settled]
      rw [subscription?_eq_of_subscriptions sameSubscriptions]
      refine versionStep_upsert ?_ id
      cases effect with
      | insert subscription =>
        obtain ⟨-, rfl⟩ := settles
        exact .inl fresh
      | update subscription expectedVersion =>
        obtain ⟨found, rfl⟩ := settles
        obtain ⟨old, foundOld, oldVersion⟩ := Option.map_eq_some_iff.mp found
        exact .inr ⟨old, foundOld, by rw [← oldVersion]⟩
  | appendEvent event =>
    rw [subscription?_eq_of_subscriptions (subscriptions_apply_appendEvent store event)]
    exact .keep _

/-! ## Reads that stay current -/

/-- The store holds `read` under its identifier, or a later version of it. -/
def NotBehind (read : Subscription) (store : Store) : Prop :=
  ∃ stored, store.subscription? read.id = some stored ∧ (stored = read ∨ read.version < stored.version)

theorem VersionStep.notBehind {read : Subscription} {before after : Option Subscription}
    (step : VersionStep before after)
    (current : ∃ stored, before = some stored ∧ (stored = read ∨ read.version < stored.version)) :
    ∃ stored, after = some stored ∧ (stored = read ∨ read.version < stored.version) := by
  obtain ⟨stored, rfl, sameOrLater⟩ := current
  cases step with
  | keep => exact ⟨stored, rfl, sameOrLater⟩
  | bump next =>
    refine ⟨_, rfl, .inr ?_⟩
    rcases sameOrLater with rfl | later <;> omega

theorem NotBehind.apply {read : Subscription} {store : Store} {write : Write} (current : NotBehind read store)
    (fresh : write.Fresh store) : NotBehind read (write.apply store) :=
  (versionStep_apply fresh read.id).notBehind current

theorem NotBehind.replay {read : Subscription} {store : Store} {writes : List Write}
    (current : NotBehind read store) (fresh : FreshRun store writes) : NotBehind read (store.replay writes) := by
  induction writes generalizing store with
  | nil => exact current
  | cons write writes inductionHypothesis => exact inductionHypothesis (current.apply fresh.1) fresh.2

/-- A subscription stored under its identifier is not behind itself. -/
theorem NotBehind.of_found {read : Subscription} {store : Store} (found : store.subscription? read.id = some read) :
    NotBehind read store :=
  ⟨read, found, .inl rfl⟩

/-- A store that is not behind a read and shows the read's version holds the read. -/
theorem NotBehind.eq_of_version {read stored : Subscription} {store : Store} (current : NotBehind read store)
    (found : store.subscription? read.id = some stored) (sameVersion : stored.version = read.version) :
    stored = read := by
  obtain ⟨held, foundHeld, sameOrLater⟩ := current
  rw [found, Option.some.injEq] at foundHeld
  subst foundHeld
  rcases sameOrLater with same | later
  · exact same
  · omega

/-! ## No lost updates

Positions in a run of store calls are counts of calls made: the store at position `count` is
`store.replay (writes.take count)`. -/

section Run

variable {store : Store} {writes : List Write}

theorem NotBehind.later (fresh : FreshRun store writes) {read : Subscription} {early late : Nat}
    (ordered : early ≤ late) (current : NotBehind read (store.replay (writes.take early))) :
    NotBehind read (store.replay (writes.take late)) := by
  obtain ⟨reached, freshRest⟩ := fresh.segment ordered
  rw [reached]
  exact current.replay freshRest

/-- A record stored at one position whose version the store shows again at a later one is held
at every position in between. -/
theorem subscription?_eq_of_version (fresh : FreshRun store writes) {early middle late : Nat}
    {read : Subscription} (first : early ≤ middle) (second : middle ≤ late)
    (stored : (store.replay (writes.take early)).subscription? read.id = some read)
    (shown : ((store.replay (writes.take late)).subscription? read.id).map (·.version) = some read.version) :
    (store.replay (writes.take middle)).subscription? read.id = some read := by
  obtain ⟨held, foundHeld, sameOrLater⟩ := (NotBehind.of_found stored).later fresh first
  have heldId : held.id = read.id := subscription?_id foundHeld
  -- the record held in between is not behind at the end either, where the read's version shows
  obtain ⟨last, foundLast, heldOrLater⟩ :=
    (NotBehind.of_found (heldId ▸ foundHeld : _ = some held)).later fresh second
  rw [heldId] at foundLast
  rw [foundLast, Option.map_some, Option.some.injEq] at shown
  rcases sameOrLater with same | readBefore
  · rw [foundHeld, same]
  · rcases heldOrLater with rfl | heldBefore <;> omega

/-- The store a compare-and-set update of `read` leaves, when it goes through: the read
record, held right before, replaced by the next version of `next`. -/
theorem updated_of_read (fresh : FreshRun store writes) {early late : Nat} {read next : Subscription}
    (ordered : early ≤ late) (stored : (store.replay (writes.take early)).subscription? read.id = some read)
    (sameId : next.id = read.id) (checked : ((store.replay (writes.take late)).subscription? next.id).map (·.version) =
      some read.version) :
    (store.replay (writes.take late)).subscription? read.id = some read := by
  rw [sameId] at checked
  exact subscription?_eq_of_version fresh ordered (Nat.le_refl late) stored checked

end Run

/-- What keeps concurrent writers of a subscription from losing each other's writes, along a
run of store calls from `store`. -/
structure NoLostUpdates (store : Store) (writes : List Write) : Prop where
  /-- Each call leaves the subscription under every identifier, stores a first one there, or
  stores the next version of it. -/
  steps : ∀ index, index < writes.length → ∀ id,
    VersionStep ((store.replay (writes.take index)).subscription? id)
      ((store.replay (writes.take (index + 1))).subscription? id)
  /-- A version shown again is the record shown before, held all along in between. -/
  versionOnce : ∀ {early middle late : Nat} {read : Subscription}, early ≤ middle → middle ≤ late →
    (store.replay (writes.take early)).subscription? read.id = some read →
    ((store.replay (writes.take late)).subscription? read.id).map (·.version) = some read.version →
    (store.replay (writes.take middle)).subscription? read.id = some read
  /-- An update of a record read earlier, at the version read, changes nothing, or replaces
  the read record itself, held right before it, by the next version of what the writer made
  of it. -/
  updates : ∀ {early late : Nat} {read next : Subscription}, early ≤ late →
    (store.replay (writes.take early)).subscription? read.id = some read → next.id = read.id →
    writes[late]? = some (.updateSubscription next read.version) →
    store.replay (writes.take (late + 1)) = store.replay (writes.take late) ∨
      (store.replay (writes.take late)).subscription? read.id = some read ∧
        (store.replay (writes.take (late + 1))).subscription? read.id = some { next with version := read.version + 1 }
  /-- So does a settlement that updates a subscription read earlier. -/
  settlements : ∀ {early late : Nat} {read next : Subscription} {id : Uuid} {payment : Payment}, early ≤ late →
    (store.replay (writes.take early)).subscription? read.id = some read → next.id = read.id →
    writes[late]? = some (.settleInvoice id payment (.update next read.version)) →
    store.replay (writes.take (late + 1)) = store.replay (writes.take late) ∨
      (store.replay (writes.take late)).subscription? read.id = some read ∧
        (store.replay (writes.take (late + 1))).subscription? read.id = some { next with version := read.version + 1 }

/-- No update of a subscription is lost along a run whose new records get fresh identifiers:
every call moves a subscription by one version at most, a version never comes back, and a
compare-and-set write made from a read goes through only while the store holds that very
read, so it is the writer's function of the record stored right before it. -/
theorem no_lost_subscription_updates {store : Store} {writes : List Write} (fresh : FreshRun store writes) :
    NoLostUpdates store writes where
  steps index inRun id := by
    obtain ⟨stepped, freshWrite⟩ := fresh.step (List.getElem?_eq_getElem inRun)
    rw [stepped]
    exact versionStep_apply freshWrite id
  versionOnce first second stored shown := subscription?_eq_of_version fresh first second stored shown
  updates {early late read next} ordered stored sameId atLate := by
    obtain ⟨stepped, -⟩ := fresh.step atLate
    rw [stepped]
    rcases apply_updateSubscription (store.replay (writes.take late)) next read.version with
      unchanged | ⟨checked, updated⟩
    · exact .inl unchanged
    · have held := updated_of_read fresh ordered stored sameId checked
      refine .inr ⟨held, ?_⟩
      rw [updated, subscription?_map (fun old => bumped_id next old read.version), held, Option.map_some]
      simp [bumped, sameId]
  settlements {early late read next id payment} ordered stored sameId atLate := by
    obtain ⟨stepped, -⟩ := fresh.step atLate
    rw [stepped]
    rcases apply_settleInvoice (store.replay (writes.take late)) id payment (.update next read.version) with
      unchanged | ⟨_, written, -, -, ⟨checked, rfl⟩, settled⟩
    · exact .inl unchanged
    · refine .inr ⟨updated_of_read fresh ordered stored sameId checked, ?_⟩
      rw [settled, subscription?_settled, if_pos sameId]

/-- A company's subscription, active on the basic plan, whose period ended at the start of
2026; read at version 0. -/
def lapsedSubscription : Subscription :=
  { id := Uuid.ofSerial 1, company := Uuid.ofSerial 2, plan := "basic", status := .active, maxSeats := 5,
    pendingMaxSeats := none, pendingPlan := none, periodStart := ⟨0, 0⟩,
    periodEnd := ⟨1767225600 * nanosPerSecond, 0⟩, createdAt := ⟨0, 0⟩, updatedAt := ⟨0, 0⟩, version := 0 }

/-- The expiry pass moves the lapsed subscription to past due a day after its period ended,
and an owner's update made from the read before the pass comes after it. -/
theorem sweep_then_stale_update :
    FreshRun { Store.empty with subscriptions := [lapsedSubscription] }
        [.updateExpiredToStatus [.trial, .active] ⟨1767312000 * nanosPerSecond, 0⟩ .pastDue
          ⟨1767312000 * nanosPerSecond, 0⟩,
          .updateSubscription { lapsedSubscription with maxSeats := 10 } 0] ∧
      NoLostUpdates { Store.empty with subscriptions := [lapsedSubscription] }
        [.updateExpiredToStatus [.trial, .active] ⟨1767312000 * nanosPerSecond, 0⟩ .pastDue
          ⟨1767312000 * nanosPerSecond, 0⟩,
          .updateSubscription { lapsedSubscription with maxSeats := 10 } 0] :=
  ⟨⟨trivial, trivial, trivial⟩, no_lost_subscription_updates ⟨trivial, trivial, trivial⟩⟩

end SeatBilling.Store
