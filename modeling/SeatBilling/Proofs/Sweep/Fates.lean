import SeatBilling.Proofs.Services.Behaves
import SeatBilling.Proofs.Ledger.RecordSteps

/-!
# What a sweep makes of each record

Each record the sweep handles has a fate fixed by the records alone: a stale invoice expires
(`staleExpired`), a due change that can be committed is committed and anything else stays
(`Committed`), and the expiry pass moves lapsed subscriptions on (`lapsed`, its three bulk moves
in order). The `Behaves` rules here follow the calls that handle one record. Without faults each
ends the record at its fate, or fails as the records make it fail, which leaves it at its fate
too; under honest faults it may fail or run out of time first, and the record then stands as it
was or at its fate.
-/

namespace SeatBilling

open SeatBilling.Time

/-- The facts `after` hold the configuration and the plans of `before`, and the subscriptions
and invoices given; the event log and the serial may differ. -/
structure Facts.Holding (after before : Facts) (subscriptions : List Subscription) (invoices : List Invoice) :
    Prop where
  config : after.config = before.config
  plans : after.store.plans = before.store.plans
  subscriptions : after.store.subscriptions = subscriptions
  invoices : after.store.invoices = invoices

namespace Facts.Holding

variable {before middle after : Facts} {subscriptions : List Subscription} {invoices : List Invoice}

theorem refl (facts : Facts) : facts.Holding facts facts.store.subscriptions facts.store.invoices :=
  ⟨rfl, rfl, rfl, rfl⟩

/-- What holds after a step that keeps the records holds after the step before it. -/
theorem kept (first : middle.Holding before subscriptions invoices)
    (second : after.Holding middle middle.store.subscriptions middle.store.invoices) :
    after.Holding before subscriptions invoices :=
  ⟨second.config.trans first.config, second.plans.trans first.plans, second.subscriptions.trans first.subscriptions,
    second.invoices.trans first.invoices⟩

theorem subscription? (holding : after.Holding before subscriptions invoices) (id : Uuid) :
    after.store.subscription? id = ({ before.store with subscriptions := subscriptions } : Store).subscription? id := by
  unfold Store.subscription?
  rw [holding.subscriptions]

theorem invoice? (holding : after.Holding before subscriptions invoices) (id : Uuid) :
    after.store.invoice? id = ({ before.store with invoices := invoices } : Store).invoice? id := by
  unfold Store.invoice?
  rw [holding.invoices]

end Facts.Holding

theorem Store.plan?_eq_of_plans {store other : Store} (same : other.plans = store.plans) (id : String) :
    other.plan? id = store.plan? id := by
  unfold Store.plan?
  rw [same]

namespace Revises

variable {settings : Config} {now : Moment} {headcount : List (Uuid × Int)} {store other : Store}
  {current next : Subscription}

/-- A committed change was waiting and due, on a subscription that had not expired. -/
theorem commit_due (revises : Revises settings now headcount store current .commit next) :
    current.hasPendingChange = true ∧ current.status ≠ .expired ∧ current.periodEnd ≤ now := by
  cases revises with
  | commit _ waiting _ live due => exact ⟨waiting, live, due⟩
  | commitRolling _ _ waiting active due => exact ⟨waiting, by rw [active]; exact nofun, due⟩

/-- A due change commits in one way only: the plan is the one the catalog holds, and an active
subscription rolls into the one next period. -/
theorem commit_unique {second : Subscription} (first : Revises settings now headcount store current .commit next)
    (again : Revises settings now headcount store current .commit second) : next = second := by
  cases first with
  | commit targetPlan _ inactive _ _ found _ =>
    cases again with
    | commit otherPlan _ _ _ _ otherFound _ =>
      rw [found, Option.some.injEq] at otherFound
      rw [otherFound]
    | commitRolling _ _ _ active => exact absurd active inactive
  | commitRolling targetPlan periodEnd _ active _ found _ rolled =>
    cases again with
    | commit _ _ inactive => exact absurd active inactive
    | commitRolling otherPlan otherEnd _ _ _ otherFound _ otherRolled =>
      rw [found, Option.some.injEq] at otherFound
      rw [rolled, Option.some.injEq] at otherRolled
      rw [otherFound, otherRolled]

/-- A committed change found its plan in the catalog, and the live headcount fits the seat cap it
commits to. -/
theorem commit_fits (revises : Revises settings now headcount store current .commit next) :
    ∃ targetPlan, store.plan? (current.pendingPlan.getD current.plan) = some targetPlan ∧
      activeEmployees headcount current.company ≤ current.committedSeats targetPlan := by
  cases revises with
  | commit targetPlan _ _ _ _ found fits => exact ⟨targetPlan, found, fits⟩
  | commitRolling targetPlan _ _ _ _ found fits => exact ⟨targetPlan, found, fits⟩

/-- A commit reads the store only for the plan it commits to. -/
theorem commit_of_plans (plans : ∀ id, other.plan? id = store.plan? id)
    (revises : Revises settings now headcount store current .commit next) :
    Revises settings now headcount other current .commit next := by
  cases revises with
  | commit targetPlan waiting inactive live due found fits =>
    exact .commit targetPlan waiting inactive live due (by rw [plans]; exact found) fits
  | commitRolling targetPlan periodEnd waiting active due found fits rolled =>
    exact .commitRolling targetPlan periodEnd waiting active due (by rw [plans]; exact found) fits rolled

end Revises

namespace Sweep

/-! ## The fates -/

/-- An invoice as a stale pass with cutoff `cutoff` leaves it: pending and created before the
cutoff, it expires. -/
def staleExpired (cutoff : Moment) (invoice : Invoice) : Invoice :=
  if invoice.isPending && decide (invoice.createdAt < cutoff) then { invoice with status := .expired } else invoice

/-- What the pending-changes step makes of a subscription, with the plans of `store`: a due
change that can be committed is committed, and the subscription takes the next version;
anything else stays as it is. -/
inductive Committed (settings : Config) (now : Moment) (headcount : List (Uuid × Int)) (store : Store) :
    Subscription → Subscription → Prop
  | commit (current next : Subscription) (revises : Revises settings now headcount store current .commit next) :
      Committed settings now headcount store current { next with version := current.version + 1 }
  | stays (current : Subscription) (refused : ∀ next, ¬ Revises settings now headcount store current .commit next) :
      Committed settings now headcount store current current

/-- The three bulk moves of the expiry pass at `now`, whose grace cutoff is `cutoff`, in the order
it makes them: the statuses moved, the cutoff their period must have ended before, the target. -/
def expiryMoves (now cutoff : Moment) : List (List SubscriptionStatus × Moment × SubscriptionStatus) :=
  [([.cancelled], now, .expired), ([.trial, .active, .pastDue], cutoff, .expired), ([.trial, .active], now, .pastDue)]

/-- A subscription after the first `count` moves of the expiry pass; the pass makes no move when
its grace cutoff is out of range. -/
def lapsed (settings : Config) (now : Moment) (count : Nat) (subscription : Subscription) : Subscription :=
  match now.unshift? settings.gracePeriod with
  | some cutoff => ((expiryMoves now cutoff).take count).foldl
      (fun current move => Store.expired move.1 move.2.1 move.2.2 now current) subscription
  | none => subscription

/-- The fate of a subscription under the pending-changes step is unique: a due change commits
in one way only. -/
theorem Committed.unique {settings : Config} {now : Moment} {headcount : List (Uuid × Int)} {store : Store}
    {current first second : Subscription} (firstFate : Committed settings now headcount store current first)
    (secondFate : Committed settings now headcount store current second) : first = second := by
  cases firstFate with
  | commit next revises =>
    cases secondFate with
    | commit other otherRevises => rw [revises.commit_unique otherRevises]
    | stays refused => exact absurd revises (refused next)
  | stays refused =>
    cases secondFate with
    | commit next revises => exact absurd revises (refused next)
    | stays => rfl

/-- A subscription with no change waiting, or one not yet due, stays as it is. -/
theorem Committed.of_not_due {settings : Config} {now : Moment} {headcount : List (Uuid × Int)} {store : Store}
    {current : Subscription} (notDue : ¬ (current.hasPendingChange = true ∧ current.periodEnd ≤ now)) :
    Committed settings now headcount store current current :=
  .stays current fun _ revises => notDue ⟨revises.commit_due.1, revises.commit_due.2.2⟩

/-- A fate read with the plans of one store is read with those of any store with the same plans. -/
theorem Committed.of_plans {settings : Config} {now : Moment} {headcount : List (Uuid × Int)} {store other : Store}
    (samePlans : other.plans = store.plans) {current next : Subscription}
    (fate : Committed settings now headcount store current next) : Committed settings now headcount other current next := by
  have plans : ∀ id, other.plan? id = store.plan? id := Store.plan?_eq_of_plans samePlans
  cases fate with
  | commit next revises => exact .commit current next (revises.commit_of_plans plans)
  | stays refused => exact .stays current fun next revises => refused next (revises.commit_of_plans fun id => (plans id).symm)

theorem lapsed_zero (settings : Config) (now : Moment) (subscription : Subscription) :
    lapsed settings now 0 subscription = subscription := by
  unfold lapsed
  split <;> rfl

@[simp] theorem lapsed_id (settings : Config) (now : Moment) (count : Nat) (subscription : Subscription) :
    (lapsed settings now count subscription).id = subscription.id := by
  unfold lapsed
  split
  · generalize (expiryMoves now _).take count = moves
    induction moves generalizing subscription with
    | nil => rfl
    | cons move moves inductionHypothesis =>
      rw [List.foldl_cons, inductionHypothesis, Store.expired_id]
  · rfl

section Moves

variable {settings : Config} {now cutoff : Moment} (cut : now.unshift? settings.gracePeriod = some cutoff)
  (subscription : Subscription)
include cut

theorem lapsed_one : lapsed settings now 1 subscription = Store.expired [.cancelled] now .expired now subscription := by
  simp [lapsed, cut, expiryMoves]

theorem lapsed_two :
    lapsed settings now 2 subscription =
      Store.expired [.trial, .active, .pastDue] cutoff .expired now (lapsed settings now 1 subscription) := by
  simp [lapsed, cut, expiryMoves]

theorem lapsed_three :
    lapsed settings now 3 subscription =
      Store.expired [.trial, .active] now .pastDue now (lapsed settings now 2 subscription) := by
  simp [lapsed, cut, expiryMoves]

end Moves

/-- With a grace period that is not negative, the expiry pass moves only subscriptions whose
period ended before `now` in a status it moves; the others stay. -/
theorem lapsed_of_current {settings : Config} {now : Moment} (grace : 0 ≤ settings.gracePeriod.seconds)
    {subscription : Subscription}
    (current : ¬ ([SubscriptionStatus.trial, .active, .pastDue, .cancelled].contains subscription.status = true ∧
      subscription.periodEnd < now)) :
    lapsed settings now 3 subscription = subscription := by
  unfold lapsed
  split
  · rename_i cutoff cut
    have early : cutoff ≤ now := Moment.le_of_unshift? grace cut
    -- none of the three moves matches
    have stays : ∀ (statuses : List SubscriptionStatus) (bound : Moment) (target : SubscriptionStatus),
        (∀ status, statuses.contains status = true →
          [SubscriptionStatus.trial, .active, .pastDue, .cancelled].contains status = true) → bound ≤ now →
        Store.expired statuses bound target now subscription = subscription := by
      intro statuses bound target within below
      unfold Store.expired Store.expires
      rw [if_neg]
      simp only [Bool.and_eq_true, decide_eq_true_eq]
      exact fun ⟨listed, lapsedBefore⟩ => current ⟨within _ listed, Moment.lt_of_lt_of_le lapsedBefore below⟩
    have covered : ∀ (statuses : List SubscriptionStatus), statuses ⊆ [.trial, .active, .pastDue, .cancelled] →
        ∀ status, statuses.contains status = true →
          [SubscriptionStatus.trial, .active, .pastDue, .cancelled].contains status = true := by
      intro statuses within status listed
      simp only [List.contains_iff_mem] at listed ⊢
      exact within listed
    simp only [expiryMoves, List.take, List.foldl]
    rw [stays _ _ _ (covered _ (by simp)) (Moment.le_refl now), stays _ _ _ (covered _ (by simp)) early,
      stays _ _ _ (covered _ (by simp)) (Moment.le_refl now)]
  · rfl

/-- A pending invoice created before the cutoff expires; any other stays. -/
theorem staleExpired_of_stale {cutoff : Moment} {invoice : Invoice}
    (stale : invoice.isPending = true ∧ invoice.createdAt < cutoff) :
    staleExpired cutoff invoice = { invoice with status := .expired } := by
  simp [staleExpired, stale.1, stale.2]

theorem staleExpired_of_current {cutoff : Moment} {invoice : Invoice}
    (current : ¬ (invoice.isPending = true ∧ invoice.createdAt < cutoff)) : staleExpired cutoff invoice = invoice := by
  unfold staleExpired
  rw [if_neg]
  simpa using current

end Sweep

/-- The facts `after` hold the configuration, plans and invoices of `before`, and its
subscriptions but the one under `id`, which is `result`. -/
structure Facts.Putting (after before : Facts) (id : Uuid) (result : Subscription) : Prop where
  config : after.config = before.config
  plans : after.store.plans = before.store.plans
  invoices : after.store.invoices = before.store.invoices
  subscription? : ∀ other, after.store.subscription? other =
    if other = id then some result else before.store.subscription? other

/-- Facts hold the subscription they have. -/
theorem Facts.Putting.refl {facts : Facts} {id : Uuid} {current : Subscription}
    (found : facts.store.subscription? id = some current) : facts.Putting facts id current :=
  ⟨rfl, rfl, rfl, fun other => by split <;> simp_all⟩

/-- A step that keeps the records keeps what the step before put. -/
theorem Facts.Putting.kept {before middle after : Facts} {id : Uuid} {result : Subscription}
    (first : middle.Putting before id result)
    (second : after.Holding middle middle.store.subscriptions middle.store.invoices) : after.Putting before id result :=
  ⟨second.config.trans first.config, second.plans.trans first.plans, second.invoices.trans first.invoices,
    fun other => (second.subscription? other).trans (first.subscription? other)⟩

/-- Expiring a pending invoice found in the store moves it, and only it. -/
theorem Store.transitionInvoice_expired {store : Store} {invoice : Invoice}
    (found : store.invoice? invoice.id = some invoice) (pending : invoice.isPending = true) :
    store.transitionInvoice invoice.id .expired none =
      .ok (true, { store with invoices := store.invoices.map (Store.replacing invoice.id { invoice with status := .expired }) }) := by
  unfold Store.transitionInvoice
  rw [found]
  simp only [pending, Bool.not_true, Bool.false_eq_true, if_false]
  rfl

/-- Writing a subscription over the version read stores its next version, or runs the version
out of range. -/
theorem Store.updateSubscription_of_read {store : Store} {current next : Subscription}
    (found : store.subscription? next.id = some current) :
    store.updateSubscription next current.version =
        .ok (true, { store with subscriptions := store.subscriptions.map (Store.bumped next current.version) }) ∨
      store.updateSubscription next current.version = .error .overflow := by
  unfold Store.updateSubscription
  rw [found]
  simp only [beq_self_eq_true, if_true, bind, Except.bind]
  cases bumping : Store.nextVersion current.version with
  | error halt =>
    right
    unfold Store.nextVersion at bumping
    split at bumping <;> cases bumping
    rfl
  | ok version =>
    left
    rw [Store.nextVersion_ok bumping]
    rfl

/-- The facts after a versioned write of `next` over `current` put its next version under the
identifier. -/
theorem Facts.Putting.of_bumped {facts : Facts} {current next : Subscription}
    (found : facts.store.subscription? current.id = some current) (sameId : next.id = current.id) :
    ({ facts with store := { facts.store with
        subscriptions := facts.store.subscriptions.map (Store.bumped next current.version) } } : Facts).Putting
      facts current.id { next with version := current.version + 1 } := by
  refine ⟨rfl, rfl, rfl, fun other => ?_⟩
  rw [Store.subscription?_map (Store.bumped_id next · current.version)]
  by_cases same : other = current.id
  · subst same
    simp [found, Store.bumped, sameId]
  · rw [if_neg same]
    cases stored : facts.store.subscription? other with
    | none => rfl
    | some kept =>
      have keptId : kept.id = other := Store.subscription?_id stored
      simp [Store.bumped, sameId, keptId, same]

/-- The facts `after` put the subscription `current` of `before` at its fate under the
pending-changes step, with the plans of `catalog`. -/
def Facts.CommitsAt (after before : Facts) (now : Moment) (headcount : List (Uuid × Int)) (catalog : Store)
    (current : Subscription) : Prop :=
  ∃ result, Sweep.Committed before.config now headcount catalog current result ∧ after.Putting before current.id result

/-! ## One record at a time -/

section Records

variable {exposure : Exposure} {now : Moment} {headcount : List (Uuid × Int)}

/-- Recording an event keeps the records: the event is appended, or dropped when the log
fails; an honest fault may also run it out of time. -/
theorem EventLog.record_behaves (facts : Facts) (company : Uuid) (kind : EventKind) (actor : Actor)
    (subscription invoice : Option Uuid) (data : Json) (at_ : Moment) :
    Behaves exposure now headcount (· = facts) (EventLog.record company kind actor subscription invoice data at_)
      (fun _ after => after.Holding facts facts.store.subscriptions facts.store.invoices)
      (fun _ after => exposure = .honest ∧ after.Holding facts facts.store.subscriptions facts.store.invoices) := by
  unfold EventLog.record
  refine Behaves.bind (Behaves.freshId facts) fun id => Behaves.of_facts fun drawn ⟨_, same⟩ => ?_
  subst same
  have appending : Behaves exposure now headcount (· = { facts with serial := facts.serial + 1 })
      (Calls.appendEvent ⟨id, company, subscription, invoice, kind, actor, data, at_⟩)
      (fun _ after => after.Holding facts facts.store.subscriptions facts.store.invoices)
      (fun _ after => exposure = .honest ∧ after.Holding facts facts.store.subscriptions facts.store.invoices) := by
    unfold Calls.appendEvent
    refine Behaves.guarded (Behaves.backed ((Behaves.stepStore _ _).mono (fun _ same => same)
      (fun _ after ⟨stepped, shape⟩ => ?_) fun _ _ ⟨_, _, _, stepped⟩ => by cases stepped))
      fun honest _ after same => ⟨honest, by rw [same]; exact ⟨rfl, rfl, rfl, rfl⟩⟩
    simp only [Except.ok.injEq, Prod.mk.injEq] at stepped
    rw [shape, ← stepped.2]
    exact ⟨rfl, rfl, rfl, rfl⟩
  exact Behaves.catchFailure appending
    (fun _ => (Behaves.emit _ _ _ _).mono (fun _ held => held.2) (fun _ _ held => held) fun _ _ halted => halted)
    fun _ _ _ halted => halted

/-- Expiring a stale invoice found pending moves it to expired and gives `true`; an honest
fault may stop it first, or after the move. -/
theorem Invoicing.markExpired_behaves {invoice : Invoice} (facts : Facts)
    (found : facts.store.invoice? invoice.id = some invoice) (pending : invoice.isPending = true) :
    Behaves exposure now headcount (· = facts) (Invoicing.markExpired invoice.id)
      (fun changed after => changed = true ∧ after.Holding facts facts.store.subscriptions
        (facts.store.invoices.map (Store.replacing invoice.id { invoice with status := .expired })))
      (fun _ after => exposure = .honest ∧
        (after.Holding facts facts.store.subscriptions facts.store.invoices ∨
          after.Holding facts facts.store.subscriptions
            (facts.store.invoices.map (Store.replacing invoice.id { invoice with status := .expired })))) := by
  set expiredInvoices := facts.store.invoices.map (Store.replacing invoice.id { invoice with status := .expired })
  set expiring : Facts := { facts with store := { facts.store with invoices := expiredInvoices } }
  have holding : expiring.Holding facts facts.store.subscriptions expiredInvoices := ⟨rfl, rfl, rfl, rfl⟩
  unfold Invoicing.markExpired Invoicing.close
  -- the transition moves the invoice, or an honest fault stops it with the facts as they were
  have transitioning : Behaves exposure now headcount (· = facts) (Calls.transitionInvoice invoice.id .expired none)
      (fun changed after => changed = true ∧ after = expiring) (fun _ after => exposure = .honest ∧ after = facts) := by
    unfold Calls.transitionInvoice
    refine Behaves.guarded (Behaves.backed ((Behaves.stepStore _ _).mono (fun _ same => same)
      (fun changed after ⟨stepped, shape⟩ => ?_) fun _ _ ⟨_, _, _, stepped⟩ => ?_)) fun honest _ _ same => ⟨honest, same⟩
    · rw [Store.transitionInvoice_expired found pending, Except.ok.injEq, Prod.mk.injEq] at stepped
      refine ⟨stepped.1.symm, ?_⟩
      rw [shape, ← stepped.2]
    · rw [Store.transitionInvoice_expired found pending] at stepped
      cases stepped
  refine Behaves.bind (transitioning.mono (fun _ same => same) (fun _ _ given => given) fun _ _ ⟨honest, same⟩ =>
    ⟨honest, .inl (by rw [same]; exact .refl facts)⟩) fun changed => Behaves.of_facts fun moved ⟨closed, same⟩ => ?_
  subst same closed
  refine Behaves.bind ((Behaves.lookup (fun _ => rfl) ⟨_, rfl⟩ : Behaves exposure now headcount (· = expiring)
    (Invoicing.require invoice.id) _ _).mono (fun _ same => same) (fun _ _ given => given)
      fun _ _ ⟨fault, same⟩ => ⟨?_, .inr (by rw [same]; exact holding)⟩) fun _ => ?_
  · rcases fault with honest | absent
    · exact honest
    · rw [same, (Webhook.invoice?_replacing found rfl).1] at absent
      cases absent
  rw [if_pos rfl]
  refine Behaves.of_facts fun read ⟨_, same⟩ => ?_
  subst same
  refine Behaves.bind Behaves.clock fun at_ => Behaves.of_facts fun _ ⟨_, same⟩ => ?_
  subst same
  refine Behaves.bind ((EventLog.record_behaves _ _ _ _ _ _ _ _).mono (fun _ same => same)
    (fun _ after kept => holding.kept kept) fun _ after ⟨honest, kept⟩ => ⟨honest, .inr (holding.kept kept)⟩)
    fun _ => ?_
  exact Behaves.bind (Behaves.emit _ _ _ _) fun _ =>
    (Behaves.pure _).mono (fun _ held => held) (fun _ _ ⟨same, held⟩ => ⟨same, held⟩) fun _ _ halted => halted

/-- Saving a subscription read from the store writes its next version; it halts before the
write under an honest fault or for a version out of range, or after it for the latter. -/
theorem Ledger.save_behaves (facts : Facts) {current next : Subscription}
    (found : facts.store.subscription? current.id = some current) (sameId : next.id = current.id) :
    Behaves exposure now headcount (· = facts) (Ledger.save current next)
      (fun saved after => saved = { next with version := current.version + 1 } ∧ after.Putting facts current.id saved)
      (fun halt after => (after.Putting facts current.id current ∨
          after.Putting facts current.id { next with version := current.version + 1 }) ∧
        (exposure = .honest ∨ halt = .overflow)) := by
  have foundNext : facts.store.subscription? next.id = some current := by rw [sameId]; exact found
  set written : Facts := { facts with store := { facts.store with
    subscriptions := facts.store.subscriptions.map (Store.bumped next current.version) } }
  have putting : written.Putting facts current.id { next with version := current.version + 1 } :=
    Facts.Putting.of_bumped found sameId
  -- the versioned write goes through, or halts with the facts as they were
  have updating : Behaves exposure now headcount (· = facts) (Calls.updateSubscription next current.version)
      (fun wrote after => wrote = true ∧ after = written)
      (fun halt after => after = facts ∧ (exposure = .honest ∨ halt = .overflow)) := by
    unfold Calls.updateSubscription
    refine Behaves.guarded (Behaves.backed ((Behaves.haltingStep facts _).mono (fun _ same => same)
      (fun wrote after ⟨stepped, shape⟩ => ?_) fun halt after ⟨same, stepped⟩ => ⟨same, .inr ?_⟩))
      fun honest _ _ same => ⟨same, .inl honest⟩
    · rcases Store.updateSubscription_of_read foundNext with stored | overflowed
      · rw [stored, Except.ok.injEq, Prod.mk.injEq] at stepped
        exact ⟨stepped.1.symm, by rw [shape, ← stepped.2]⟩
      · rw [overflowed] at stepped
        cases stepped
    · rcases Store.updateSubscription_of_read foundNext with stored | overflowed
      · rw [stored] at stepped
        cases stepped
      · rw [overflowed] at stepped
        cases stepped
        rfl
  unfold Ledger.save
  refine Behaves.bind (updating.mono (fun _ same => same) (fun _ _ given => given) fun _ _ ⟨same, excused⟩ =>
    ⟨.inl (by rw [same]; exact .refl found), excused⟩) fun wrote => Behaves.of_facts fun after ⟨stored, same⟩ => ?_
  subst wrote after
  extract_lets finish
  rw [if_neg (show ¬(!true) = true by decide)]
  dsimp only [finish]
  refine Behaves.bind ((Behaves.orOverflow _).mono (fun _ same => same) (fun _ _ given => given)
    fun _ _ ⟨_, overflowed, same⟩ => ⟨.inr (by rw [same]; exact putting), .inr overflowed⟩) fun version => ?_
  refine Behaves.of_facts fun after ⟨numbered, same⟩ => ?_
  subst after
  have bumped : version = current.version + 1 := (Arith.within64_eq_some.mp numbered).2.symm
  subst bumped
  exact (Behaves.pure _).mono (fun _ same => same) (fun _ _ ⟨saved, same⟩ => by rw [saved, same]; exact ⟨rfl, putting⟩)
    fun _ _ halted => halted

/-- Committing the change of a subscription found in the store puts it at its fate. The commit
halts with the subscription as it was or at its fate, and away from its fate only for a version
or a period out of range, or under an honest fault. -/
theorem Ledger.commitPendingChange_behaves {catalog : Store} (facts : Facts) (samePlans : facts.store.plans = catalog.plans)
    {current : Subscription} (found : facts.store.subscription? current.id = some current) :
    Behaves exposure now headcount (· = facts) (Ledger.commitPendingChange current.id)
      (fun _ after => after.CommitsAt facts now headcount catalog current)
      (fun halt after => (after.Putting facts current.id current ∨ after.CommitsAt facts now headcount catalog current) ∧
        (halt = .overflow ∨ exposure = .honest ∨ after.CommitsAt facts now headcount catalog current)) := by
  have plans : ∀ id, catalog.plan? id = facts.store.plan? id := Store.plan?_eq_of_plans samePlans.symm
  -- a change that cannot be committed leaves the subscription where it is, at its fate
  have stays : (∀ next, ¬ Revises facts.config now headcount catalog current .commit next) →
      facts.CommitsAt facts now headcount catalog current :=
    fun refused => ⟨current, .stays current refused, .refl found⟩
  have staying : ∀ {β : Type} (value : β), (∀ next, ¬ Revises facts.config now headcount catalog current .commit next) →
      Behaves exposure now headcount (· = facts) (Pure.pure value)
        (fun _ after => after.CommitsAt facts now headcount catalog current)
        (fun halt after => (after.Putting facts current.id current ∨ after.CommitsAt facts now headcount catalog current) ∧
          (halt = .overflow ∨ exposure = .honest ∨ after.CommitsAt facts now headcount catalog current)) :=
    fun value refused => (Behaves.pure value).mono (fun _ same => same)
      (fun _ _ ⟨_, same⟩ => by rw [same]; exact stays refused) fun _ _ halted => halted
  have unchanged : ∀ (halt : Halt) (after : Facts), exposure = .honest → after = facts →
      (after.Putting facts current.id current ∨ after.CommitsAt facts now headcount catalog current) ∧
        (halt = .overflow ∨ exposure = .honest ∨ after.CommitsAt facts now headcount catalog current) := by
    intro _ _ honest same
    rw [same]
    exact ⟨.inl (.refl found), .inr (.inl honest)⟩
  -- reading the subscription finds it, or an honest fault stops the commit
  have reading : Behaves exposure now headcount (· = facts) (Ledger.requireSubscriptionId current.id)
      (fun read after => read = current ∧ after = facts) (fun _ after => exposure = .honest ∧ after = facts) := by
    refine (Behaves.lookup (fun _ => rfl) ⟨_, rfl⟩).mono (fun _ same => same) (fun read _ ⟨viewed, same⟩ => ?_)
      fun _ _ ⟨fault, same⟩ => ⟨fault.resolve_right ?_, same⟩
    · rw [same, found, Option.some.injEq] at viewed
      exact ⟨viewed.symm, same⟩
    · rw [same, found]
      exact nofun
  unfold Ledger.commitPendingChange
  refine Behaves.bind (reading.mono (fun _ same => same) (fun _ _ given => given) fun halt after ⟨honest, same⟩ =>
    unchanged halt after honest same) fun _ => Behaves.of_facts fun first ⟨_, _⟩ => ?_
  subst first
  refine Behaves.bind (reading.mono (fun _ same => same) (fun _ _ given => given) fun halt after ⟨honest, same⟩ =>
    unchanged halt after honest same) fun subscription => Behaves.of_facts fun second ⟨_, _⟩ => ?_
  subst second subscription
  split
  · rename_i idle
    exact staying _ fun _ revises => by simp [revises.commit_due.1] at idle
  rename_i waiting
  split
  · rename_i lapsed
    exact staying _ fun _ revises => revises.commit_due.2.1 (by simpa using lapsed)
  rename_i live
  refine Behaves.bind Behaves.clock fun at_ => Behaves.of_facts fun clocked ⟨_, _⟩ => ?_
  subst at_ clocked
  split
  · rename_i early
    exact staying _ fun _ revises => absurd revises.commit_due.2.2 (Int.not_le.mpr early)
  rename_i due
  -- the plan the change commits to is in the catalog, or the commit fails where it is
  refine Behaves.bind ((Behaves.lookup (fun _ => rfl) ⟨_, rfl⟩ : Behaves exposure now headcount (· = facts)
    (Catalog.getPlan (current.pendingPlan.getD current.plan)) _ _).mono (fun _ same => same) (fun _ _ given => given)
      fun _ after ⟨fault, same⟩ => ⟨.inl (by rw [same]; exact .refl found), ?_⟩) fun targetPlan => ?_
  · rcases fault with honest | absent
    · exact .inr (.inl honest)
    · have refused : ∀ next, ¬ Revises facts.config now headcount catalog current .commit next := by
        intro _ revises
        obtain ⟨_, listed, _⟩ := revises.commit_fits
        rw [same] at absent
        rw [plans, absent] at listed
        cases listed
      exact .inr (.inr (by rw [same]; exact stays refused))
  refine Behaves.of_facts fun planned ⟨targetFound, _⟩ => ?_
  subst planned
  have targetListed : catalog.plan? (current.pendingPlan.getD current.plan) = some targetPlan := by
    rw [plans]; exact targetFound
  extract_lets newSeats cleared moved committing
  refine Behaves.bind ((Behaves.countActive _).mono (fun _ same => same) (fun _ _ given => given)
    fun halt after ⟨honest, same⟩ => unchanged halt after honest same) fun active => ?_
  refine Behaves.of_facts fun counted ⟨headcounted, _⟩ => ?_
  subst counted
  by_cases tooMany : active > newSeats
  · -- a refused change is logged and recorded, and stays waiting
    rw [if_pos tooMany]
    have refused : ∀ next, ¬ Revises facts.config now headcount catalog current .commit next := by
      intro _ revises
      obtain ⟨otherPlan, listed, fits⟩ := revises.commit_fits
      rw [targetListed, Option.some.injEq] at listed
      rw [← listed, ← headcounted] at fits
      exact Int.not_lt.mpr fits tooMany
    have recorded : ∀ after : Facts, after.Holding facts facts.store.subscriptions facts.store.invoices →
        after.CommitsAt facts now headcount catalog current :=
      fun _ kept => (stays refused).elim fun result ⟨fate, putting⟩ => ⟨result, fate, putting.kept kept⟩
    refine Behaves.bind (Behaves.emit _ _ _ _) fun _ => Behaves.bind ((EventLog.record_behaves _ _ _ _ _ _ _ _).mono
      (fun _ same => same) (fun _ after kept => recorded after kept) fun _ after ⟨honest, kept⟩ =>
        ⟨.inr (recorded after kept), .inr (.inl honest)⟩) fun _ => ?_
    exact (Behaves.pure _).mono (fun _ held => held) (fun _ _ ⟨_, commits⟩ => commits) fun _ _ halted => halted
  rw [if_neg tooMany]
  have fits : activeEmployees headcount current.company ≤ current.committedSeats targetPlan := by
    rw [← headcounted]
    exact Int.not_lt.mp tooMany
  refine Behaves.bind Behaves.config fun settings => Behaves.of_facts fun configured ⟨_, _⟩ => ?_
  subst configured settings
  -- both ways of rolling the period end in the same save, record and log
  have finishing : ∀ rolled, Revises facts.config now headcount catalog current .commit { rolled with updatedAt := now } →
      Behaves exposure now headcount (· = facts) (committing rolled)
        (fun _ after => after.CommitsAt facts now headcount catalog current)
        (fun halt after => (after.Putting facts current.id current ∨ after.CommitsAt facts now headcount catalog current) ∧
          (halt = .overflow ∨ exposure = .honest ∨ after.CommitsAt facts now headcount catalog current)) := by
    intro rolled revises
    dsimp only [committing]
    refine Behaves.bind ((Ledger.save_behaves facts found revises.id_eq).mono (fun _ same => same)
      (fun saved after given => given) fun _ _ ⟨kept, excused⟩ => ⟨?_, ?_⟩) fun saved => ?_
    · rcases kept with same | moved
      · exact .inl same
      · exact .inr ⟨_, .commit current _ revises, moved⟩
    · rcases excused with honest | overflowed
      · exact .inr (.inl honest)
      · exact .inl overflowed
    refine Behaves.of_facts fun written ⟨numbered, putting⟩ => ?_
    subst numbered
    have recorded : ∀ after : Facts, after.Holding written written.store.subscriptions written.store.invoices →
        after.CommitsAt facts now headcount catalog current :=
      fun _ kept => ⟨_, .commit current _ revises, putting.kept kept⟩
    refine Behaves.bind ((EventLog.record_behaves _ _ _ _ _ _ _ _).mono (fun _ same => same)
      (fun _ after kept => recorded after kept) fun _ after ⟨honest, kept⟩ =>
        ⟨.inr (recorded after kept), .inr (.inl honest)⟩) fun _ => ?_
    exact Behaves.bind (Behaves.emit _ _ _ _) fun _ =>
      (Behaves.pure _).mono (fun _ held => held) (fun _ _ ⟨_, commits⟩ => commits) fun _ _ halted => halted
  split
  · rename_i active
    refine Behaves.bind ((Behaves.orOverflow _).mono (fun _ same => same) (fun _ _ given => given)
      fun halt after ⟨_, overflowed, same⟩ => ⟨.inl (by rw [same]; exact .refl found), .inl overflowed⟩) fun periodEnd => ?_
    refine Behaves.of_facts fun shifted ⟨rolls, _⟩ => ?_
    subst shifted
    refine Behaves.bind ((Behaves.pure _).mono (fun _ same => same) (fun _ _ given => given)
      fun _ _ halted => halted) fun rolled => Behaves.of_facts fun same ⟨named, _⟩ => ?_
    subst same named
    exact finishing _ (.commitRolling targetPlan periodEnd (by simpa using waiting) (by simpa using active)
      (Int.not_lt.mp due) targetListed fits rolls)
  · rename_i inactive
    exact finishing moved (.commit targetPlan (by simpa using waiting) (by simpa using inactive) (by simpa using live)
      (Int.not_lt.mp due) targetListed fits)

/-- A bulk move of the expiry pass moves every subscription it matches, or halts with the
facts as they were: under an honest fault, or for a version out of range. -/
theorem Calls.updateExpiredToStatus_behaves (facts : Facts) (statuses : List SubscriptionStatus) (cutoff : Moment)
    (target : SubscriptionStatus) (at_ : Moment) :
    Behaves exposure now headcount (· = facts) (Calls.updateExpiredToStatus statuses cutoff target at_)
      (fun _ after => after.Holding facts (facts.store.subscriptions.map (Store.expired statuses cutoff target at_))
        facts.store.invoices)
      (fun halt after => after = facts ∧ (exposure = .honest ∨ halt = .overflow)) := by
  unfold Calls.updateExpiredToStatus
  refine Behaves.guarded (Behaves.backed ((Behaves.haltingStep facts _).mono (fun _ same => same)
    (fun _ after ⟨stepped, shape⟩ => ?_) fun halt after ⟨same, stepped⟩ =>
      ⟨same, .inr (Store.updateExpiredToStatus_error facts.store stepped)⟩)) fun honest _ _ same => ⟨same, .inl honest⟩
  rw [shape, Store.updateExpiredToStatus_ok facts.store stepped]
  exact ⟨rfl, rfl, rfl, rfl⟩

/-- The expiry pass makes its three bulk moves in order, with a grace period that is not
negative; when it halts, it has made the first few of them. -/
theorem Ledger.expireLapsed_behaves (facts : Facts) (grace : 0 ≤ facts.config.gracePeriod.seconds) :
    Behaves exposure now headcount (· = facts) Ledger.expireLapsed
      (fun _ after => after.Holding facts (facts.store.subscriptions.map (Sweep.lapsed facts.config now 3))
        facts.store.invoices)
      (fun halt after => ∃ count < 3,
        after.Holding facts (facts.store.subscriptions.map (Sweep.lapsed facts.config now count)) facts.store.invoices ∧
          (exposure = .honest ∨ halt = .overflow)) := by
  have untouched : facts.Holding facts (facts.store.subscriptions.map (Sweep.lapsed facts.config now 0))
      facts.store.invoices := by
    rw [List.map_congr_left fun subscription _ => Sweep.lapsed_zero facts.config now subscription, List.map_id']
    exact .refl facts
  unfold Ledger.expireLapsed
  refine Behaves.bind Behaves.clock fun at_ => Behaves.of_facts fun clocked ⟨_, _⟩ => ?_
  subst at_ clocked
  refine Behaves.bind ((Behaves.readCall _ _ _ _ _ _).mono (fun _ same => same) (fun _ _ given => given)
    fun _ _ ⟨honest, same⟩ => ⟨0, by decide, by rw [same]; exact untouched, .inl honest⟩) fun candidates => ?_
  refine Behaves.of_facts fun read ⟨listed, _⟩ => ?_
  subst read
  split
  · -- nothing lapsed: every move would leave every subscription as it is
    rename_i empty
    have current : ∀ subscription ∈ facts.store.subscriptions,
        Sweep.lapsed facts.config now 3 subscription = subscription := by
      intro subscription member
      apply Sweep.lapsed_of_current grace
      intro lapsing
      rw [listed, List.isEmpty_iff, Store.listExpiring, List.filter_eq_nil_iff] at empty
      exact empty subscription member (by simp only [Bool.and_eq_true, decide_eq_true_eq]; exact lapsing)
    refine (Behaves.pure _).mono (fun _ same => same) (fun _ _ ⟨_, same⟩ => ?_) fun _ _ halted => halted
    rw [same, List.map_congr_left current, List.map_id']
    exact .refl facts
  refine Behaves.bind Behaves.config fun settings => Behaves.of_facts fun configured ⟨_, _⟩ => ?_
  subst configured settings
  refine Behaves.bind ((Behaves.orOverflow _).mono (fun _ same => same) (fun _ _ given => given)
    fun _ _ ⟨_, halt, same⟩ => ⟨0, by decide, by rw [same]; exact untouched, .inr halt⟩) fun cutoff => ?_
  refine Behaves.of_facts fun cutting ⟨cut, _⟩ => ?_
  subst cutting
  -- each bulk move takes the subscriptions one move further
  have moving : ∀ (count : Nat) (statuses : List SubscriptionStatus) (bound : Moment) (target : SubscriptionStatus)
      (middle : Facts), count < 3 →
      (∀ subscription, Sweep.lapsed facts.config now (count + 1) subscription =
        Store.expired statuses bound target now (Sweep.lapsed facts.config now count subscription)) →
      middle.Holding facts (facts.store.subscriptions.map (Sweep.lapsed facts.config now count)) facts.store.invoices →
      Behaves exposure now headcount (· = middle) (Calls.updateExpiredToStatus statuses bound target now)
        (fun _ after => after.Holding facts (facts.store.subscriptions.map (Sweep.lapsed facts.config now (count + 1)))
          facts.store.invoices)
        (fun halt after => ∃ count < 3, after.Holding facts
          (facts.store.subscriptions.map (Sweep.lapsed facts.config now count)) facts.store.invoices ∧
            (exposure = .honest ∨ halt = .overflow)) := by
    intro count statuses bound target middle fewer next held
    refine (Calls.updateExpiredToStatus_behaves middle _ _ _ _).mono (fun _ same => same) (fun _ after moved => ?_)
      fun _ _ ⟨same, excused⟩ => ⟨count, fewer, by rw [same]; exact held, excused⟩
    have further : middle.store.subscriptions.map (Store.expired statuses bound target now) =
        facts.store.subscriptions.map (Sweep.lapsed facts.config now (count + 1)) := by
      rw [held.subscriptions, List.map_map]
      exact List.map_congr_left fun subscription _ => (next subscription).symm
    exact ⟨moved.config.trans held.config, moved.plans.trans held.plans, moved.subscriptions.trans further,
      moved.invoices.trans held.invoices⟩
  refine Behaves.bind (moving 0 _ _ _ _ (by decide) (fun subscription => by
    rw [Sweep.lapsed_zero]; exact Sweep.lapsed_one cut subscription) untouched) fun _ => ?_
  refine Behaves.of_facts fun first held => Behaves.bind (moving 1 _ _ _ _ (by decide)
    (Sweep.lapsed_two cut) held) fun _ => ?_
  refine Behaves.of_facts fun second held => Behaves.bind (moving 2 _ _ _ _ (by decide)
    (Sweep.lapsed_three cut) held) fun _ => ?_
  refine Behaves.of_facts fun third held => ?_
  split
  · exact Behaves.bind (Behaves.emit _ _ _ _) fun _ =>
      (Behaves.pure _).mono (fun _ same => same) (fun _ _ ⟨_, same⟩ => by rw [same]; exact held)
        fun _ _ halted => halted
  · exact (Behaves.pure _).mono (fun _ same => same) (fun _ _ ⟨_, same⟩ => by rw [same]; exact held)
      fun _ _ halted => halted

end Records

end SeatBilling
