import SeatBilling.Proofs.Ledger.ExpiryRule
import SeatBilling.Proofs.Ledger.WellFormed

/-!
# Committing a waiting change

A downgrade or a seat decrease waits for the end of the period; `commitPendingChange` then
commits it, or leaves it waiting. What it decides is read off the subscription, the plans in the
catalog, the clock and the live headcount of the company, and nothing else:

- nothing waiting: nothing to do;
- an expired subscription never takes its change;
- a change whose period has not ended is not due;
- a due change commits to the waiting plan, or the plan in force, which the catalog must hold;
- more active employees than the new seat cap refuse it, and it stays waiting;
- otherwise it is committed: the new plan and seat cap, nothing waiting, the next version, and an
  active subscription rolls into the period after its own.

Each outcome is one lemma about a run on the records in memory with nothing armed to fail.
-/

namespace SeatBilling

open SeatBilling.Time

theorem Time.Moment.not_lt_of_le {first second : Moment} (before : first ≤ second) : ¬ second < first :=
  Int.not_lt.mpr before

theorem run_emit (world : World) (level : Log.Level) (target message : String) (fields : List (String × String)) :
    (emit level target message fields).run.run world =
      (.ok (), { world with logs := world.logs ++ [⟨level, target, message, fields⟩] }) :=
  rfl

theorem Steady.withLogs {world : World} (steady : Steady world) (logs : List Log.Record) :
    Steady { world with logs := logs } :=
  ⟨steady.noFaults, steady.inMemory⟩

namespace Calls

variable {world : World} (steady : Steady world)
include steady

theorem getSubscription_run (id : Uuid) :
    (getSubscription id).run.run world = (.ok (world.store.subscription? id), world) := by
  rw [getSubscription, guarded_run steady.noFaults, backed_run steady.inMemory, readStore_run]

theorem countActive_run (company : Uuid) :
    (countActive company).run.run world = (.ok (activeEmployees world.headcount company), world) := by
  rw [countActive, guarded_run steady.noFaults, backed_run steady.inMemory]
  rfl

end Calls

/-- Writing a subscription over the version read stores it at the next version, when that
version fits its word. -/
theorem Store.updateSubscription_of_fits {store : Store} {current next : Subscription}
    (found : store.subscription? next.id = some current) (fits : Arith.fitsInt64 (current.version + 1) = true) :
    store.updateSubscription next current.version =
      .ok (true, { store with subscriptions := store.subscriptions.map (Store.bumped next current.version) }) := by
  rcases Store.updateSubscription_of_read found with stored | overflowed
  · exact stored
  · unfold Store.updateSubscription at overflowed
    simp [found, Store.nextVersion, Arith.within64, fits] at overflowed

namespace Ledger

variable {world : World} (steady : Steady world)
include steady

theorem requireSubscriptionId_run {id : Uuid} {subscription : Subscription}
    (found : world.store.subscription? id = some subscription) :
    (requireSubscriptionId id).run.run world = (.ok subscription, world) := by
  unfold requireSubscriptionId
  rw [run_bind, Calls.getSubscription_run steady, found]
  rfl

/-- Saving over a subscription read stores the next version of the one written. -/
theorem save_run {current next : Subscription} (found : world.store.subscription? current.id = some current)
    (sameId : next.id = current.id) (fits : Arith.fitsInt64 (current.version + 1) = true) :
    (save current next).run.run world =
      (.ok { next with version := current.version + 1 },
        { world with store := { world.store with
          subscriptions := world.store.subscriptions.map (Store.bumped next current.version) } }) := by
  have foundNext : world.store.subscription? next.id = some current := by rw [sameId]; exact found
  have updated : (Calls.updateSubscription next current.version).run.run world =
      (.ok true, { world with store := { world.store with
        subscriptions := world.store.subscriptions.map (Store.bumped next current.version) } }) := by
    rw [Calls.updateSubscription, Calls.guarded_run steady.noFaults, Calls.backed_run steady.inMemory,
      Calls.haltingStep_run, Store.updateSubscription_of_fits foundNext fits]
  have numbered : Arith.within64 (current.version + 1) = some (current.version + 1) := by
    simp [Arith.within64, fits]
  unfold save
  rw [run_bind, updated]
  dsimp only
  rw [if_neg (by decide), run_bind, numbered, run_orOverflow_some]
  rfl

theorem Catalog.getPlan_run_missing {id : String} (absent : world.store.plan? id = none) :
    (Catalog.getPlan id).run.run world = (.error (.failed (.notFound ("Plan '" ++ id ++ "' not found"))), world) := by
  unfold Catalog.getPlan
  rw [run_bind, Calls.getPlan_run steady, absent]
  rfl

end Ledger

/-- The world `after` is `world` with other records, serial number and logs: records that hold
`subscriptions`, `invoices` and the plans of `world`. -/
structure World.Rewritten (after world : World) (subscriptions : List Subscription) (invoices : List Invoice) :
    Prop where
  shape : ∃ store serial logs, after = { world with store := store, serial := serial, logs := logs }
  subscriptions : after.store.subscriptions = subscriptions
  invoices : after.store.invoices = invoices
  plans : after.store.plans = world.store.plans

/-- A world rewritten by a versioned write of `next` over `current` holds the next version of
`next` under the identifier, and every other subscription as it was. -/
theorem World.Rewritten.subscription?_of_bumped {after world : World} {current next : Subscription}
    {invoices : List Invoice}
    (rewritten : after.Rewritten world (world.store.subscriptions.map (Store.bumped next current.version)) invoices)
    (found : world.store.subscription? current.id = some current) (sameId : next.id = current.id) (id : Uuid) :
    after.store.subscription? id =
      if id = current.id then some { next with version := current.version + 1 } else world.store.subscription? id := by
  have putting := (@Facts.Putting.of_bumped world.facts _ _ found sameId).subscription? id
  unfold Store.subscription? at putting ⊢
  rw [rewritten.subscriptions]
  exact putting

/-- The period a committed change runs in: an active subscription rolls into the period after
its own, any other keeps its own; nothing when the next period leaves the calendar. -/
def Subscription.committedPeriod? (subscription : Subscription) (period : Span) : Option (Moment × Moment) :=
  if subscription.status = .active then (subscription.periodEnd.shift? period).map (subscription.periodEnd, ·)
  else some (subscription.periodStart, subscription.periodEnd)

/-- The subscription a due change commits to, before its version is bumped: the target plan and
the seat cap the change names, nothing waiting, the same status, the period `period`, written at
`now`. -/
def Subscription.committedTo (subscription : Subscription) (targetPlan : Plan) (period : Moment × Moment)
    (now : Moment) : Subscription :=
  { subscription.clearPending with
    plan := targetPlan.id, maxSeats := subscription.committedSeats targetPlan, periodStart := period.1,
    periodEnd := period.2, updatedAt := now }

namespace Ledger

variable {world : World} (steady : Steady world) {subscription : Subscription}
  (found : world.store.subscription? subscription.id = some subscription)
include steady found

/-- Nothing waits: nothing to commit. -/
theorem commitPendingChange_run_idle (idle : subscription.hasPendingChange = false) :
    (commitPendingChange subscription.id).run.run world = (.ok .nothingPending, world) := by
  unfold commitPendingChange
  rw [run_bind, requireSubscriptionId_run steady found]
  dsimp only
  rw [run_bind, requireSubscriptionId_run steady found]
  dsimp only
  rw [if_pos (by simp [idle])]
  rfl

/-- An expired subscription never takes its change. -/
theorem commitPendingChange_run_expired (waiting : subscription.hasPendingChange = true)
    (expired : subscription.status = .expired) :
    (commitPendingChange subscription.id).run.run world = (.ok (.notEligible .expired), world) := by
  unfold commitPendingChange
  rw [run_bind, requireSubscriptionId_run steady found]
  dsimp only
  rw [run_bind, requireSubscriptionId_run steady found]
  dsimp only
  rw [if_neg (by simp [waiting]), if_pos (by simp [expired]), expired]
  rfl

/-- A change whose period has not ended is not due. -/
theorem commitPendingChange_run_early (waiting : subscription.hasPendingChange = true)
    (live : subscription.status ≠ .expired) (early : world.clock < subscription.periodEnd) :
    (commitPendingChange subscription.id).run.run world = (.ok .notDue, world) := by
  unfold commitPendingChange
  rw [run_bind, requireSubscriptionId_run steady found]
  dsimp only
  rw [run_bind, requireSubscriptionId_run steady found]
  dsimp only
  rw [if_neg (by simp [waiting]), if_neg (by simpa using live), run_bind, run_now]
  dsimp only
  rw [if_pos early]
  rfl

/-- A due change whose plan the catalog does not hold fails, and nothing is written. -/
theorem commitPendingChange_run_missing (waiting : subscription.hasPendingChange = true)
    (live : subscription.status ≠ .expired) (due : subscription.periodEnd ≤ world.clock)
    (absent : world.store.plan? (subscription.pendingPlan.getD subscription.plan) = none) :
    (commitPendingChange subscription.id).run.run world =
      (.error (.failed (.notFound ("Plan '" ++ subscription.pendingPlan.getD subscription.plan ++ "' not found"))),
        world) := by
  unfold commitPendingChange
  rw [run_bind, requireSubscriptionId_run steady found]
  dsimp only
  rw [run_bind, requireSubscriptionId_run steady found]
  dsimp only
  rw [if_neg (by simp [waiting]), if_neg (by simpa using live), run_bind, run_now]
  dsimp only
  rw [if_neg (Moment.not_lt_of_le due), run_bind, Catalog.getPlan_run_missing steady absent]

/-- A due change the live headcount does not fit is refused; only an event is recorded. -/
theorem commitPendingChange_run_refused (waiting : subscription.hasPendingChange = true)
    (live : subscription.status ≠ .expired) (due : subscription.periodEnd ≤ world.clock) {targetPlan : Plan}
    (listed : world.store.plan? (subscription.pendingPlan.getD subscription.plan) = some targetPlan)
    (tooMany : subscription.committedSeats targetPlan < activeEmployees world.headcount subscription.company) :
    ∃ after, (commitPendingChange subscription.id).run.run world =
        (.ok (.refused (activeEmployees world.headcount subscription.company) (subscription.committedSeats targetPlan)),
          after) ∧
      after.Rewritten world world.store.subscriptions world.store.invoices := by
  unfold commitPendingChange
  rw [run_bind, requireSubscriptionId_run steady found]
  dsimp only
  rw [run_bind, requireSubscriptionId_run steady found]
  dsimp only
  rw [if_neg (by simp [waiting]), if_neg (by simpa using live), run_bind, run_now]
  dsimp only
  rw [if_neg (Moment.not_lt_of_le due), run_bind, Catalog.getPlan_run steady listed]
  dsimp only
  rw [run_bind, Calls.countActive_run steady]
  dsimp only
  -- the seat cap is the code's own match on the waiting fields: read it as the one named here
  change ∃ after, StateT.run (ExceptT.run (if activeEmployees world.headcount subscription.company >
    subscription.committedSeats targetPlan then _ else _)) world = _ ∧ _
  rw [if_pos (gt_iff_lt.mpr tooMany), run_bind, run_emit]
  dsimp only
  rw [run_bind, EventLog.record_run (steady.withLogs _)]
  exact ⟨_, rfl, ⟨_, _, _, rfl⟩, rfl, rfl, rfl⟩

/-- A due change that fits the live headcount is committed over the subscription read, at the
next version. -/
theorem commitPendingChange_run_committed (waiting : subscription.hasPendingChange = true)
    (live : subscription.status ≠ .expired) (due : subscription.periodEnd ≤ world.clock) {targetPlan : Plan}
    (listed : world.store.plan? (subscription.pendingPlan.getD subscription.plan) = some targetPlan)
    (fits : activeEmployees world.headcount subscription.company ≤ subscription.committedSeats targetPlan)
    {period : Moment × Moment} (dated : subscription.committedPeriod? world.config.period = some period)
    (roomy : Arith.fitsInt64 (subscription.version + 1) = true) :
    ∃ after, (commitPendingChange subscription.id).run.run world =
        (.ok (.committed { subscription.committedTo targetPlan period world.clock with
          version := subscription.version + 1 }), after) ∧
      after.Rewritten world (world.store.subscriptions.map
        (Store.bumped (subscription.committedTo targetPlan period world.clock) subscription.version))
        world.store.invoices := by
  unfold commitPendingChange
  rw [run_bind, requireSubscriptionId_run steady found]
  dsimp only
  rw [run_bind, requireSubscriptionId_run steady found]
  dsimp only
  rw [if_neg (by simp [waiting]), if_neg (by simpa using live), run_bind, run_now]
  dsimp only
  rw [if_neg (Moment.not_lt_of_le due), run_bind, Catalog.getPlan_run steady listed]
  dsimp only
  rw [run_bind, Calls.countActive_run steady]
  dsimp only
  change ∃ after, StateT.run (ExceptT.run (if activeEmployees world.headcount subscription.company >
    subscription.committedSeats targetPlan then _ else _)) world = _ ∧ _
  rw [if_neg (Int.not_lt.mpr fits), run_bind, run_config]
  dsimp only
  unfold Subscription.committedPeriod? at dated
  -- an active subscription rolls its period first; then either way the commit saves, records
  -- and logs alike
  by_cases active : subscription.status = .active
  on_goal 1 =>
    rw [if_pos active, Option.map_eq_some_iff] at dated
    obtain ⟨finish, rolled, rfl⟩ := dated
    rw [if_pos (by simp [active]), run_bind, rolled, run_orOverflow_some]
    dsimp only
  on_goal 2 =>
    rw [if_neg active, Option.some.injEq] at dated
    subst dated
    rw [if_neg (by simpa using active)]
  all_goals
    rw [run_bind, run_pure]
    dsimp only
    rw [run_bind, save_run steady found ?sameId roomy]
    dsimp only
    rw [run_bind, EventLog.record_run (steady.update _ _ _)]
    dsimp only
    rw [run_bind, run_emit]
    refine ⟨_, rfl, ?_⟩
    exact ⟨⟨_, _, _, rfl⟩, rfl, rfl, rfl⟩
    case sameId => rfl

end Ledger

/-- Committing the waiting change of a stored subscription, with the records in memory and nothing
armed to fail: nothing waiting, an expired subscription and a change not yet due leave the world
as it is; a due change fails, writing nothing, when the catalog lacks its plan; it is refused,
with the subscriptions as they were, when the live headcount exceeds the new seat cap; and
otherwise it is committed and stored at the next version, when that version and the committed
period are in range. -/
theorem commit_follows_pending_change {world : World} (steady : Steady world) {subscription : Subscription}
    (found : world.store.subscription? subscription.id = some subscription) :
    let run := (Ledger.commitPendingChange subscription.id).run.run world
    let active := activeEmployees world.headcount subscription.company
    let target := subscription.pendingPlan.getD subscription.plan
    (subscription.hasPendingChange = false → run = (.ok .nothingPending, world)) ∧
    (subscription.hasPendingChange = true →
      (subscription.status = .expired → run = (.ok (.notEligible .expired), world)) ∧
      (subscription.status ≠ .expired → world.clock < subscription.periodEnd → run = (.ok .notDue, world)) ∧
      (subscription.status ≠ .expired → subscription.periodEnd ≤ world.clock →
        (world.store.plan? target = none →
          run = (.error (.failed (.notFound ("Plan '" ++ target ++ "' not found"))), world)) ∧
        ∀ targetPlan, world.store.plan? target = some targetPlan →
          (subscription.committedSeats targetPlan < active →
            ∃ after, run = (.ok (.refused active (subscription.committedSeats targetPlan)), after) ∧
              after.store.subscriptions = world.store.subscriptions) ∧
          (active ≤ subscription.committedSeats targetPlan →
            ∀ period, subscription.committedPeriod? world.config.period = some period →
            Arith.fitsInt64 (subscription.version + 1) = true →
            ∃ after, run = (.ok (.committed { subscription.committedTo targetPlan period world.clock with
                version := subscription.version + 1 }), after) ∧
              ∀ id, after.store.subscription? id =
                if id = subscription.id then
                  some { subscription.committedTo targetPlan period world.clock with version := subscription.version + 1 }
                else world.store.subscription? id))) := by
  intro run active target
  refine ⟨Ledger.commitPendingChange_run_idle steady found, fun waiting => ⟨Ledger.commitPendingChange_run_expired
    steady found waiting, Ledger.commitPendingChange_run_early steady found waiting, fun live due =>
      ⟨Ledger.commitPendingChange_run_missing steady found waiting live due, fun targetPlan listed => ⟨?_, ?_⟩⟩⟩⟩
  · intro tooMany
    obtain ⟨after, ran, rewritten⟩ :=
      Ledger.commitPendingChange_run_refused steady found waiting live due listed tooMany
    exact ⟨after, ran, rewritten.subscriptions⟩
  · intro fits period dated roomy
    obtain ⟨after, ran, rewritten⟩ :=
      Ledger.commitPendingChange_run_committed steady found waiting live due listed fits dated roomy
    exact ⟨after, ran, rewritten.subscription?_of_bumped found rfl⟩

/-- The January subscription with a cut to three seats waiting. -/
def seatCutSubscription : Subscription := { januarySubscription with pendingMaxSeats := some 3 }

/-- `februaryWorld` holding `seatCutSubscription`, whose period ended the day before. -/
def seatCutWorld : World :=
  { februaryWorld with store := { februaryWorld.store with subscriptions := [seatCutSubscription] } }

/-- The thirty days after the January period. -/
def februaryPeriod : Moment × Moment :=
  (januarySubscription.periodEnd, ⟨(1767225600 + 60 * 86400) * nanosPerSecond, 0⟩)

/-- On the first of February the seat cut of the January subscription is committed, and the
subscription rolls into the next thirty days at three seats. -/
theorem february_seat_cut_commits :
    Steady seatCutWorld ∧ seatCutWorld.store.subscription? seatCutSubscription.id = some seatCutSubscription ∧
      ∃ after, (Ledger.commitPendingChange seatCutSubscription.id).run.run seatCutWorld =
        (.ok (.committed { seatCutSubscription.committedTo Ledger.basicPlan februaryPeriod seatCutWorld.clock with
          version := 1 }), after) ∧
        after.store.subscription? seatCutSubscription.id =
          some { seatCutSubscription.committedTo Ledger.basicPlan februaryPeriod seatCutWorld.clock with version := 1 } := by
  have steady : Steady seatCutWorld := ⟨rfl, rfl⟩
  have found : seatCutWorld.store.subscription? seatCutSubscription.id = some seatCutSubscription := by decide
  have listed : seatCutWorld.store.plan? (seatCutSubscription.pendingPlan.getD seatCutSubscription.plan) =
      some Ledger.basicPlan := by decide
  have dated : seatCutSubscription.committedPeriod? seatCutWorld.config.period = some februaryPeriod := by decide
  obtain ⟨after, ran, stored⟩ := ((((commit_follows_pending_change steady found).2 rfl).2.2 (by decide)
    (by decide)).2 Ledger.basicPlan listed).2 (by decide) februaryPeriod dated (by decide)
  refine ⟨steady, found, after, ran, ?_⟩
  rw [stored, if_pos rfl]
  rfl

/-- The January subscription with a move to a plan the catalog does not hold waiting. -/
def unlistedMoveSubscription : Subscription := { januarySubscription with pendingPlan := some "ghost" }

/-- `februaryWorld` holding `unlistedMoveSubscription`. -/
def unlistedMoveWorld : World :=
  { februaryWorld with store := { februaryWorld.store with subscriptions := [unlistedMoveSubscription] } }

/-- A due move to a plan missing from the catalog is neither refused nor committed: the commit
fails, naming the plan. -/
theorem commit_fails_on_unlisted_plan :
    (Ledger.commitPendingChange unlistedMoveSubscription.id).run.run unlistedMoveWorld =
      (.error (.failed (.notFound "Plan 'ghost' not found")), unlistedMoveWorld) :=
  Ledger.commitPendingChange_run_missing ⟨rfl, rfl⟩ (by decide) rfl (by decide) (by decide) (by decide)

end SeatBilling
