import SeatBilling.Proofs.Sweep.CalmSteps
import SeatBilling.Proofs.Catalog.SeatPricing

/-!
# Date arithmetic at the calendar's edge

The ledger computes six dates, each from a moment and a span:

- a trial's end, the clock plus the trial (`Ledger.startTrial`);
- a new invoice's expiry, the clock plus the invoice lifetime (`Invoicing.storePending`);
- the period end a payment buys, one period after the payment, or after the later of the current
  period's end and the payment when a checkout renews the plan in force (`paidEffect`);
- a committed change's next period end, one period after the current one
  (`Ledger.commitPendingChange`);
- the expiry pass's grace cutoff, the clock less the grace period (`Ledger.expireLapsed`);
- the stale sweep's cutoff, the clock less the invoice lifetime (`Invoicing.expireStale`).

Each goes through `Moment.shift?` or `Moment.unshift?`, which have no result once the wall clock
leaves the years -9999 to 9999, and the operation then halts with `overflow`. Nothing keeps the
clock, a payment time or a configured span away from that edge. What holds instead is exact: an
operation that reaches its date computation halts there precisely when the date leaves the
calendar, and otherwise goes on without an overflow.
-/

namespace SeatBilling

open SeatBilling.Time

/-- A result that is `none` exactly when an outcome shows: what a halt at an `Option` step needs. -/
theorem halts_iff_eq_none {α : Type} {shows : Prop} {result : Option α} (halts : result = none → shows)
    (goesOn : ∀ value, result = some value → ¬shows) : shows ↔ result = none := by
  cases given : result with
  | none => exact ⟨fun _ => rfl, fun _ => halts given⟩
  | some value => exact ⟨fun shown => absurd shown (goesOn value given), nofun⟩

/-! ## Leaving the calendar -/

theorem Time.Moment.shift?_eq_none_iff (moment : Moment) (span : Span) :
    moment.shift? span = none ↔
      ¬(Moment.wallMin ≤ moment.wall + span.seconds * nanosPerSecond ∧
        moment.wall + span.seconds * nanosPerSecond ≤ Moment.wallMax) := by
  simp [Moment.shift?, Moment.ofWall?, Moment.wallInRange]

theorem Time.Moment.unshift?_eq_none_iff (moment : Moment) (span : Span) :
    moment.unshift? span = none ↔
      ¬(Moment.wallMin ≤ moment.wall - span.seconds * nanosPerSecond ∧
        moment.wall - span.seconds * nanosPerSecond ≤ Moment.wallMax) := by
  simp [Moment.unshift?, Moment.ofWall?, Moment.wallInRange]

/-! ## The period a payment buys -/

/-- Where the period a payment buys starts, when the payment computes a period end: at the
payment, or, for a checkout renewing the plan in force, at the later of the current period's end
and the payment. A seat change computes none. -/
def paidPeriodStart? (invoice : Invoice) (current : Option Subscription) (paidAt : Moment) : Option Moment :=
  match current with
  | none => some paidAt
  | some current =>
    match invoice.purpose with
    | .checkout => some (if current.plan == invoice.plan then current.periodEnd.latest paidAt else paidAt)
    | .upgrade => some paidAt
    | .seatChange => none

/-- A payment has no write exactly when the period end it computes leaves the calendar, or the
subscription it updates is at the last version. -/
theorem paidEffect_eq_none_iff (newId : Uuid) (invoice : Invoice) (current : Option Subscription)
    (paidAt now : Moment) (period : Span) :
    paidEffect newId invoice current paidAt now period = none ↔
      (∃ start, paidPeriodStart? invoice current paidAt = some start ∧ start.shift? period = none) ∨
      ∃ subscription, current = some subscription ∧ Arith.within64 (subscription.version + 1) = none := by
  cases current with
  | none => cases shifted : paidAt.shift? period <;> simp [paidEffect, paidPeriodStart?, shifted]
  | some current =>
    -- the period end is computed first, then the version
    cases purpose : invoice.purpose with
    | checkout =>
      by_cases samePlan : current.plan = invoice.plan
      · cases shifted : (current.periodEnd.latest paidAt).shift? period <;>
          cases bumped : Arith.within64 (current.version + 1) <;>
          simp [paidEffect, paidPeriodStart?, purpose, samePlan, shifted, bumped]
      · cases shifted : paidAt.shift? period <;>
          cases bumped : Arith.within64 (current.version + 1) <;>
          simp [paidEffect, paidPeriodStart?, purpose, samePlan, shifted, bumped]
    | upgrade =>
      cases shifted : paidAt.shift? period <;>
        cases bumped : Arith.within64 (current.version + 1) <;>
        simp [paidEffect, paidPeriodStart?, purpose, shifted, bumped]
    | seatChange =>
      by_cases samePlan : invoice.plan = current.plan <;>
        cases bumped : Arith.within64 (current.version + 1) <;>
        simp [paidEffect, paidPeriodStart?, purpose, samePlan, bumped]

/-! ## A trial's end -/

theorem Catalog.getPurchasablePlan_run {world : World} (steady : Steady world) {id : String} {plan : Plan}
    (found : world.store.plan? id = some plan) (onSale : plan.active = true) :
    (Catalog.getPurchasablePlan id).run.run world = (.ok plan, world) := by
  unfold Catalog.getPurchasablePlan
  rw [run_bind, Catalog.getPlan_run steady found]
  simp only [onSale, if_true]
  rfl

namespace Ledger

section Trial

variable {world : World} (steady : Steady world) {company : Uuid} {planId : String} {plan : Plan}
  (found : world.store.plan? planId = some plan) (onSale : plan.active = true)
  (first : world.store.subscriptionOf? company = none)
include steady found onSale first

/-- A trial on a plan on sale, for a company without a subscription, draws its identifier and
halts when its end leaves the calendar. -/
theorem startTrial_run_overflow (late : world.clock.shift? world.config.trial = none) :
    (startTrial company planId).run.run world = (.error .overflow, { world with serial := world.serial + 1 }) := by
  unfold startTrial
  rw [run_bind, Catalog.getPurchasablePlan_run steady found onSale]
  dsimp only
  rw [run_bind, subscriptionOf, Calls.getSubscriptionByCompany_run steady, first]
  simp only [run_bind, Option.isSome_none, Bool.false_eq_true, ↓reduceIte, run_now, run_config, run_freshId,
    late, run_orOverflow_none]

/-- A trial whose end is in the calendar does not halt with an overflow: it is stored, or the store
refuses it. -/
theorem startTrial_run_in_range {trialEnd : Moment} (shifted : world.clock.shift? world.config.trial = some trialEnd) :
    ((startTrial company planId).run.run world).1 ≠ .error .overflow := by
  unfold startTrial
  rw [run_bind, Catalog.getPurchasablePlan_run steady found onSale]
  dsimp only
  rw [run_bind, subscriptionOf, Calls.getSubscriptionByCompany_run steady, first]
  simp only [run_bind, Option.isSome_none, Bool.false_eq_true, ↓reduceIte, run_now, run_config, run_freshId,
    shifted, run_orOverflow_some]
  have drawn : Steady { world with serial := world.serial + 1 } :=
    steady.update world.store (world.serial + 1) world.provider
  rw [Calls.insertSubscription, Calls.guarded_run drawn.noFaults, Calls.backed_run drawn.inMemory,
    Calls.stepStore_run]
  -- the store takes the trial or refuses it; either way nothing overflows
  cases world.store.insertSubscription _ with
  | error failure => simp [Except.map]
  | ok store =>
    simp only [Except.map]
    rw [EventLog.record_run (steady.update store (world.serial + 1) world.provider)]
    simp

end Trial

end Ledger

/-! ## A committed change's next period -/

theorem Subscription.committedPeriod?_eq_none_iff (subscription : Subscription) (period : Span) :
    subscription.committedPeriod? period = none ↔
      subscription.status = .active ∧ subscription.periodEnd.shift? period = none := by
  by_cases active : subscription.status = .active <;> simp [Subscription.committedPeriod?, active]

/-- A bulk expiry to a status that a later one does not move keeps the later one's moves within
room of their version: what the first moved the later one leaves, and the rest is as it was. -/
theorem Store.roomy_map_expired {statuses later : List SubscriptionStatus} {cutoff laterCutoff now : Moment}
    {target : SubscriptionStatus} (outside : later.contains target = false) {subscriptions : List Subscription}
    (roomy : ∀ subscription ∈ subscriptions, Store.expires later laterCutoff subscription = true →
      Arith.fitsInt64 (subscription.version + 1) = true) :
    ∀ subscription ∈ subscriptions.map (Store.expired statuses cutoff target now),
      Store.expires later laterCutoff subscription = true → Arith.fitsInt64 (subscription.version + 1) = true := by
  intro subscription member moves
  obtain ⟨original, origin, rfl⟩ := List.mem_map.mp member
  by_cases moved : Store.expires statuses cutoff original = true
  · have notLater : target ∉ later := by simpa using outside
    rw [Store.expired, if_pos moved] at moves
    simp [Store.expires, notLater] at moves
  · rw [Store.expired, if_neg moved] at moves ⊢
    exact roomy original origin moves

namespace Ledger

section Commit

variable {world : World} (steady : Steady world) {subscription : Subscription}
  (found : world.store.subscription? subscription.id = some subscription)
include steady found

/-- A due change the headcount fits, on an active subscription whose next period leaves the
calendar, halts before anything is written. -/
theorem commitPendingChange_run_overflow (waiting : subscription.hasPendingChange = true)
    (live : subscription.status ≠ .expired) (due : subscription.periodEnd ≤ world.clock) {targetPlan : Plan}
    (listed : world.store.plan? (subscription.pendingPlan.getD subscription.plan) = some targetPlan)
    (fits : activeEmployees world.headcount subscription.company ≤ subscription.committedSeats targetPlan)
    (active : subscription.status = .active) (late : subscription.periodEnd.shift? world.config.period = none) :
    (commitPendingChange subscription.id).run.run world = (.error .overflow, world) := by
  unfold commitPendingChange
  rw [run_bind, requireSubscriptionId_run steady found]
  dsimp only
  rw [run_bind, requireSubscriptionId_run steady found]
  dsimp only
  rw [if_neg (by simp [waiting]), if_neg (by simpa using live), run_bind, run_now]
  dsimp only
  rw [if_neg (Moment.not_lt_of_le due), run_bind, Catalog.getPlan_run steady listed]
  dsimp only
  rw [run_bind, Calls.countActive_run steady]
  dsimp only
  change StateT.run (ExceptT.run (if activeEmployees world.headcount subscription.company >
    subscription.committedSeats targetPlan then _ else _)) world = _
  rw [if_neg (Int.not_lt.mpr fits), run_bind, run_config]
  dsimp only
  rw [if_pos (by simp [active]), run_bind, late, run_orOverflow_none]

end Commit

/-! ## The grace cutoff -/

section Expiry

variable {world : World} (steady : Steady world)
include steady

/-- With a subscription lapsed, a grace cutoff outside the calendar halts the pass before it
moves anything. -/
theorem expireLapsed_run_overflow
    (lapsing : world.store.listExpiring [.trial, .active, .pastDue, .cancelled] world.clock ≠ [])
    (late : world.clock.unshift? world.config.gracePeriod = none) :
    expireLapsed.run.run world = (.error .overflow, world) := by
  unfold expireLapsed
  rw [run_bind, run_now]
  dsimp only
  rw [run_bind, Calls.listExpiring_run steady]
  dsimp only
  rw [if_neg (by simpa using lapsing), run_bind, run_config]
  dsimp only
  rw [run_bind, late, run_orOverflow_none]

/-- With the grace cutoff in the calendar and room for the next version of every subscription,
the pass returns its counts, whatever the grace period's sign. -/
theorem expireLapsed_run_in_range {cutoff : Moment}
    (cut : world.clock.unshift? world.config.gracePeriod = some cutoff)
    (roomy : ∀ subscription ∈ world.store.subscriptions, Arith.fitsInt64 (subscription.version + 1) = true) :
    ∃ counts after, expireLapsed.run.run world = (.ok counts, after) := by
  have stays : ∀ store : Store, Steady { world with store := store } :=
    fun _ => ⟨steady.noFaults, steady.inMemory⟩
  unfold expireLapsed
  rw [run_bind, run_now]
  dsimp only
  rw [run_bind, Calls.listExpiring_run steady]
  dsimp only
  split
  · exact ⟨_, _, rfl⟩
  rw [run_bind, run_config]
  dsimp only
  rw [run_bind, cut, run_orOverflow_some]
  dsimp only
  -- each bulk update moves only what the earlier ones left alone, so one version of room is enough
  have roomyMoved : ∀ {statuses : List SubscriptionStatus} {cutoff : Moment},
      ∀ subscription ∈ world.store.subscriptions, Store.expires statuses cutoff subscription = true →
        Arith.fitsInt64 (subscription.version + 1) = true :=
    fun subscription member _ => roomy subscription member
  rw [run_bind, Calls.updateExpiredToStatus_run_of_fits steady roomyMoved]
  dsimp only
  rw [run_bind, Calls.updateExpiredToStatus_run_of_fits (stays _) (Store.roomy_map_expired rfl roomyMoved)]
  dsimp only
  rw [run_bind, Calls.updateExpiredToStatus_run_of_fits (stays _)
    (Store.roomy_map_expired rfl (Store.roomy_map_expired rfl roomyMoved))]
  dsimp only
  split <;> exact ⟨_, _, rfl⟩

end Expiry

end Ledger

/-! ## The stale cutoff -/

/-- A stale cutoff outside the calendar halts the sweep before it lists anything. -/
theorem Invoicing.expireStale_run_overflow {world : World}
    (late : world.clock.unshift? world.config.invoiceTtl = none) :
    Invoicing.expireStale.run.run world = (.error .overflow, world) := by
  unfold Invoicing.expireStale
  rw [run_bind, run_config]
  dsimp -zeta only
  rw [run_bind, run_now]
  dsimp -zeta only
  rw [run_bind, late, run_orOverflow_none]

/-! ## Every date computation -/

/-- Each date the ledger computes halts its operation exactly when it leaves the calendar. A
shifted wall clock is out of it when it falls outside the years -9999 to 9999; then, with the
records in memory and nothing armed to fail, and once the operation reaches the date:

- a trial on a plan on sale, for a company without a subscription, halts with an overflow
  exactly when the clock plus the trial is out;
- storing a new invoice halts exactly when the clock plus the invoice lifetime is out;
- a payment has no write exactly when the period end it computes is out, or the subscription it
  updates is at the last version;
- committing a due change the headcount fits, below the last version, halts exactly when the
  subscription is active and its period end plus a period is out;
- the expiry pass, with room for every subscription's next version, halts exactly when some
  subscription has lapsed and the clock less the grace period is out;
- the stale sweep over records with distinct ids halts exactly when the clock less the invoice
  lifetime is out. -/
theorem ledger_dates_halt_outside_calendar (world : World) (steady : Steady world) :
    (∀ (moment : Moment) (span : Span), moment.shift? span = none ↔
      ¬(Moment.wallMin ≤ moment.wall + span.seconds * nanosPerSecond ∧
        moment.wall + span.seconds * nanosPerSecond ≤ Moment.wallMax)) ∧
    (∀ (moment : Moment) (span : Span), moment.unshift? span = none ↔
      ¬(Moment.wallMin ≤ moment.wall - span.seconds * nanosPerSecond ∧
        moment.wall - span.seconds * nanosPerSecond ≤ Moment.wallMax)) ∧
    (∀ company planId plan, world.store.plan? planId = some plan → plan.active = true →
      world.store.subscriptionOf? company = none →
      (((Ledger.startTrial company planId).run.run world).1 = .error .overflow ↔
        world.clock.shift? world.config.trial = none)) ∧
    (∀ request, ((Invoicing.storePending request).run.run world).1 = .error .overflow ↔
      world.clock.shift? world.config.invoiceTtl = none) ∧
    (∀ newId invoice current paidAt now period, paidEffect newId invoice current paidAt now period = none ↔
      (∃ start, paidPeriodStart? invoice current paidAt = some start ∧ start.shift? period = none) ∨
      ∃ subscription, current = some subscription ∧ Arith.within64 (subscription.version + 1) = none) ∧
    (∀ subscription targetPlan, world.store.subscription? subscription.id = some subscription →
      subscription.hasPendingChange = true → subscription.status ≠ .expired →
      subscription.periodEnd ≤ world.clock →
      world.store.plan? (subscription.pendingPlan.getD subscription.plan) = some targetPlan →
      activeEmployees world.headcount subscription.company ≤ subscription.committedSeats targetPlan →
      Arith.fitsInt64 (subscription.version + 1) = true →
      (((Ledger.commitPendingChange subscription.id).run.run world).1 = .error .overflow ↔
        subscription.status = .active ∧ subscription.periodEnd.shift? world.config.period = none)) ∧
    ((∀ subscription ∈ world.store.subscriptions, Arith.fitsInt64 (subscription.version + 1) = true) →
      ((Ledger.expireLapsed.run.run world).1 = .error .overflow ↔
        world.store.listExpiring [.trial, .active, .pastDue, .cancelled] world.clock ≠ [] ∧
          world.clock.unshift? world.config.gracePeriod = none)) ∧
    (world.store.Keyed →
      ((Invoicing.expireStale.run.run world).1 = .error .overflow ↔
        world.clock.unshift? world.config.invoiceTtl = none)) := by
  refine ⟨Moment.shift?_eq_none_iff, Moment.unshift?_eq_none_iff, ?trial, ?invoice, paidEffect_eq_none_iff,
    ?commit, ?expiry, ?stale⟩
  case trial =>
    intro company planId plan found onSale first
    exact halts_iff_eq_none
      (fun late => by rw [Ledger.startTrial_run_overflow steady found onSale first late])
      (fun _ shifted => Ledger.startTrial_run_in_range steady found onSale first shifted)
  case invoice =>
    intro request
    refine halts_iff_eq_none (fun late => by rw [Invoicing.storePending_run_overflow late]) fun _ shifted => ?_
    rw [Invoicing.storePending_run steady shifted]
    split <;> nofun
  case commit =>
    intro subscription targetPlan found waiting live due listed fits roomy
    rw [← Subscription.committedPeriod?_eq_none_iff]
    refine halts_iff_eq_none (fun late => ?_) fun _ dated => ?_
    · obtain ⟨active, late⟩ := (Subscription.committedPeriod?_eq_none_iff _ _).1 late
      rw [Ledger.commitPendingChange_run_overflow steady found waiting live due listed fits active late]
    · obtain ⟨_, ran, -⟩ :=
        Ledger.commitPendingChange_run_committed steady found waiting live due listed fits dated roomy
      rw [ran]
      nofun
  case expiry =>
    intro roomy
    by_cases lapsing : world.store.listExpiring [.trial, .active, .pastDue, .cancelled] world.clock = []
    · -- nothing has lapsed: the pass returns at once, and computes no cutoff
      rw [Ledger.expireLapsed_run_of_current steady lapsing]
      simp [lapsing]
    · rw [and_iff_right lapsing]
      refine halts_iff_eq_none (fun late => by rw [Ledger.expireLapsed_run_overflow steady lapsing late])
        fun _ cut => ?_
      obtain ⟨_, _, ran⟩ := Ledger.expireLapsed_run_in_range steady cut roomy
      rw [ran]
      nofun
  case stale =>
    intro keyed
    refine halts_iff_eq_none (fun late => by rw [Invoicing.expireStale_run_overflow late]) fun _ cut => ?_
    obtain ⟨_, ran, -⟩ := Invoicing.expireStale_run steady keyed cut
    rw [ran]
    nofun

/-- A week before the calendar ends: 9999-12-25T00:00:00Z. -/
def lastWeek : Moment := ⟨Moment.wallMax + 1 - 7 * nanosPerDay, 0⟩

/-- The quiet world with its clock at `lastWeek`. -/
def lastWeekWorld : World := { Ledger.quietStart with clock := lastWeek }

/-- The quiet world with its clock at the calendar's first instant, -9999-01-01T00:00:00Z. -/
def firstDayWorld : World := { Ledger.quietStart with clock := ⟨Moment.wallMin, 0⟩ }

/-- No clock is safe: a week before the calendar ends, a fortnight's trial ends past it and
starting one halts; on the calendar's first day, the stale sweep's cutoff lies before it and the
sweep halts, though there is no invoice at all. -/
theorem trial_and_sweep_halt_at_calendar_edge :
    lastWeekWorld.clock.shift? lastWeekWorld.config.trial = none ∧
      (Ledger.startTrial Ledger.exampleCompany "basic").run.run lastWeekWorld =
        (.error .overflow, { lastWeekWorld with serial := 1 }) ∧
    firstDayWorld.clock.unshift? firstDayWorld.config.invoiceTtl = none ∧
      Invoicing.expireStale.run.run firstDayWorld = (.error .overflow, firstDayWorld) :=
  ⟨by decide, rfl, by decide, rfl⟩

/-- Away from the edge nothing halts: a trial started on 2026-01-01 ends in the calendar. -/
theorem january_trial_stays_in_calendar :
    Steady Ledger.quietStart ∧
      ((Ledger.startTrial Ledger.exampleCompany "basic").run.run Ledger.quietStart).1 ≠ .error .overflow :=
  ⟨⟨rfl, rfl⟩, fun halted =>
    absurd (((ledger_dates_halt_outside_calendar Ledger.quietStart ⟨rfl, rfl⟩).2.2.1
      Ledger.exampleCompany "basic" Ledger.basicPlan rfl rfl rfl).1 halted) (by decide)⟩

end SeatBilling
