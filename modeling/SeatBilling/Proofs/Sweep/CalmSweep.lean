import SeatBilling.Proofs.Sweep.CalmSteps

/-!
# A sweep that meets no failure

A sweep runs three steps in turn: the stale pass, the pending-changes step and the expiry pass.
`Sweep.Calm` names what it takes for none of them to fail: records in memory with nothing armed to
fail, keyed by their identifiers; both cutoffs in the calendar and a grace period that is not
negative; the plan of every due change in the catalog; room for every write the sweep makes. Then
the sweep expires the stale invoices, commits every due change the live headcount allows and reports
the others stuck, and moves lapsed subscriptions by the expiry rule. Each subscription ends as it
alone decides (`Sweep.settle`), and the report is `Sweep.calmReport`, with no failure.

What the sweep leaves does not depend on the order in which the due changes are listed, and a
second sweep at the same clock leaves the records as they are and counts nothing: a stale invoice is
expired once, a committed change leaves nothing waiting, a refused one is refused again, and the
expiry rule does not move what it has moved.

A due change whose plan the catalog does not hold is not refused but fails, and the sweep reports
the failure.
-/

namespace SeatBilling

open SeatBilling.Time

/-! ## Records a sweep has been over -/

namespace Sweep

@[simp] theorem staleExpired_id (cutoff : Moment) (invoice : Invoice) :
    (staleExpired cutoff invoice).id = invoice.id := by
  unfold staleExpired
  split <;> rfl

/-- An invoice the stale pass has been over is not expired again. -/
theorem staleExpired_staleExpired (cutoff : Moment) (invoice : Invoice) :
    staleExpired cutoff (staleExpired cutoff invoice) = staleExpired cutoff invoice := by
  by_cases stale : invoice.isPending = true ∧ invoice.createdAt < cutoff
  · rw [staleExpired_of_stale stale, staleExpired_of_current]
    simp [Invoice.isPending]
  · rw [staleExpired_of_current stale, staleExpired_of_current stale]

end Sweep

/-- After a stale pass, no invoice is stale. -/
theorem Store.listStalePendingInvoices_of_swept {store : Store} {cutoff : Moment} {invoices : List Invoice}
    (swept : store.invoices = invoices.map (Sweep.staleExpired cutoff)) :
    store.listStalePendingInvoices cutoff = [] := by
  unfold Store.listStalePendingInvoices
  rw [swept, List.filter_eq_nil_iff]
  intro invoice member stale
  obtain ⟨original, -, rfl⟩ := List.mem_map.mp member
  simp only [Bool.and_eq_true, decide_eq_true_eq] at stale
  by_cases was : original.isPending = true ∧ original.createdAt < cutoff
  · rw [Sweep.staleExpired_of_stale was] at stale
    simp [Invoice.isPending] at stale
  · rw [Sweep.staleExpired_of_current was] at stale
    exact was stale

namespace Subscription

/-- The expiry rule writes only the status, the time of writing and the version. -/
theorem lapse_restates (subscription : Subscription) (now cutoff : Moment) :
    ∃ status updatedAt version, subscription.lapse now cutoff = { subscription with status, updatedAt, version } := by
  unfold lapse
  split
  · exact ⟨_, _, _, rfl⟩
  · exact ⟨subscription.status, subscription.updatedAt, subscription.version, rfl⟩

/-- The expiry rule leaves the change waiting, its plan and the period as they were. -/
theorem lapse_keeps_change (subscription : Subscription) (now cutoff : Moment) (catalog : Store) :
    (subscription.lapse now cutoff).hasPendingChange = subscription.hasPendingChange ∧
      (subscription.lapse now cutoff).periodEnd = subscription.periodEnd ∧
      (subscription.lapse now cutoff).targetPlan? catalog = subscription.targetPlan? catalog := by
  obtain ⟨status, updatedAt, version, restated⟩ := subscription.lapse_restates now cutoff
  rw [restated]
  exact ⟨rfl, rfl, rfl⟩

variable {subscription : Subscription} {now cutoff : Moment}

theorem not_lt_of_movedToPastDue (moved : subscription.lapseOf? now cutoff = some .movedToPastDue) :
    ¬ subscription.periodEnd < cutoff := by
  intro lapsed
  unfold lapseOf? at moved
  split at moved <;> simp [lapsed] at moved

/-- A subscription the expiry rule has moved is not moved again: it is expired, or past due with
its period ended after the grace cutoff. -/
theorem lapseOf?_lapse (subscription : Subscription) : (subscription.lapse now cutoff).lapseOf? now cutoff = none := by
  unfold lapse
  split
  · rename_i move moved
    cases move
    case cancelledExpired => rfl
    case graceExpired => rfl
    case movedToPastDue => simp [lapseOf?, Lapse.target, not_lt_of_movedToPastDue moved]
  · assumption

theorem lapse_lapse (subscription : Subscription) :
    (subscription.lapse now cutoff).lapse now cutoff = subscription.lapse now cutoff :=
  lapse_of_none (lapseOf?_lapse subscription)

/-- The expiry rule never moves a subscription out of expired. -/
theorem live_of_lapse (live : (subscription.lapse now cutoff).status ≠ .expired) : subscription.status ≠ .expired := by
  intro expired
  have stays : subscription.lapseOf? now cutoff = none := by simp [lapseOf?, expired]
  rw [lapse_of_none stays] at live
  exact live expired

section Commit

variable {settings : Config} {headcount : List (Uuid × Int)} {catalog : Store}

/-- A change commits on a restated subscription only if it commits on the one restated, as long
as that one was not expired: the status is read only to see that it is not expired. -/
theorem commitsAt_of_restated {status : SubscriptionStatus} {updatedAt : Moment} {version : Int}
    (commits : ({ subscription with status, updatedAt, version } : Subscription).commitsAt now headcount catalog = true)
    (live : subscription.status ≠ .expired) :
    subscription.commitsAt now headcount catalog = true := by
  have samePlan : ({ subscription with status, updatedAt, version } : Subscription).targetPlan? catalog =
      subscription.targetPlan? catalog := rfl
  unfold commitsAt at commits ⊢
  rw [samePlan] at commits
  split at commits
  · simp only [Bool.and_eq_true, decide_eq_true_eq, bne_iff_ne, ne_eq] at commits ⊢
    exact ⟨⟨⟨commits.1.1.1, commits.1.1.2⟩, live⟩, commits.2⟩
  · cases commits

/-- A change that commits once the expiry rule has moved its subscription committed before. -/
theorem commitsAt_of_lapse {clock : Moment}
    (commits : (subscription.lapse now cutoff).commitsAt clock headcount catalog = true) :
    subscription.commitsAt clock headcount catalog = true := by
  obtain ⟨status, updatedAt, version, restated⟩ := subscription.lapse_restates now cutoff
  have live : subscription.status ≠ .expired := live_of_lapse (commitsAt_due commits).2.2
  rw [restated] at commits
  exact commitsAt_of_restated commits live

theorem commitsAt_of_idle (idle : subscription.hasPendingChange = false) :
    subscription.commitsAt now headcount catalog = false := by
  unfold commitsAt
  split <;> simp [idle]

theorem listed_of_commitsAt (commits : subscription.commitsAt now headcount catalog = true) :
    ∃ targetPlan, subscription.targetPlan? catalog = some targetPlan := by
  unfold commitsAt at commits
  split at commits
  · exact ⟨_, ‹_›⟩
  · cases commits

/-- The pending-changes step leaves a subscription as it is, or commits its change and leaves
nothing waiting. -/
theorem afterCommit_cases :
    subscription.afterCommit settings now headcount catalog = subscription ∨
      (subscription.afterCommit settings now headcount catalog).hasPendingChange = false := by
  unfold afterCommit
  split
  · split
    · exact Or.inr rfl
    · exact Or.inl rfl
  · exact Or.inl rfl

theorem afterCommit_of_waiting
    (waiting : (subscription.afterCommit settings now headcount catalog).hasPendingChange = true) :
    subscription.afterCommit settings now headcount catalog = subscription :=
  afterCommit_cases.resolve_right fun cleared => Bool.false_ne_true (cleared.symm.trans waiting)

/-- Once the pending-changes step has been over a subscription, its change does not commit again. -/
theorem commitsAt_afterCommit
    (committable : subscription.commitsAt now headcount catalog = true →
      (subscription.committedPeriod? settings.period).isSome) :
    (subscription.afterCommit settings now headcount catalog).commitsAt now headcount catalog = false := by
  cases commits : subscription.commitsAt now headcount catalog
  · rw [afterCommit_of_idle commits, commits]
  · obtain ⟨targetPlan, listed⟩ := listed_of_commitsAt commits
    obtain ⟨period, dated⟩ := Option.isSome_iff_exists.mp (committable commits)
    rw [afterCommit_of_commits listed dated commits]
    exact commitsAt_of_idle rfl

theorem stuckAt_subscription {stuck : Sweep.StuckChange}
    (found : subscription.stuckAt now headcount catalog = some stuck) : stuck.subscription = subscription.id := by
  unfold stuckAt at found
  split at found
  · split_ifs at found
    cases found
    rfl
  · cases found

/-- The stuck changes of a list of subscriptions name some of them, in their order. -/
theorem stuck_sublist (subscriptions : List Subscription) :
    ((subscriptions.filterMap (·.stuckAt now headcount catalog)).map (·.subscription)).Sublist
      (subscriptions.map (·.id)) := by
  induction subscriptions with
  | nil => exact List.Sublist.slnil
  | cons subscription rest inductionHypothesis =>
    cases found : subscription.stuckAt now headcount catalog with
    | none =>
      simp only [List.filterMap_cons, found, List.map_cons]
      exact inductionHypothesis.cons _
    | some stuck =>
      simp only [List.filterMap_cons, found, List.map_cons, stuckAt_subscription found]
      exact inductionHypothesis.cons_cons _

end Commit

end Subscription

/-! ## The sweep -/

namespace Sweep

/-- A subscription as a sweep at the clock of `world` leaves it: its due change committed when it
can be, then moved by the expiry rule with grace cutoff `graceCutoff`. -/
def settle (world : World) (graceCutoff : Moment) (subscription : Subscription) : Subscription :=
  (subscription.afterCommit world.config world.clock world.headcount world.store).lapse world.clock graceCutoff

@[simp] theorem settle_id (world : World) (graceCutoff : Moment) (subscription : Subscription) :
    (settle world graceCutoff subscription).id = subscription.id := by
  obtain ⟨status, updatedAt, version, restated⟩ :=
    (subscription.afterCommit world.config world.clock world.headcount world.store).lapse_restates world.clock
      graceCutoff
  rw [settle, restated]
  exact Subscription.afterCommit_id

/-- The report of a sweep at the clock of `world` that meets no failure: the stale invoices
counted, the changes committed counted, the stuck ones in the order of the listing, and the counts
of the expiry rule on the subscriptions as the pending-changes step leaves them. -/
def calmReport (world : World) (staleCutoff graceCutoff : Moment) : Report where
  invoicesExpired := (world.store.listStalePendingInvoices staleCutoff).length
  changesCommitted := world.store.subscriptions.countP (·.commitsAt world.clock world.headcount world.store)
  stuckPending := (world.store.listWithPendingChanges (some world.clock)).filterMap
    (·.stuckAt world.clock world.headcount world.store)
  expiry := Ledger.ExpiryCounts.ofRule world.clock graceCutoff
    (world.store.subscriptions.map (·.afterCommit world.config world.clock world.headcount world.store))
  failures := []

/-- What a sweep at the clock of `world` needs to meet no failure, where `staleCutoff` and
`graceCutoff` are the clock less the invoice life and less the grace period: records in memory with
nothing armed to fail, keyed by their identifiers; a grace period that is not negative; the plan of
every due change of a subscription not expired in the catalog; a new period and room for the next
version for every change that commits, and room for the next version of every subscription the
expiry rule then moves. -/
structure Calm (world : World) (staleCutoff graceCutoff : Moment) : Prop where
  steady : Steady world
  keyed : world.store.Keyed
  staleCut : world.clock.unshift? world.config.invoiceTtl = some staleCutoff
  grace : 0 ≤ world.config.gracePeriod.seconds
  graceCut : world.clock.unshift? world.config.gracePeriod = some graceCutoff
  planned : ∀ subscription ∈ world.store.subscriptions, subscription.hasPendingChange = true →
    subscription.periodEnd ≤ world.clock → subscription.status ≠ .expired →
      (subscription.targetPlan? world.store).isSome
  committable : ∀ subscription ∈ world.store.subscriptions,
    subscription.commitsAt world.clock world.headcount world.store = true →
      (subscription.committedPeriod? world.config.period).isSome ∧ Arith.fitsInt64 (subscription.version + 1) = true
  lapsing : ∀ subscription ∈ world.store.subscriptions,
    ((subscription.afterCommit world.config world.clock world.headcount world.store).lapseOf? world.clock
        graceCutoff).isSome →
      Arith.fitsInt64 ((subscription.afterCommit world.config world.clock world.headcount world.store).version + 1) =
        true

/-- A sweep that meets no failure reports `calmReport`, and leaves the invoices as the stale pass
leaves them and each subscription as `settle` says. -/
theorem run_calm {world : World} {staleCutoff graceCutoff : Moment} (calm : Calm world staleCutoff graceCutoff) :
    ∃ after, Sweep.run.run.run world = (.ok (calmReport world staleCutoff graceCutoff), after) ∧
      after.Rewritten world (world.store.subscriptions.map (settle world graceCutoff))
        (world.store.invoices.map (staleExpired staleCutoff)) := by
  -- the stale pass touches the invoices only
  obtain ⟨first, staleRan, firstFrame⟩ :=
    expireStaleInvoices_run calm.steady calm.keyed calm.staleCut ⟨0, 0, [], ⟨0, 0, 0⟩, []⟩
  obtain ⟨clock, settings, heads, -⟩ := firstFrame.settled
  have plans := firstFrame.plans
  have kept := firstFrame.subscriptions
  have listing : first.store.listWithPendingChanges (some world.clock) =
      world.store.listWithPendingChanges (some world.clock) := by
    unfold Store.listWithPendingChanges
    rw [kept]
  have firstKeyed : first.store.Keyed :=
    calm.keyed.of_maps (kept.trans (List.map_id' _).symm) (fun _ => rfl) firstFrame.invoices
      (staleExpired_id staleCutoff)
  -- so the pending-changes step reads the subscriptions as they were
  obtain ⟨second, commitRan, secondFrame⟩ := commitPendingChanges_run (firstFrame.steady calm.steady) firstKeyed
    (by rw [kept, clock]; simp only [Subscription.targetPlan?_of_plans plans]; exact calm.planned)
    (by rw [kept, clock, heads, settings]; simp only [Subscription.commitsAt_of_plans plans]; exact calm.committable)
    ⟨(world.store.listStalePendingInvoices staleCutoff).length, 0, [], ⟨0, 0, 0⟩, []⟩
  simp only [Subscription.commitsAt_of_plans plans, Subscription.stuckAt_of_plans plans,
    Subscription.afterCommit_of_plans plans, clock, heads, settings, kept, listing, firstFrame.invoices,
    Nat.zero_add, List.nil_append] at commitRan secondFrame
  have committed := firstFrame.trans secondFrame
  obtain ⟨committedClock, committedSettings, -, -⟩ := committed.settled
  -- the expiry pass moves the subscriptions as the pending-changes step left them
  obtain ⟨third, expiryRan, thirdFrame⟩ := expireLapsed_run (committed.steady calm.steady)
    (by rw [committedSettings]; exact calm.grace) (by rw [committedClock, committedSettings]; exact calm.graceCut)
    (by rw [secondFrame.subscriptions, committedClock]; exact List.forall_mem_map.mpr calm.lapsing)
    ⟨(world.store.listStalePendingInvoices staleCutoff).length,
      world.store.subscriptions.countP (·.commitsAt world.clock world.headcount world.store),
      (world.store.listWithPendingChanges (some world.clock)).filterMap
        (·.stuckAt world.clock world.headcount world.store), ⟨0, 0, 0⟩, []⟩
  rw [secondFrame.subscriptions, secondFrame.invoices, committedClock, List.map_map] at thirdFrame
  rw [secondFrame.subscriptions, committedClock] at expiryRan
  choose summaryLogs summaryRan using logSummary_run third
  unfold Sweep.run
  dsimp only
  rw [run_bind, staleRan]
  dsimp only
  rw [run_bind, commitRan]
  dsimp only
  rw [run_bind, expiryRan]
  dsimp only
  rw [run_bind, summaryRan]
  exact ⟨_, rfl, (committed.trans thirdFrame).logged _⟩

/-- The stuck changes a sweep reports are those of the stored subscriptions. -/
theorem mem_calmReport_stuck {world : World} {staleCutoff graceCutoff : Moment} {stuck : StuckChange} :
    stuck ∈ (calmReport world staleCutoff graceCutoff).stuckPending ↔
      ∃ subscription ∈ world.store.subscriptions,
        subscription.stuckAt world.clock world.headcount world.store = some stuck := by
  rw [calmReport, List.mem_filterMap]
  constructor
  · rintro ⟨subscription, listed, found⟩
    exact ⟨subscription, Store.mem_of_mem_listWithPendingChanges listed, found⟩
  · rintro ⟨subscription, stored, found⟩
    obtain ⟨waiting, due⟩ := Subscription.stuckAt_due found
    exact ⟨subscription, Store.mem_listWithPendingChanges.mpr ⟨stored, waiting, due⟩, found⟩

/-- In keyed records, a sweep reports each stuck subscription once. -/
theorem calmReport_stuck_nodup {world : World} (keyed : world.store.Keyed) (staleCutoff graceCutoff : Moment) :
    ((calmReport world staleCutoff graceCutoff).stuckPending.map (·.subscription)).Nodup :=
  (Subscription.stuck_sublist _).nodup (listWithPendingChanges_nodup keyed _)

/-! ## A second sweep -/

section Again

variable {world : World} {staleCutoff graceCutoff : Moment} (calm : Calm world staleCutoff graceCutoff)
include calm

/-- After a sweep, no change commits. -/
theorem commitsAt_settle {subscription : Subscription} (stored : subscription ∈ world.store.subscriptions) :
    (settle world graceCutoff subscription).commitsAt world.clock world.headcount world.store = false := by
  have idle : (subscription.afterCommit world.config world.clock world.headcount world.store).commitsAt world.clock
      world.headcount world.store = false :=
    Subscription.commitsAt_afterCommit fun commits => (calm.committable subscription stored commits).1
  exact Bool.eq_false_iff.mpr fun commits =>
    Bool.false_ne_true (idle.symm.trans (Subscription.commitsAt_of_lapse commits))

variable {after : World}
  (rewritten : after.Rewritten world (world.store.subscriptions.map (settle world graceCutoff))
    (world.store.invoices.map (staleExpired staleCutoff)))
include rewritten

/-- Read with the records a sweep left, no change commits. -/
theorem commitsAt_settled {subscription : Subscription} (stored : subscription ∈ world.store.subscriptions) :
    (settle world graceCutoff subscription).commitsAt after.clock after.headcount after.store = false := by
  obtain ⟨clock, -, heads, -⟩ := rewritten.settled
  rw [Subscription.commitsAt_of_plans rewritten.plans, clock, heads, commitsAt_settle calm stored]

/-- Read with the records a sweep left, the pending-changes step leaves every subscription as it is. -/
theorem afterCommit_settled {subscription : Subscription} (stored : subscription ∈ world.store.subscriptions) :
    (settle world graceCutoff subscription).afterCommit after.config after.clock after.headcount after.store =
      settle world graceCutoff subscription := by
  obtain ⟨clock, settings, heads, -⟩ := rewritten.settled
  rw [Subscription.afterCommit_of_plans rewritten.plans, clock, heads, settings]
  exact Subscription.afterCommit_of_idle (commitsAt_settle calm stored)

/-- A second sweep leaves each subscription as the first left it. -/
theorem settle_settle {subscription : Subscription} (stored : subscription ∈ world.store.subscriptions) :
    settle after graceCutoff (settle world graceCutoff subscription) = settle world graceCutoff subscription := by
  obtain ⟨clock, -, -, -⟩ := rewritten.settled
  show ((settle world graceCutoff subscription).afterCommit after.config after.clock after.headcount
    after.store).lapse after.clock graceCutoff = settle world graceCutoff subscription
  rw [afterCommit_settled calm rewritten stored, clock]
  exact Subscription.lapse_lapse _

/-- After a sweep that met no failure, a second one at the same clock meets none either. -/
theorem Calm.again : Calm after staleCutoff graceCutoff := by
  obtain ⟨clock, settings, -, -⟩ := rewritten.settled
  refine ⟨rewritten.steady calm.steady,
    calm.keyed.of_maps rewritten.subscriptions (settle_id world graceCutoff) rewritten.invoices
      (staleExpired_id staleCutoff),
    by rw [clock, settings]; exact calm.staleCut, by rw [settings]; exact calm.grace,
    by rw [clock, settings]; exact calm.graceCut, ?planned, ?committable, ?lapsing⟩
  case planned =>
    rw [rewritten.subscriptions, List.forall_mem_map, clock]
    intro subscription stored waiting due live
    unfold settle at waiting due live ⊢
    rw [Subscription.targetPlan?_of_plans rewritten.plans]
    obtain ⟨keepsWaiting, keepsEnd, keepsPlan⟩ :=
      (subscription.afterCommit world.config world.clock world.headcount world.store).lapse_keeps_change world.clock
        graceCutoff world.store
    rw [keepsWaiting] at waiting
    -- a change still waiting after the sweep was not committed, and the expiry rule kept it
    have kept := Subscription.afterCommit_of_waiting waiting
    rw [kept] at waiting keepsEnd keepsPlan live due
    rw [keepsEnd] at due
    rw [kept, keepsPlan]
    exact calm.planned subscription stored waiting due (Subscription.live_of_lapse live)
  case committable =>
    rw [rewritten.subscriptions, List.forall_mem_map]
    intro subscription stored commits
    rw [commitsAt_settled calm rewritten stored] at commits
    cases commits
  case lapsing =>
    rw [rewritten.subscriptions, List.forall_mem_map]
    intro subscription stored moves
    rw [afterCommit_settled calm rewritten stored, clock, settle, Subscription.lapseOf?_lapse] at moves
    cases moves

/-- A second sweep finds nothing stale, commits nothing and moves nothing. -/
theorem calmReport_again : ∃ stuck, calmReport after staleCutoff graceCutoff = ⟨0, 0, stuck, ⟨0, 0, 0⟩, []⟩ := by
  obtain ⟨clock, -, -, -⟩ := rewritten.settled
  have nothingStale := Store.listStalePendingInvoices_of_swept rewritten.invoices
  have nothingCommits :
      after.store.subscriptions.countP (·.commitsAt after.clock after.headcount after.store) = 0 := by
    rw [rewritten.subscriptions, List.countP_map, List.countP_eq_zero]
    intro subscription stored
    simp only [Function.comp_apply, commitsAt_settled calm rewritten stored, Bool.false_eq_true, not_false_eq_true]
  have nothingMoves : ∀ subscription ∈ after.store.subscriptions.map
      (·.afterCommit after.config after.clock after.headcount after.store),
      subscription.lapseOf? after.clock graceCutoff = none := by
    rw [rewritten.subscriptions, List.map_map, List.forall_mem_map]
    intro subscription stored
    simp only [Function.comp_apply, afterCommit_settled calm rewritten stored]
    rw [clock]
    exact Subscription.lapseOf?_lapse _
  exact ⟨_, by rw [calmReport, nothingStale, nothingCommits, (Ledger.ExpiryCounts.ofRule_of_stays nothingMoves).2]; rfl⟩

/-- A second sweep at the same clock leaves the records as they are, counts nothing and reports no
failure. -/
theorem run_again : ∃ stuck again, Sweep.run.run.run after = (.ok ⟨0, 0, stuck, ⟨0, 0, 0⟩, []⟩, again) ∧
    again.store.subscriptions = after.store.subscriptions ∧ again.store.invoices = after.store.invoices := by
  obtain ⟨again, ran, frame⟩ := run_calm (calm.again rewritten)
  have subscriptionsKept : after.store.subscriptions.map (settle after graceCutoff) = after.store.subscriptions := by
    rw [rewritten.subscriptions, List.map_map]
    exact List.map_congr_left fun subscription stored => settle_settle calm rewritten stored
  have invoicesKept : after.store.invoices.map (staleExpired staleCutoff) = after.store.invoices := by
    rw [rewritten.invoices, List.map_map]
    exact List.map_congr_left fun invoice _ => staleExpired_staleExpired staleCutoff invoice
  obtain ⟨stuck, reported⟩ := calmReport_again calm rewritten
  exact ⟨stuck, again, by rw [ran, reported], frame.subscriptions.trans subscriptionsKept,
    frame.invoices.trans invoicesKept⟩

end Again

end Sweep

/-- A sweep that meets no failure (`Sweep.Calm`) does its three steps and nothing else. The
invoices are those the stale pass leaves; each subscription is as `Sweep.settle` leaves it, its due
change committed when the live headcount fits the new cap and then moved by the expiry rule. The
report counts the stale invoices, the committed changes and the moves of the expiry rule, lists
each stuck change of the records once, with its waiting values, the live headcount and the new cap,
and holds no failure, so the sweep is clean exactly when nothing is stuck. Visiting the due changes
in any other order commits the same ones, leaves the same subscriptions and reports the same stuck
changes in that order. A second sweep at the same clock leaves the records as they are, counts
nothing and reports no failure. -/
theorem sweep_settles_each_record {world : World} {staleCutoff graceCutoff : Moment}
    (calm : Sweep.Calm world staleCutoff graceCutoff) :
    (∃ after, Sweep.run.run.run world = (.ok (Sweep.calmReport world staleCutoff graceCutoff), after) ∧
      after.store.invoices = world.store.invoices.map (Sweep.staleExpired staleCutoff) ∧
      after.store.subscriptions = world.store.subscriptions.map (Sweep.settle world graceCutoff) ∧
      ∃ stuck again, Sweep.run.run.run after = (.ok ⟨0, 0, stuck, ⟨0, 0, 0⟩, []⟩, again) ∧
        again.store.subscriptions = after.store.subscriptions ∧ again.store.invoices = after.store.invoices) ∧
    (∀ stuck, stuck ∈ (Sweep.calmReport world staleCutoff graceCutoff).stuckPending ↔
      ∃ subscription ∈ world.store.subscriptions,
        subscription.stuckAt world.clock world.headcount world.store = some stuck) ∧
    ((Sweep.calmReport world staleCutoff graceCutoff).stuckPending.map (·.subscription)).Nodup ∧
    ((Sweep.calmReport world staleCutoff graceCutoff).isClean = true ↔
      (Sweep.calmReport world staleCutoff graceCutoff).stuckPending = []) ∧
    ∀ due : List Subscription, due.Perm (world.store.listWithPendingChanges (some world.clock)) → ∀ limit report,
      ∃ after, (due.foldlM (Sweep.commitOne limit) report).run.run world =
          (.ok { report with
            changesCommitted :=
              report.changesCommitted + (Sweep.calmReport world staleCutoff graceCutoff).changesCommitted
            stuckPending := report.stuckPending ++ due.filterMap (·.stuckAt world.clock world.headcount world.store) },
            after) ∧
        (due.filterMap (·.stuckAt world.clock world.headcount world.store)).Perm
          (Sweep.calmReport world staleCutoff graceCutoff).stuckPending ∧
        after.store.subscriptions =
          world.store.subscriptions.map (·.afterCommit world.config world.clock world.headcount world.store) ∧
        after.store.invoices = world.store.invoices := by
  obtain ⟨after, ran, rewritten⟩ := Sweep.run_calm calm
  refine ⟨⟨after, ran, rewritten.invoices, rewritten.subscriptions, Sweep.run_again calm rewritten⟩,
    fun _ => Sweep.mem_calmReport_stuck, Sweep.calmReport_stuck_nodup calm.keyed staleCutoff graceCutoff, ?clean,
    fun due reordered limit report => ?reordered⟩
  case clean =>
    simp only [Sweep.Report.isClean, Sweep.calmReport, List.isEmpty_nil, Bool.true_and, List.isEmpty_iff]
  case reordered =>
    obtain ⟨later, folded, frame⟩ :=
      Sweep.commitAll_perm_run calm.steady calm.keyed calm.planned calm.committable reordered limit report
    exact ⟨later, folded, reordered.filterMap _, frame.subscriptions, frame.invoices⟩

/-- The clock of `seatCutWorld` less the invoice life of a day. -/
def februaryStaleCutoff : Moment := ⟨(1767225600 + 30 * 86400) * nanosPerSecond, 0⟩

/-- On the first of February a sweep commits the seat cut of the January subscription, meets no
failure and is clean. -/
theorem february_sweep_commits_seat_cut :
    Sweep.Calm seatCutWorld februaryStaleCutoff februaryGraceCutoff ∧
      (Sweep.calmReport seatCutWorld februaryStaleCutoff februaryGraceCutoff).changesCommitted = 1 ∧
      (Sweep.calmReport seatCutWorld februaryStaleCutoff februaryGraceCutoff).isClean = true ∧
      ∃ after, Sweep.run.run.run seatCutWorld =
        (.ok (Sweep.calmReport seatCutWorld februaryStaleCutoff februaryGraceCutoff), after) := by
  have calm : Sweep.Calm seatCutWorld februaryStaleCutoff februaryGraceCutoff :=
    ⟨⟨rfl, rfl⟩, ⟨by decide, by decide⟩, by decide, by decide, by decide, by decide, by decide, by decide⟩
  obtain ⟨⟨after, ran, -⟩, -⟩ := sweep_settles_each_record calm
  exact ⟨calm, by decide, by decide +kernel, after, ran⟩

/-- A due move to a plan the catalog does not hold fails, in a world with nothing armed to fail
and periods that are not negative: the sweep reports the failure, and is not clean though nothing
is stuck. -/
theorem sweep_reports_unlisted_plan :
    Steady unlistedMoveWorld ∧ 0 ≤ unlistedMoveWorld.config.gracePeriod.seconds ∧
      0 ≤ unlistedMoveWorld.config.invoiceTtl.seconds ∧
      (Sweep.run.run.run unlistedMoveWorld).1.toOption.map
          (fun report => (report.failures.map (·.record), report.stuckPending.length, report.isClean)) =
        some ([some unlistedMoveSubscription.id], 0, false) :=
  ⟨⟨rfl, rfl⟩, by decide, by decide, by decide +kernel⟩

end SeatBilling
