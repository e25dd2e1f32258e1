import SeatBilling.Proofs.Ledger.CommitDecision
import SeatBilling.Proofs.Sweep.Steps

/-!
# A sweep with nothing armed to fail, step by step

With the records in memory and no fault armed, each step of a sweep is a run with a known
result: the stale step expires every pending invoice older than its cutoff and counts them; the
pending-changes step commits or refuses each due change as `commitPendingChange` decides, in
any order it is given them; the expiry step moves every subscription by the expiry rule. Each
step is stated as the report it returns and the records it leaves (`World.Rewritten`).

The per-record steps are loops; `run_foldlM_of_step` turns what one visit does into what the
whole loop does.
-/

namespace SeatBilling

open SeatBilling.Time

/-! ## Frames of runs -/

namespace World.Rewritten

variable {world middle after : World} {subscriptions middleSubscriptions : List Subscription}
  {invoices middleInvoices : List Invoice}

theorem refl (world : World) : world.Rewritten world world.store.subscriptions world.store.invoices :=
  ⟨⟨world.store, world.serial, world.logs, rfl⟩, rfl, rfl, rfl⟩

theorem trans (first : middle.Rewritten world middleSubscriptions middleInvoices)
    (second : after.Rewritten middle subscriptions invoices) : after.Rewritten world subscriptions invoices := by
  obtain ⟨⟨store, serial, logs, rfl⟩, -, -, middlePlans⟩ := first
  obtain ⟨⟨store', serial', logs', rfl⟩, kept, held, plans⟩ := second
  exact ⟨⟨store', serial', logs', rfl⟩, kept, held, plans.trans middlePlans⟩

theorem steady (rewritten : after.Rewritten world subscriptions invoices) (steady : Steady world) : Steady after := by
  obtain ⟨⟨store, serial, logs, rfl⟩, -⟩ := rewritten
  exact ⟨steady.noFaults, steady.inMemory⟩

/-- A frame of a run leaves the clock, the configuration, the headcount and the time allowed. -/
theorem settled (rewritten : after.Rewritten world subscriptions invoices) :
    after.clock = world.clock ∧ after.config = world.config ∧ after.headcount = world.headcount ∧
      after.timeLeft = world.timeLeft := by
  obtain ⟨⟨store, serial, logs, rfl⟩, -⟩ := rewritten
  exact ⟨rfl, rfl, rfl, rfl⟩

/-- Logging keeps the records. -/
theorem logged (rewritten : after.Rewritten world subscriptions invoices) (logs : List Log.Record) :
    ({ after with logs := logs } : World).Rewritten world subscriptions invoices := by
  obtain ⟨⟨store, serial, _, rfl⟩, kept, held, plans⟩ := rewritten
  exact ⟨⟨store, serial, logs, rfl⟩, kept, held, plans⟩

/-- A frame inside a timed section is a frame outside it, once the time allowed is restored. -/
theorem timed {limit : Nat} (rewritten : after.Rewritten { world with timeLeft := some limit } subscriptions invoices) :
    ({ after with timeLeft := world.timeLeft } : World).Rewritten world subscriptions invoices := by
  obtain ⟨⟨store, serial, logs, rfl⟩, kept, held, plans⟩ := rewritten
  exact ⟨⟨store, serial, logs, rfl⟩, kept, held, plans⟩

end World.Rewritten

theorem Steady.timed {world : World} (steady : Steady world) (limit : Nat) :
    Steady { world with timeLeft := some limit } :=
  ⟨steady.noFaults, steady.inMemory⟩

/-- A lookup reads only the list it looks in. -/
theorem Store.invoice?_of_invoices {store other : Store} {rewrite : Invoice → Invoice}
    (same : store.invoices = other.invoices.map rewrite) (keeps : ∀ invoice, (rewrite invoice).id = invoice.id)
    (id : Uuid) : store.invoice? id = (other.invoice? id).map rewrite := by
  unfold Store.invoice?
  rw [same]
  exact Store.find?_map_of_keep Invoice.id keeps other.invoices id

/-! ## Loops and timed sections -/

/-- A loop whose every step returns and keeps an invariant of the items it has done returns, with
the invariant of all of them. -/
theorem run_foldlM_of_step {β γ : Type} (step : γ → β → BillingM γ) (items : List β)
    (invariant : List β → γ → World → Prop)
    (keeps : ∀ done item left accumulated world, done ++ item :: left = items → invariant done accumulated world →
      ∃ next after, (step accumulated item).run.run world = (.ok next, after) ∧ invariant (done ++ [item]) next after) :
    ∀ left done accumulated world, done ++ left = items → invariant done accumulated world →
      ∃ result after, (left.foldlM step accumulated).run.run world = (.ok result, after) ∧
        invariant items result after := by
  intro left
  induction left with
  | nil =>
    intro done accumulated world whole holds
    rw [List.append_nil] at whole
    subst whole
    exact ⟨accumulated, world, rfl, holds⟩
  | cons item left inductionHypothesis =>
    intro done accumulated world whole holds
    obtain ⟨next, middle, stepped, kept⟩ := keeps done item left accumulated world whole holds
    rw [List.foldlM_cons, run_bind, stepped]
    exact inductionHypothesis (done ++ [item]) next middle (by rw [← whole]; simp) kept

/-- A section within a time limit that returns gives its value, with the time allowed restored. -/
theorem Sweep.withinLimit_run_ok {α : Type} {world after : World} (limit : Nat) {action : BillingM α} {value : α}
    (ran : action.run.run { world with timeLeft := some limit } = (.ok value, after)) :
    (Sweep.withinLimit limit action).run.run world =
      (.ok (some (.ok value)), { after with timeLeft := world.timeLeft }) := by
  unfold Sweep.withinLimit
  rw [run_tryCatch, Spec.run_map, run_timedSection, Webhook.run_attempt, ran]

/-! ## Stale invoices -/

namespace Calls

variable {world : World} (steady : Steady world)
include steady

theorem getInvoice_run (id : Uuid) : (getInvoice id).run.run world = (.ok (world.store.invoice? id), world) := by
  rw [getInvoice, guarded_run steady.noFaults, backed_run steady.inMemory, readStore_run]

theorem listStalePendingInvoices_run (before : Moment) :
    (listStalePendingInvoices before).run.run world = (.ok (world.store.listStalePendingInvoices before), world) := by
  rw [listStalePendingInvoices, guarded_run steady.noFaults, backed_run steady.inMemory, readStore_run]

end Calls

namespace Invoicing

variable {world : World} (steady : Steady world)
include steady

theorem require_run {id : Uuid} {invoice : Invoice} (found : world.store.invoice? id = some invoice) :
    (require id).run.run world = (.ok invoice, world) := by
  unfold require
  rw [run_bind, Calls.getInvoice_run steady, found]
  rfl

/-- Expiring a pending invoice moves it, records the event and logs it. -/
theorem markExpired_run {invoice : Invoice} (found : world.store.invoice? invoice.id = some invoice)
    (pending : invoice.isPending = true) :
    ∃ after, (markExpired invoice.id).run.run world = (.ok true, after) ∧
      after.Rewritten world world.store.subscriptions
        (world.store.invoices.map (Store.replacing invoice.id { invoice with status := .expired })) := by
  have transitioned : (Calls.transitionInvoice invoice.id .expired none).run.run world =
      (.ok true, { world with store := { world.store with
        invoices := world.store.invoices.map (Store.replacing invoice.id { invoice with status := .expired }) } }) := by
    rw [Calls.transitionInvoice, Calls.guarded_run steady.noFaults, Calls.backed_run steady.inMemory,
      Calls.stepStore_run, Store.transitionInvoice_expired found pending]
  have expired : ({ world.store with
      invoices := world.store.invoices.map (Store.replacing invoice.id { invoice with status := .expired }) } :
        Store).invoice? invoice.id = some { invoice with status := .expired } := by
    have sameId : ({ invoice with status := .expired } : Invoice).id = invoice.id := rfl
    dsimp only
    rw [Store.invoice?_map (Store.replacing_id sameId), found]
    simp [Store.replacing]
  unfold markExpired close
  rw [run_bind, transitioned]
  dsimp only
  rw [run_bind, require_run (steady.update _ world.serial world.provider) expired]
  dsimp only
  rw [if_pos rfl, run_bind, run_now]
  dsimp only
  rw [run_bind, EventLog.record_run (steady.update _ world.serial world.provider)]
  dsimp only
  rw [run_bind, run_emit]
  exact ⟨_, rfl, ⟨_, _, _, rfl⟩, rfl, rfl, rfl⟩

end Invoicing

/-- An invoice among those expired so far, by their identifiers, as expired; any other as it is. -/
def Invoice.expiredAmong (ids : List Uuid) (invoice : Invoice) : Invoice :=
  if invoice.id ∈ ids then { invoice with status := .expired } else invoice

namespace Invoice

@[simp] theorem expiredAmong_id (ids : List Uuid) (invoice : Invoice) : (invoice.expiredAmong ids).id = invoice.id := by
  unfold expiredAmong
  split <;> rfl

theorem map_expiredAmong_nil (invoices : List Invoice) : invoices.map (expiredAmong []) = invoices := by
  have same : ∀ invoice ∈ invoices, invoice.expiredAmong [] = (fun kept => kept) invoice :=
    fun invoice _ => by simp [expiredAmong]
  rw [List.map_congr_left same, List.map_id']

theorem expiredAmong_of_not_mem {ids : List Uuid} {invoice : Invoice} (outside : invoice.id ∉ ids) :
    invoice.expiredAmong ids = invoice := by
  simp [expiredAmong, outside]

/-- Expiring one more invoice of keyed records extends the invoices expired so far. -/
theorem expiredAmong_replacing {invoices : List Invoice} (keyed : (invoices.map (·.id)).Nodup) {ids : List Uuid}
    {invoice : Invoice} (member : invoice ∈ invoices) (fresh : invoice.id ∉ ids) :
    (invoices.map (expiredAmong ids)).map (Store.replacing invoice.id { invoice with status := .expired }) =
      invoices.map (expiredAmong (ids ++ [invoice.id])) := by
  rw [List.map_map]
  refine List.map_congr_left fun other stored => ?_
  by_cases same : other.id = invoice.id
  · have sameInvoice : other = invoice := List.inj_on_of_nodup_map keyed stored member same
    subst sameInvoice
    simp [expiredAmong, fresh, Store.replacing]
  · rw [Function.comp_apply, Store.replacing_of_ne (by rw [expiredAmong_id]; exact same)]
    simp [expiredAmong, same]

end Invoice

/-- In keyed records, expiring the invoices a stale pass lists is expiring the stale ones. -/
theorem Store.expiredAmong_stale {store : Store} (keyed : store.Keyed) (cutoff : Moment) :
    store.invoices.map (Invoice.expiredAmong ((store.listStalePendingInvoices cutoff).map (·.id))) =
      store.invoices.map (Sweep.staleExpired cutoff) := by
  refine List.map_congr_left fun invoice stored => ?_
  by_cases stale : invoice.isPending = true ∧ invoice.createdAt < cutoff
  · have listed : invoice.id ∈ (store.listStalePendingInvoices cutoff).map (·.id) := by
      refine List.mem_map.mpr ⟨invoice, ?_, rfl⟩
      simp only [Store.listStalePendingInvoices, List.mem_filter, Bool.and_eq_true, decide_eq_true_eq]
      exact ⟨stored, stale⟩
    simp [Invoice.expiredAmong, listed, Sweep.staleExpired_of_stale stale]
  · rw [Sweep.staleExpired_of_current stale, Invoice.expiredAmong_of_not_mem]
    intro listed
    obtain ⟨other, otherListed, sameId⟩ := List.mem_map.mp listed
    have otherStale := Sweep.listStalePendingInvoices_mem otherListed
    have same : other = invoice := List.inj_on_of_nodup_map keyed.invoices otherStale.1 stored sameId
    exact stale (same ▸ otherStale.2)

/-- With its cutoff in range, the stale pass expires every invoice it lists, one by one, and
reports them all as expired and none as failed. -/
theorem Invoicing.expireStale_run {world : World} (steady : Steady world) (keyed : world.store.Keyed)
    {cutoff : Moment} (cut : world.clock.unshift? world.config.invoiceTtl = some cutoff) :
    ∃ after, Invoicing.expireStale.run.run world =
        (.ok ⟨(world.store.listStalePendingInvoices cutoff).map (·.id), []⟩, after) ∧
      after.Rewritten world world.store.subscriptions (world.store.invoices.map (Sweep.staleExpired cutoff)) := by
  unfold Invoicing.expireStale
  rw [run_bind, run_config]
  dsimp -zeta only
  rw [run_bind, run_now]
  dsimp -zeta only
  rw [run_bind, cut, run_orOverflow_some]
  dsimp -zeta only
  rw [run_bind, Calls.listStalePendingInvoices_run steady]
  dsimp -zeta only
  extract_lets visit
  -- each visit expires its invoice, from records where the invoices visited so far are expired
  have visiting : ∀ done invoice left sweep middle, done ++ invoice :: left = world.store.listStalePendingInvoices cutoff →
      (sweep.expired = done.map (·.id) ∧ sweep.failed = [] ∧ middle.Rewritten world world.store.subscriptions
        (world.store.invoices.map (Invoice.expiredAmong (done.map (·.id))))) →
      ∃ next after, (visit sweep invoice).run.run middle = (.ok next, after) ∧
        (next.expired = (done ++ [invoice]).map (·.id) ∧ next.failed = [] ∧ after.Rewritten world
          world.store.subscriptions (world.store.invoices.map (Invoice.expiredAmong ((done ++ [invoice]).map (·.id))))) := by
    intro done invoice left sweep middle walk ⟨expiredSoFar, unfailed, rewritten⟩
    have listed := Sweep.listStalePendingInvoices_mem (walk ▸ List.mem_append_right done (List.mem_cons_self ..))
    have fresh : invoice.id ∉ done.map (·.id) :=
      Sweep.fresh_of_walk (Sweep.listStalePendingInvoices_nodup keyed cutoff) walk
    have found : middle.store.invoice? invoice.id = some invoice := by
      rw [Store.invoice?_of_invoices rewritten.invoices (Invoice.expiredAmong_id _), keyed.invoice?_of_mem listed.1,
        Option.map_some, Invoice.expiredAmong_of_not_mem fresh]
    obtain ⟨marked, ran, moved⟩ :=
      Invoicing.markExpired_run ((rewritten.steady steady).timed world.config.recordTimeout) found listed.2.1
    have step : ({ marked with timeLeft := middle.timeLeft } : World).Rewritten middle middle.store.subscriptions
        (middle.store.invoices.map (Store.replacing invoice.id { invoice with status := .expired })) := moved.timed
    rw [rewritten.subscriptions, rewritten.invoices, Invoice.expiredAmong_replacing keyed.invoices listed.1 fresh] at step
    refine ⟨⟨sweep.expired ++ [invoice.id], sweep.failed⟩, _, ?_, by rw [expiredSoFar, List.map_append]; rfl, unfailed,
      by rw [List.map_append]; exact rewritten.trans step⟩
    simp only [visit]
    rw [run_bind, run_tryCatch, Spec.run_map, run_timedSection, Webhook.run_attempt, ran]
    rfl
  obtain ⟨sweep, middle, folded, expiredAll, unfailed, rewritten⟩ :=
    run_foldlM_of_step visit _ _ visiting _ [] ⟨[], []⟩ world (List.nil_append _)
      ⟨rfl, rfl, by rw [List.map_nil, Invoice.map_expiredAmong_nil]; exact World.Rewritten.refl world⟩
  rw [Store.expiredAmong_stale keyed] at rewritten
  obtain ⟨expired, failed⟩ := sweep
  dsimp only at expiredAll unfailed
  subst expiredAll unfailed
  rw [run_bind, folded]
  dsimp only
  -- the pass ends with what it gathered, whether or not it logs a count
  split
  · rw [run_bind, run_emit]
    exact ⟨_, rfl, rewritten.logged _⟩
  · exact ⟨_, rfl, rewritten⟩

/-- The stale step, with its cutoff in range, expires the stale invoices, counts them and reports
no failure. -/
theorem Sweep.expireStaleInvoices_run {world : World} (steady : Steady world) (keyed : world.store.Keyed)
    {cutoff : Moment} (cut : world.clock.unshift? world.config.invoiceTtl = some cutoff) (report : Report) :
    ∃ after, (expireStaleInvoices report).run.run world =
        (.ok { report with invoicesExpired := (world.store.listStalePendingInvoices cutoff).length }, after) ∧
      after.Rewritten world world.store.subscriptions (world.store.invoices.map (staleExpired cutoff)) := by
  obtain ⟨after, ran, rewritten⟩ := Invoicing.expireStale_run steady keyed cut
  unfold expireStaleInvoices
  rw [run_bind, Webhook.run_attempt, ran]
  refine ⟨after, ?_, rewritten⟩
  simp only [List.foldl_nil, List.length_map]
  rfl

/-! ## Due changes -/

namespace Subscription

/-- The plan a waiting change commits to, as the catalog holds it. -/
def targetPlan? (subscription : Subscription) (catalog : Store) : Option Plan :=
  catalog.plan? (subscription.pendingPlan.getD subscription.plan)

/-- Whether a sweep at `now` commits the waiting change of the subscription: the change is due, the
subscription is not expired, the catalog holds its plan and the live headcount fits the new seat
cap. -/
def commitsAt (subscription : Subscription) (now : Moment) (headcount : List (Uuid × Int)) (catalog : Store) :
    Bool :=
  match subscription.targetPlan? catalog with
  | some targetPlan =>
    subscription.hasPendingChange && decide (subscription.periodEnd ≤ now) && subscription.status != .expired &&
      decide (activeEmployees headcount subscription.company ≤ subscription.committedSeats targetPlan)
  | none => false

/-- The change a sweep at `now` leaves stuck: due, of a subscription not expired, with its plan in
the catalog and more active employees than its new seat cap. -/
def stuckAt (subscription : Subscription) (now : Moment) (headcount : List (Uuid × Int)) (catalog : Store) :
    Option Sweep.StuckChange :=
  match subscription.targetPlan? catalog with
  | some targetPlan =>
    if subscription.hasPendingChange = true ∧ subscription.periodEnd ≤ now ∧ subscription.status ≠ .expired ∧
        subscription.committedSeats targetPlan < activeEmployees headcount subscription.company then
      some ⟨subscription.id, subscription.company, subscription.pendingPlan, subscription.pendingMaxSeats,
        activeEmployees headcount subscription.company, subscription.committedSeats targetPlan⟩
    else none
  | none => none

/-- The subscription after a sweep at `now` commits what it can: a committed change at its new
period and the next version; anything else as it is. -/
def afterCommit (subscription : Subscription) (settings : Config) (now : Moment) (headcount : List (Uuid × Int))
    (catalog : Store) : Subscription :=
  match subscription.targetPlan? catalog, subscription.committedPeriod? settings.period with
  | some targetPlan, some period =>
    if subscription.commitsAt now headcount catalog then
      { subscription.committedTo targetPlan period now with version := subscription.version + 1 }
    else subscription
  | _, _ => subscription

variable {subscription : Subscription} {settings : Config} {now : Moment} {headcount : List (Uuid × Int)}
  {catalog : Store}

@[simp] theorem afterCommit_id : (subscription.afterCommit settings now headcount catalog).id = subscription.id := by
  unfold afterCommit
  split
  · split <;> rfl
  · rfl

theorem afterCommit_of_idle (idle : subscription.commitsAt now headcount catalog = false) :
    subscription.afterCommit settings now headcount catalog = subscription := by
  unfold afterCommit
  split
  · rw [if_neg (by simp [idle])]
  · rfl

theorem commitsAt_of_expired (expired : subscription.status = .expired) :
    subscription.commitsAt now headcount catalog = false := by
  unfold commitsAt
  split <;> simp [expired]

theorem stuckAt_of_expired (expired : subscription.status = .expired) :
    subscription.stuckAt now headcount catalog = none := by
  unfold stuckAt
  split
  · rw [if_neg (by simp [expired])]
  · rfl

section Listed

variable {targetPlan : Plan} (listed : subscription.targetPlan? catalog = some targetPlan)
include listed

theorem commitsAt_of_tooMany
    (tooMany : subscription.committedSeats targetPlan < activeEmployees headcount subscription.company) :
    subscription.commitsAt now headcount catalog = false := by
  simp [commitsAt, listed, Int.not_le.mpr tooMany]

theorem stuckAt_of_tooMany (waiting : subscription.hasPendingChange = true) (due : subscription.periodEnd ≤ now)
    (live : subscription.status ≠ .expired)
    (tooMany : subscription.committedSeats targetPlan < activeEmployees headcount subscription.company) :
    subscription.stuckAt now headcount catalog =
      some ⟨subscription.id, subscription.company, subscription.pendingPlan, subscription.pendingMaxSeats,
        activeEmployees headcount subscription.company, subscription.committedSeats targetPlan⟩ := by
  unfold stuckAt
  rw [listed]
  exact if_pos ⟨waiting, due, live, tooMany⟩

theorem commitsAt_of_fits (waiting : subscription.hasPendingChange = true) (due : subscription.periodEnd ≤ now)
    (live : subscription.status ≠ .expired)
    (fits : activeEmployees headcount subscription.company ≤ subscription.committedSeats targetPlan) :
    subscription.commitsAt now headcount catalog = true := by
  simp [commitsAt, listed, waiting, due, live, fits]

theorem stuckAt_of_fits (fits : activeEmployees headcount subscription.company ≤ subscription.committedSeats targetPlan) :
    subscription.stuckAt now headcount catalog = none := by
  unfold stuckAt
  rw [listed]
  exact if_neg fun ⟨_, _, _, tooMany⟩ => Int.not_lt.mpr fits tooMany

theorem afterCommit_of_commits {period : Moment × Moment} (dated : subscription.committedPeriod? settings.period = some period)
    (commits : subscription.commitsAt now headcount catalog = true) :
    subscription.afterCommit settings now headcount catalog =
      { subscription.committedTo targetPlan period now with version := subscription.version + 1 } := by
  unfold afterCommit
  rw [listed, dated]
  exact if_pos commits

end Listed

end Subscription

/-- In keyed records, putting a stored subscription back under its identifier changes nothing. -/
theorem Store.map_put_self {store : Store} (keyed : store.Keyed) {subscription : Subscription}
    (member : subscription ∈ store.subscriptions) :
    store.subscriptions.map (fun other => if other.id = subscription.id then subscription else other) =
      store.subscriptions := by
  have same : ∀ other ∈ store.subscriptions,
      (if other.id = subscription.id then subscription else other) = (fun kept => kept) other := by
    intro other stored
    split
    · rename_i sameId
      exact (List.inj_on_of_nodup_map keyed.subscriptions stored member sameId).symm
    · rfl
  rw [List.map_congr_left same, List.map_id']

/-- A versioned write puts the next version of the record under its identifier. -/
theorem Store.bumped_eq_put (next : Subscription) (version : Int) :
    Store.bumped next version = fun other => if other.id = next.id then { next with version := version + 1 } else other := by
  funext other
  simp [Store.bumped]

/-- Visiting one due change of a stored subscription commits it, leaves it stuck or skips it as
an expired one, and records the decision in the report; only a committed change is written. -/
theorem Sweep.commitOne_run {world : World} (steady : Steady world) (keyed : world.store.Keyed)
    {subscription : Subscription} (member : subscription ∈ world.store.subscriptions)
    (waiting : subscription.hasPendingChange = true) (due : subscription.periodEnd ≤ world.clock)
    (planned : subscription.status ≠ .expired → (subscription.targetPlan? world.store).isSome)
    (committable : subscription.commitsAt world.clock world.headcount world.store = true →
      (subscription.committedPeriod? world.config.period).isSome ∧ Arith.fitsInt64 (subscription.version + 1) = true)
    (limit : Nat) (report : Report) :
    ∃ after, (commitOne limit report subscription).run.run world =
        (.ok { report with
          changesCommitted := report.changesCommitted +
            if subscription.commitsAt world.clock world.headcount world.store then 1 else 0
          stuckPending := report.stuckPending ++ (subscription.stuckAt world.clock world.headcount world.store).toList },
          after) ∧
      after.Rewritten world (world.store.subscriptions.map fun other =>
          if other.id = subscription.id then subscription.afterCommit world.config world.clock world.headcount world.store
          else other)
        world.store.invoices := by
  have found := keyed.subscription?_of_mem member
  have timed := steady.timed limit
  unfold commitOne
  by_cases expired : subscription.status = .expired
  · -- an expired subscription is skipped, with a line in the log
    have ran := Ledger.commitPendingChange_run_expired timed found waiting expired
    rw [run_bind, withinLimit_run_ok limit ran]
    dsimp only
    rw [run_bind, run_emit, Subscription.commitsAt_of_expired expired, Subscription.stuckAt_of_expired expired,
      Subscription.afterCommit_of_idle (Subscription.commitsAt_of_expired expired), Store.map_put_self keyed member]
    simp only [Bool.false_eq_true, if_false, Nat.add_zero, Option.toList_none, List.append_nil]
    have frame := (World.Rewritten.refl { world with timeLeft := some limit }).timed.logged
    exact ⟨_, rfl, frame _⟩
  obtain ⟨targetPlan, listed⟩ := Option.isSome_iff_exists.mp (planned expired)
  by_cases tooMany : subscription.committedSeats targetPlan < activeEmployees world.headcount subscription.company
  · -- more active employees than the new cap: the change stays, and is reported stuck
    obtain ⟨after, ran, rewritten⟩ :=
      Ledger.commitPendingChange_run_refused timed found waiting expired due listed tooMany
    rw [run_bind, withinLimit_run_ok limit ran]
    dsimp only
    have idle : subscription.commitsAt world.clock world.headcount world.store = false :=
      Subscription.commitsAt_of_tooMany listed tooMany
    rw [idle, Subscription.stuckAt_of_tooMany listed waiting due expired tooMany,
      Subscription.afterCommit_of_idle idle, Store.map_put_self keyed member]
    simp only [Bool.false_eq_true, if_false, Nat.add_zero, Option.toList_some]
    exact ⟨_, rfl, rewritten.timed⟩
  · -- the change fits: it is committed and counted
    have fits := Int.not_lt.mp tooMany
    have commits : subscription.commitsAt world.clock world.headcount world.store = true :=
      Subscription.commitsAt_of_fits listed waiting due expired fits
    obtain ⟨dated, roomy⟩ := committable commits
    obtain ⟨period, dated⟩ := Option.isSome_iff_exists.mp dated
    obtain ⟨after, ran, rewritten⟩ :=
      Ledger.commitPendingChange_run_committed timed found waiting expired due listed fits dated roomy
    rw [run_bind, withinLimit_run_ok limit ran]
    dsimp only
    rw [commits, Subscription.stuckAt_of_fits listed fits, Subscription.afterCommit_of_commits listed dated commits]
    have written := rewritten.timed
    rw [Store.bumped_eq_put] at written
    simp only [if_true, Option.toList_none, List.append_nil]
    exact ⟨_, rfl, written⟩

/-! ## The pending-changes step -/

namespace Subscription

variable {subscription : Subscription} {settings : Config} {now : Moment} {headcount : List (Uuid × Int)}
  {catalog other : Store}

/-- Of the catalog, the step reads only the plans. -/
theorem targetPlan?_of_plans (same : other.plans = catalog.plans) :
    subscription.targetPlan? other = subscription.targetPlan? catalog :=
  Store.plan?_eq_of_plans same _

theorem commitsAt_of_plans (same : other.plans = catalog.plans) :
    subscription.commitsAt now headcount other = subscription.commitsAt now headcount catalog := by
  unfold commitsAt
  rw [targetPlan?_of_plans same]

theorem stuckAt_of_plans (same : other.plans = catalog.plans) :
    subscription.stuckAt now headcount other = subscription.stuckAt now headcount catalog := by
  unfold stuckAt
  rw [targetPlan?_of_plans same]

theorem afterCommit_of_plans (same : other.plans = catalog.plans) :
    subscription.afterCommit settings now headcount other = subscription.afterCommit settings now headcount catalog := by
  unfold afterCommit
  rw [targetPlan?_of_plans same, commitsAt_of_plans same]

/-- A change is committed only when it is waiting, due and on a subscription not expired. -/
theorem commitsAt_due (commits : subscription.commitsAt now headcount catalog = true) :
    subscription.hasPendingChange = true ∧ subscription.periodEnd ≤ now ∧ subscription.status ≠ .expired := by
  unfold commitsAt at commits
  split at commits
  · simp only [Bool.and_eq_true, decide_eq_true_eq, bne_iff_ne, ne_eq] at commits
    exact ⟨commits.1.1.1, commits.1.1.2, commits.1.2⟩
  · cases commits

/-- A change is stuck only when it is waiting and due. -/
theorem stuckAt_due {stuck : Sweep.StuckChange} (found : subscription.stuckAt now headcount catalog = some stuck) :
    subscription.hasPendingChange = true ∧ subscription.periodEnd ≤ now := by
  unfold stuckAt at found
  split at found
  · split_ifs at found with refused
    exact ⟨refused.1, refused.2.1⟩
  · cases found

end Subscription

/-- A subscription among those the pending-changes step has visited, by their identifiers, as the
step leaves it; any other as it is. -/
def Subscription.committedAmong (settings : Config) (now : Moment) (headcount : List (Uuid × Int)) (catalog : Store)
    (ids : List Uuid) (subscription : Subscription) : Subscription :=
  if subscription.id ∈ ids then subscription.afterCommit settings now headcount catalog else subscription

namespace Subscription

variable {settings : Config} {now : Moment} {headcount : List (Uuid × Int)} {catalog : Store}

@[simp] theorem committedAmong_id (ids : List Uuid) (subscription : Subscription) :
    (subscription.committedAmong settings now headcount catalog ids).id = subscription.id := by
  unfold committedAmong
  split <;> simp

theorem map_committedAmong_nil (subscriptions : List Subscription) :
    subscriptions.map (committedAmong settings now headcount catalog []) = subscriptions := by
  have same : ∀ subscription ∈ subscriptions,
      subscription.committedAmong settings now headcount catalog [] = (fun kept => kept) subscription :=
    fun subscription _ => by simp [committedAmong]
  rw [List.map_congr_left same, List.map_id']

theorem committedAmong_of_not_mem {ids : List Uuid} {subscription : Subscription} (outside : subscription.id ∉ ids) :
    subscription.committedAmong settings now headcount catalog ids = subscription := by
  simp [committedAmong, outside]

/-- Visiting one more subscription of keyed records extends the subscriptions visited so far. -/
theorem committedAmong_put {subscriptions : List Subscription} (keyed : (subscriptions.map (·.id)).Nodup)
    {ids : List Uuid} {subscription : Subscription} (member : subscription ∈ subscriptions)
    (fresh : subscription.id ∉ ids) :
    (subscriptions.map (committedAmong settings now headcount catalog ids)).map (fun other =>
        if other.id = subscription.id then subscription.afterCommit settings now headcount catalog else other) =
      subscriptions.map (committedAmong settings now headcount catalog (ids ++ [subscription.id])) := by
  rw [List.map_map]
  refine List.map_congr_left fun other stored => ?_
  by_cases same : other.id = subscription.id
  · have sameSubscription : other = subscription := List.inj_on_of_nodup_map keyed stored member same
    subst sameSubscription
    simp [committedAmong, fresh]
  · rw [Function.comp_apply, if_neg (by rw [committedAmong_id]; exact same)]
    simp [committedAmong, same]

/-- Once every subscription whose change commits has been visited, the visited ones are as the
step leaves every subscription. -/
theorem map_committedAmong_of_covers {subscriptions : List Subscription} {ids : List Uuid}
    (covers : ∀ subscription ∈ subscriptions, subscription.commitsAt now headcount catalog = true →
      subscription.id ∈ ids) :
    subscriptions.map (committedAmong settings now headcount catalog ids) =
      subscriptions.map (·.afterCommit settings now headcount catalog) := by
  refine List.map_congr_left fun subscription stored => ?_
  unfold committedAmong
  split
  · rfl
  · rename_i unvisited
    have idle : subscription.commitsAt now headcount catalog = false :=
      Bool.eq_false_iff.mpr fun commits => unvisited (covers subscription stored commits)
    rw [afterCommit_of_idle idle]

end Subscription

/-- Rewriting records without changing their identifiers keeps them keyed. -/
theorem Store.Keyed.of_maps {store other : Store} (keyed : other.Keyed) {rewrite : Subscription → Subscription}
    {revise : Invoice → Invoice} (subscriptions : store.subscriptions = other.subscriptions.map rewrite)
    (keeps : ∀ subscription, (rewrite subscription).id = subscription.id)
    (invoices : store.invoices = other.invoices.map revise) (keepsInvoices : ∀ invoice, (revise invoice).id = invoice.id) :
    store.Keyed := by
  have sameIds : Subscription.id ∘ rewrite = Subscription.id := funext keeps
  have sameInvoiceIds : Invoice.id ∘ revise = Invoice.id := funext keepsInvoices
  constructor
  · rw [subscriptions, List.map_map, sameIds]
    exact keyed.subscriptions
  · rw [invoices, List.map_map, sameInvoiceIds]
    exact keyed.invoices

/-- The listing of due changes holds the stored subscriptions with a change waiting and due. -/
theorem Store.mem_listWithPendingChanges {store : Store} {now : Moment} {subscription : Subscription} :
    subscription ∈ store.listWithPendingChanges (some now) ↔
      subscription ∈ store.subscriptions ∧ subscription.hasPendingChange = true ∧ subscription.periodEnd ≤ now := by
  unfold Store.listWithPendingChanges
  rw [List.mem_mergeSort, List.mem_filter]
  simp

/-- The listing holds every change that commits, so it commits as many as the records hold. -/
theorem Store.countP_listWithPendingChanges (store : Store) (now : Moment) (headcount : List (Uuid × Int))
    (catalog : Store) :
    (store.listWithPendingChanges (some now)).countP (·.commitsAt now headcount catalog) =
      store.subscriptions.countP (·.commitsAt now headcount catalog) := by
  unfold Store.listWithPendingChanges
  rw [(List.mergeSort_perm _ _).countP_eq, List.countP_filter]
  refine List.countP_congr fun subscription _ => ?_
  constructor
  · simp only [Bool.and_eq_true]
    exact fun both => both.1
  · intro commits
    obtain ⟨waiting, due, -⟩ := Subscription.commitsAt_due commits
    simp [commits, waiting, due]

/-- Visiting the due changes of distinct stored subscriptions, in any order, commits each change
that can be committed and reports each one that is stuck, with no failure; the subscriptions
visited are left as the step leaves them, the others as they are. -/
theorem Sweep.commitAll_run {world : World} (steady : Steady world) (keyed : world.store.Keyed)
    {due : List Subscription} (distinct : (due.map (·.id)).Nodup)
    (listed : ∀ subscription ∈ due, subscription ∈ world.store.subscriptions ∧
      subscription.hasPendingChange = true ∧ subscription.periodEnd ≤ world.clock)
    (planned : ∀ subscription ∈ due, subscription.status ≠ .expired → (subscription.targetPlan? world.store).isSome)
    (committable : ∀ subscription ∈ due, subscription.commitsAt world.clock world.headcount world.store = true →
      (subscription.committedPeriod? world.config.period).isSome ∧ Arith.fitsInt64 (subscription.version + 1) = true)
    (limit : Nat) (report : Report) :
    ∃ after, (due.foldlM (commitOne limit) report).run.run world =
        (.ok { report with
          changesCommitted := report.changesCommitted + due.countP (·.commitsAt world.clock world.headcount world.store)
          stuckPending := report.stuckPending ++ due.filterMap (·.stuckAt world.clock world.headcount world.store) },
          after) ∧
      after.Rewritten world (world.store.subscriptions.map
          (Subscription.committedAmong world.config world.clock world.headcount world.store (due.map (·.id))))
        world.store.invoices := by
  -- the invariant: the report counts the changes visited, and the subscriptions visited are as the step leaves them
  have visiting : ∀ done subscription left accumulated middle, done ++ subscription :: left = due →
      (accumulated = { report with
          changesCommitted := report.changesCommitted + done.countP (·.commitsAt world.clock world.headcount world.store)
          stuckPending := report.stuckPending ++ done.filterMap (·.stuckAt world.clock world.headcount world.store) } ∧
        middle.Rewritten world (world.store.subscriptions.map
          (Subscription.committedAmong world.config world.clock world.headcount world.store (done.map (·.id))))
          world.store.invoices) →
      ∃ next after, (commitOne limit accumulated subscription).run.run middle = (.ok next, after) ∧
        (next = { report with
          changesCommitted := report.changesCommitted +
            (done ++ [subscription]).countP (·.commitsAt world.clock world.headcount world.store)
          stuckPending := report.stuckPending ++
            (done ++ [subscription]).filterMap (·.stuckAt world.clock world.headcount world.store) } ∧
        after.Rewritten world (world.store.subscriptions.map (Subscription.committedAmong world.config world.clock
          world.headcount world.store ((done ++ [subscription]).map (·.id)))) world.store.invoices) := by
    intro done subscription left accumulated middle walk ⟨counted, rewritten⟩
    have visited : subscription ∈ due := walk ▸ List.mem_append_right done List.mem_cons_self
    obtain ⟨stored, waiting, dueBy⟩ := listed subscription visited
    have fresh : subscription.id ∉ done.map (·.id) := fresh_of_walk distinct walk
    obtain ⟨clock, settings, heads, -⟩ := rewritten.settled
    have samePlans := rewritten.plans
    have member : subscription ∈ middle.store.subscriptions := by
      rw [rewritten.subscriptions]
      exact List.mem_map.mpr ⟨subscription, stored, Subscription.committedAmong_of_not_mem fresh⟩
    have middleKeyed : middle.store.Keyed :=
      keyed.of_maps rewritten.subscriptions (Subscription.committedAmong_id _)
        (rewritten.invoices.trans (List.map_id' _).symm) fun _ => rfl
    obtain ⟨after, ran, step⟩ := commitOne_run (rewritten.steady steady) middleKeyed member waiting (clock ▸ dueBy)
      (by rw [Subscription.targetPlan?_of_plans samePlans]; exact planned subscription visited)
      (by rw [Subscription.commitsAt_of_plans samePlans, clock, heads, settings]; exact committable subscription visited)
      limit accumulated
    rw [Subscription.commitsAt_of_plans samePlans, Subscription.stuckAt_of_plans samePlans, clock, heads] at ran
    rw [Subscription.afterCommit_of_plans samePlans, clock, heads, settings, rewritten.subscriptions,
      rewritten.invoices, Subscription.committedAmong_put keyed.subscriptions stored fresh] at step
    refine ⟨_, after, ran, ?_, by rw [List.map_append]; exact rewritten.trans step⟩
    rw [counted]
    cases stuck : subscription.stuckAt world.clock world.headcount world.store <;>
      simp [stuck, List.filterMap_append, Nat.add_assoc]
  obtain ⟨result, after, folded, counted, rewritten⟩ :=
    run_foldlM_of_step (commitOne limit) due _ visiting due [] report world (List.nil_append _)
      ⟨by simp, by rw [List.map_nil, Subscription.map_committedAmong_nil]; exact World.Rewritten.refl world⟩
  exact ⟨after, by rw [folded, counted], rewritten⟩

theorem Ledger.duePendingChanges_run {world : World} (steady : Steady world) :
    duePendingChanges.run.run world = (.ok (world.store.listWithPendingChanges (some world.clock)), world) := by
  unfold duePendingChanges
  rw [run_bind, run_now]
  exact Calls.listWithPendingChanges_run steady _

/-- Visiting the due changes in any order of the listing commits the same changes, reports the
same stuck ones in that order, and leaves every subscription as `afterCommit` says. -/
theorem Sweep.commitAll_perm_run {world : World} (steady : Steady world) (keyed : world.store.Keyed)
    (planned : ∀ subscription ∈ world.store.subscriptions, subscription.hasPendingChange = true →
      subscription.periodEnd ≤ world.clock → subscription.status ≠ .expired →
        (subscription.targetPlan? world.store).isSome)
    (committable : ∀ subscription ∈ world.store.subscriptions,
      subscription.commitsAt world.clock world.headcount world.store = true →
        (subscription.committedPeriod? world.config.period).isSome ∧ Arith.fitsInt64 (subscription.version + 1) = true)
    {due : List Subscription} (reordered : due.Perm (world.store.listWithPendingChanges (some world.clock)))
    (limit : Nat) (report : Report) :
    ∃ after, (due.foldlM (commitOne limit) report).run.run world =
        (.ok { report with
          changesCommitted := report.changesCommitted +
            world.store.subscriptions.countP (·.commitsAt world.clock world.headcount world.store)
          stuckPending := report.stuckPending ++ due.filterMap (·.stuckAt world.clock world.headcount world.store) },
          after) ∧
      after.Rewritten world
        (world.store.subscriptions.map (·.afterCommit world.config world.clock world.headcount world.store))
        world.store.invoices := by
  have listed : ∀ subscription ∈ due, subscription ∈ world.store.subscriptions ∧
      subscription.hasPendingChange = true ∧ subscription.periodEnd ≤ world.clock :=
    fun _ member => Store.mem_listWithPendingChanges.mp (reordered.subset member)
  obtain ⟨after, folded, rewritten⟩ :=
    commitAll_run steady keyed ((reordered.map _).nodup_iff.mpr (listWithPendingChanges_nodup keyed _)) listed
      (fun subscription member => planned subscription (listed subscription member).1
        (listed subscription member).2.1 (listed subscription member).2.2)
      (fun subscription member => committable subscription (listed subscription member).1) limit report
  -- every change that commits is listed, so visiting the listing commits all of them
  have covers : ∀ subscription ∈ world.store.subscriptions,
      subscription.commitsAt world.clock world.headcount world.store = true → subscription.id ∈ due.map (·.id) := by
    intro subscription stored commits
    obtain ⟨waiting, dueBy, -⟩ := Subscription.commitsAt_due commits
    exact List.mem_map.mpr
      ⟨subscription, reordered.mem_iff.mpr (Store.mem_listWithPendingChanges.mpr ⟨stored, waiting, dueBy⟩), rfl⟩
  rw [Subscription.map_committedAmong_of_covers covers] at rewritten
  rw [reordered.countP_eq, Store.countP_listWithPendingChanges] at folded
  exact ⟨after, folded, rewritten⟩

/-- The pending-changes step commits every change that can be committed and reports every stuck
one, in the order of the listing, with no failure; it leaves every subscription as `afterCommit`
says. -/
theorem Sweep.commitPendingChanges_run {world : World} (steady : Steady world) (keyed : world.store.Keyed)
    (planned : ∀ subscription ∈ world.store.subscriptions, subscription.hasPendingChange = true →
      subscription.periodEnd ≤ world.clock → subscription.status ≠ .expired →
        (subscription.targetPlan? world.store).isSome)
    (committable : ∀ subscription ∈ world.store.subscriptions,
      subscription.commitsAt world.clock world.headcount world.store = true →
        (subscription.committedPeriod? world.config.period).isSome ∧ Arith.fitsInt64 (subscription.version + 1) = true)
    (report : Report) :
    ∃ after, (commitPendingChanges report).run.run world =
        (.ok { report with
          changesCommitted := report.changesCommitted +
            world.store.subscriptions.countP (·.commitsAt world.clock world.headcount world.store)
          stuckPending := report.stuckPending ++ (world.store.listWithPendingChanges (some world.clock)).filterMap
            (·.stuckAt world.clock world.headcount world.store) },
          after) ∧
      after.Rewritten world
        (world.store.subscriptions.map (·.afterCommit world.config world.clock world.headcount world.store))
        world.store.invoices := by
  unfold commitPendingChanges
  rw [run_bind, Webhook.run_attempt, Ledger.duePendingChanges_run steady]
  dsimp only
  rw [run_bind, run_config]
  exact commitAll_perm_run steady keyed planned committable (List.Perm.refl _) world.config.recordTimeout report

/-- The expiry step, with its grace cutoff in range and room for the next version of every
subscription it moves, moves each subscription by the expiry rule and reports the counts of the
rule, with no failure. -/
theorem Sweep.expireLapsed_run {world : World} (steady : Steady world) (grace : 0 ≤ world.config.gracePeriod.seconds)
    {cutoff : Moment} (cut : world.clock.unshift? world.config.gracePeriod = some cutoff)
    (roomy : ∀ subscription ∈ world.store.subscriptions, (subscription.lapseOf? world.clock cutoff).isSome →
      Arith.fitsInt64 (subscription.version + 1) = true)
    (report : Report) :
    ∃ after, (Sweep.expireLapsed report).run.run world =
        (.ok { report with expiry := Ledger.ExpiryCounts.ofRule world.clock cutoff world.store.subscriptions }, after) ∧
      after.Rewritten world (world.store.subscriptions.map (·.lapse world.clock cutoff)) world.store.invoices := by
  obtain ⟨logs, ran⟩ := Ledger.expireLapsed_run (steady.timed world.config.recordTimeout) grace cut roomy
  unfold Sweep.expireLapsed
  rw [run_bind, run_config]
  dsimp only
  rw [run_bind, withinLimit_run_ok _ ran]
  exact ⟨_, rfl, ⟨_, _, _, rfl⟩, rfl, rfl, rfl⟩

/-- The summary of a sweep only logs. -/
theorem Sweep.logSummary_run (world : World) (report : Report) :
    ∃ logs, (logSummary report).run.run world = (.ok (), { world with logs := logs }) := by
  unfold logSummary
  split
  · exact ⟨_, run_emit ..⟩
  · exact ⟨_, run_emit ..⟩

end SeatBilling
