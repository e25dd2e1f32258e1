import SeatBilling.Proofs.Sweep.Fates
import SeatBilling.Proofs.Ledger.PaidTime

/-!
# The expiry pass, one subscription at a time

The expiry pass moves lapsed subscriptions with three bulk updates, one after the other: cancelled
ones whose period has ended expire; unpaid ones (trial, active or past due) whose period ended
before the grace cutoff expire; trial and active ones whose period has ended fall past due. Here
the same pass is said of each subscription on its own (`Subscription.lapseOf?`, `lapse`), and the
three bulk updates are shown to make exactly that move of every subscription, each at most once,
as long as the grace cutoff is not after the clock. The counts the pass reports are the sizes of
the three classes.

The pass reads the clock less the grace period, and each move writes the next version; when
either leaves its range the pass halts, having made the moves before.
-/

namespace SeatBilling

open SeatBilling.Time

/-- The three moves of the expiry pass, named for the count that reports each. -/
inductive Lapse where
  /-- A cancelled subscription whose period has ended expires. -/
  | cancelledExpired
  /-- An unpaid subscription whose period ended before the grace cutoff expires. -/
  | graceExpired
  /-- A trial or active subscription whose period ended after the grace cutoff falls past due. -/
  | movedToPastDue
  deriving DecidableEq, Repr

/-- The status a move leads to. -/
def Lapse.target : Lapse → SubscriptionStatus
  | .cancelledExpired => .expired
  | .graceExpired => .expired
  | .movedToPastDue => .pastDue

namespace Subscription

/-- The move the expiry pass at `now`, with grace cutoff `cutoff`, makes of a subscription, decided
by the subscription alone. -/
def lapseOf? (now cutoff : Moment) (subscription : Subscription) : Option Lapse :=
  match subscription.status with
  | .cancelled => if subscription.periodEnd < now then some .cancelledExpired else none
  | .trial | .active =>
    if subscription.periodEnd < cutoff then some .graceExpired
    else if subscription.periodEnd < now then some .movedToPastDue
    else none
  | .pastDue => if subscription.periodEnd < cutoff then some .graceExpired else none
  | .expired => none

/-- A subscription as the expiry pass leaves it: moved to the status of its move, written at
`now` at the next version, and otherwise as it was. -/
def lapse (now cutoff : Moment) (subscription : Subscription) : Subscription :=
  match subscription.lapseOf? now cutoff with
  | some move => { subscription with status := move.target, updatedAt := now, version := subscription.version + 1 }
  | none => subscription

end Subscription

/-- How many of `subscriptions` each move takes. -/
def Ledger.ExpiryCounts.ofRule (now cutoff : Moment) (subscriptions : List Subscription) : Ledger.ExpiryCounts :=
  ⟨subscriptions.countP (·.lapseOf? now cutoff == some .cancelledExpired),
    subscriptions.countP (·.lapseOf? now cutoff == some .graceExpired),
    subscriptions.countP (·.lapseOf? now cutoff == some .movedToPastDue)⟩

namespace Subscription

variable {now cutoff : Moment}

/-- A subscription whose period has not ended, or in a status the pass never moves, stays. -/
theorem lapseOf?_eq_none (early : cutoff ≤ now) {subscription : Subscription}
    (current : ¬ ([SubscriptionStatus.trial, .active, .pastDue, .cancelled].contains subscription.status = true ∧
      subscription.periodEnd < now)) :
    subscription.lapseOf? now cutoff = none := by
  have beforeCutoff : subscription.periodEnd < cutoff → subscription.periodEnd < now :=
    fun lapsed => Moment.lt_of_lt_of_le lapsed early
  unfold lapseOf?
  cases status : subscription.status <;> simp_all

theorem lapse_of_none {subscription : Subscription} (stays : subscription.lapseOf? now cutoff = none) :
    subscription.lapse now cutoff = subscription := by
  simp [lapse, stays]

end Subscription

/-- When the store lists no subscription as lapsed, the rule moves none of them: each is in a
status the pass never moves, or its period has not ended. -/
theorem Store.lapseOf?_of_current {store : Store} {now cutoff : Moment} (early : cutoff ≤ now)
    (current : store.listExpiring [.trial, .active, .pastDue, .cancelled] now = []) :
    ∀ subscription ∈ store.subscriptions, subscription.lapseOf? now cutoff = none := by
  intro subscription member
  refine Subscription.lapseOf?_eq_none early fun lapsing => ?_
  rw [Store.listExpiring, List.filter_eq_nil_iff] at current
  exact current subscription member (by simpa using lapsing)

/-- Subscriptions the rule moves none of are left as they are, and counted in no class. -/
theorem Ledger.ExpiryCounts.ofRule_of_stays {now cutoff : Moment} {subscriptions : List Subscription}
    (stays : ∀ subscription ∈ subscriptions, subscription.lapseOf? now cutoff = none) :
    subscriptions.map (·.lapse now cutoff) = subscriptions ∧ ExpiryCounts.ofRule now cutoff subscriptions = ⟨0, 0, 0⟩ := by
  refine ⟨?_, ?_⟩
  · rw [List.map_congr_left fun subscription member => Subscription.lapse_of_none (stays subscription member),
      List.map_id']
  · simp only [ExpiryCounts.ofRule, ExpiryCounts.mk.injEq, List.countP_eq_zero]
    refine ⟨fun subscription member => ?_, fun subscription member => ?_, fun subscription member => ?_⟩ <;>
      simp [stays subscription member]

/-! ## Three bulk updates make the one move of each subscription -/

namespace Store

variable {now cutoff : Moment}

/-- The first update expires exactly the cancelled subscriptions whose period has ended, whatever
the grace cutoff. -/
theorem expires_cancelled (cutoff : Moment) (subscription : Subscription) :
    expires [.cancelled] now subscription = (subscription.lapseOf? now cutoff == some .cancelledExpired) := by
  unfold expires Subscription.lapseOf?
  cases status : subscription.status <;> by_cases ended : subscription.periodEnd < now <;>
    by_cases graceEnded : subscription.periodEnd < cutoff <;> simp [ended, graceEnded]

/-- The second update, after the first, expires exactly the unpaid subscriptions whose period
ended before the grace cutoff: the first moved none of them. -/
theorem expires_unpaid (subscription : Subscription) :
    expires [.trial, .active, .pastDue] cutoff (expired [.cancelled] now .expired now subscription) =
      (subscription.lapseOf? now cutoff == some .graceExpired) := by
  unfold expired expires Subscription.lapseOf?
  cases status : subscription.status <;> by_cases ended : subscription.periodEnd < now <;>
    by_cases graceEnded : subscription.periodEnd < cutoff <;> simp [status, ended, graceEnded]

/-- The third update, after the first two, moves exactly the trial and active subscriptions whose
period ended since the grace cutoff: the second took those that ended before it. -/
theorem expires_pastDue (subscription : Subscription) :
    expires [.trial, .active] now
        (expired [.trial, .active, .pastDue] cutoff .expired now (expired [.cancelled] now .expired now subscription)) =
      (subscription.lapseOf? now cutoff == some .movedToPastDue) := by
  unfold expired expires Subscription.lapseOf?
  cases status : subscription.status <;> by_cases ended : subscription.periodEnd < now <;>
    by_cases graceEnded : subscription.periodEnd < cutoff <;> simp [status, ended, graceEnded]

/-- With the grace cutoff not after the clock, the three updates in order move each
subscription as the expiry rule says, and at most once. -/
theorem expired_three_eq_lapse (early : cutoff ≤ now) (subscription : Subscription) :
    expired [.trial, .active] now .pastDue now
        (expired [.trial, .active, .pastDue] cutoff .expired now (expired [.cancelled] now .expired now subscription)) =
      subscription.lapse now cutoff := by
  -- a period that ended before the cutoff ended before the clock
  have beforeCutoff : subscription.periodEnd < cutoff → subscription.periodEnd < now :=
    fun lapsed => Moment.lt_of_lt_of_le lapsed early
  unfold expired expires Subscription.lapse Subscription.lapseOf?
  cases status : subscription.status <;> by_cases ended : subscription.periodEnd < now <;>
    by_cases graceEnded : subscription.periodEnd < cutoff <;> simp_all [Lapse.target]

end Store

/-! ## The pass on the records in memory -/

/-- A map in `Except` whose every step succeeds with `g` gives the list mapped by `g`. -/
theorem mapM_eq_ok_of_forall {α β ε : Type} {f : α → Except ε β} (g : α → β) :
    ∀ {xs : List α}, (∀ x ∈ xs, f x = .ok (g x)) → xs.mapM f = .ok (xs.map g)
  | [], _ => rfl
  | x :: xs, each => by
    rw [List.mapM_cons, each x List.mem_cons_self,
      mapM_eq_ok_of_forall g fun other member => each other (List.mem_cons_of_mem x member)]
    rfl

/-- A bulk update in which every subscription it moves has room for its next version moves them
all, and counts them. -/
theorem Store.updateExpiredToStatus_of_fits {store : Store} {statuses : List SubscriptionStatus} {cutoff : Moment}
    {target : SubscriptionStatus} {now : Moment}
    (fits : ∀ subscription ∈ store.subscriptions, expires statuses cutoff subscription = true →
      Arith.fitsInt64 (subscription.version + 1) = true) :
    store.updateExpiredToStatus statuses cutoff target now =
      .ok (store.subscriptions.countP (expires statuses cutoff),
        { store with subscriptions := store.subscriptions.map (expired statuses cutoff target now) }) := by
  unfold Store.updateExpiredToStatus
  dsimp only
  rw [mapM_eq_ok_of_forall (expired statuses cutoff target now) fun subscription member => ?_]
  · rw [List.countP_eq_length_filter]
    rfl
  -- a moved subscription takes the next version, which fits; the others stay
  unfold expired
  by_cases moves : expires statuses cutoff subscription = true
  · have bumped : nextVersion subscription.version = .ok (subscription.version + 1) := by
      simp [nextVersion, Arith.within64, fits subscription member moves]
    simp only [expires] at moves
    simp only [moves, if_true, bumped, expires]
    rfl
  · simp only [expires] at moves
    simp only [moves, if_false, Bool.false_eq_true, expires]
    rfl

namespace Calls

variable {world : World} (steady : Steady world)
include steady

theorem listExpiring_run (statuses : List SubscriptionStatus) (before : Moment) :
    (listExpiring statuses before).run.run world = (.ok (world.store.listExpiring statuses before), world) := by
  rw [listExpiring, guarded_run steady.noFaults, backed_run steady.inMemory, readStore_run]

theorem updateExpiredToStatus_run_of_fits {statuses : List SubscriptionStatus} {cutoff : Moment}
    {target : SubscriptionStatus} {at_ : Moment}
    (fits : ∀ subscription ∈ world.store.subscriptions, Store.expires statuses cutoff subscription = true →
      Arith.fitsInt64 (subscription.version + 1) = true) :
    (updateExpiredToStatus statuses cutoff target at_).run.run world =
      (.ok (world.store.subscriptions.countP (Store.expires statuses cutoff)),
        { world with store := { world.store with
          subscriptions := world.store.subscriptions.map (Store.expired statuses cutoff target at_) } }) := by
  rw [updateExpiredToStatus, guarded_run steady.noFaults, backed_run steady.inMemory, haltingStep_run,
    Store.updateExpiredToStatus_of_fits fits]

end Calls

theorem Store.expired_of_stays {statuses : List SubscriptionStatus} {cutoff : Moment} {target : SubscriptionStatus}
    {now : Moment} {subscription : Subscription} (stays : expires statuses cutoff subscription = false) :
    expired statuses cutoff target now subscription = subscription := by
  simp [expired, stays]

namespace Ledger

variable {world : World} (steady : Steady world)
include steady

/-- With no subscription lapsed, the pass returns at once, having moved nothing. -/
theorem expireLapsed_run_of_current
    (current : world.store.listExpiring [.trial, .active, .pastDue, .cancelled] world.clock = []) :
    expireLapsed.run.run world = (.ok ⟨0, 0, 0⟩, world) := by
  unfold expireLapsed
  rw [run_bind, run_now]
  dsimp only
  rw [run_bind, Calls.listExpiring_run steady, current]
  rfl

/-- With a grace cutoff in range and room for the next version of every subscription it moves, the
pass moves each subscription by the expiry rule and reports how many each move took. -/
theorem expireLapsed_run {cutoff : Moment} (grace : 0 ≤ world.config.gracePeriod.seconds)
    (cut : world.clock.unshift? world.config.gracePeriod = some cutoff)
    (roomy : ∀ subscription ∈ world.store.subscriptions, (subscription.lapseOf? world.clock cutoff).isSome →
      Arith.fitsInt64 (subscription.version + 1) = true) :
    ∃ logs, expireLapsed.run.run world =
      (.ok (ExpiryCounts.ofRule world.clock cutoff world.store.subscriptions),
        { world with
          store := { world.store with
            subscriptions := world.store.subscriptions.map (·.lapse world.clock cutoff) },
          logs := logs }) := by
  have early : cutoff ≤ world.clock := Moment.le_of_unshift? grace cut
  -- the subscriptions each bulk update moves are those of its class, still at their version
  have moved : ∀ subscription ∈ world.store.subscriptions, ∀ move,
      subscription.lapseOf? world.clock cutoff = some move → Arith.fitsInt64 (subscription.version + 1) = true :=
    fun subscription member move found => roomy subscription member (by rw [found]; rfl)
  have firstFits : ∀ subscription ∈ world.store.subscriptions,
      Store.expires [.cancelled] world.clock subscription = true → Arith.fitsInt64 (subscription.version + 1) = true := by
    intro subscription member moves
    rw [Store.expires_cancelled cutoff] at moves
    exact moved subscription member _ (beq_iff_eq.mp moves)
  have secondFits : ∀ subscription ∈ world.store.subscriptions.map (Store.expired [.cancelled] world.clock .expired world.clock),
      Store.expires [.trial, .active, .pastDue] cutoff subscription = true →
        Arith.fitsInt64 (subscription.version + 1) = true := by
    intro subscription member moves
    obtain ⟨original, origin, rfl⟩ := List.mem_map.mp member
    rw [Store.expires_unpaid] at moves
    have unpaid := beq_iff_eq.mp moves
    rw [Store.expired_of_stays (by rw [Store.expires_cancelled cutoff, unpaid]; rfl)]
    exact moved original origin _ unpaid
  have thirdFits : ∀ subscription ∈ (world.store.subscriptions.map (Store.expired [.cancelled] world.clock .expired world.clock)).map
      (Store.expired [.trial, .active, .pastDue] cutoff .expired world.clock),
      Store.expires [.trial, .active] world.clock subscription = true →
        Arith.fitsInt64 (subscription.version + 1) = true := by
    intro subscription member moves
    rw [List.map_map] at member
    obtain ⟨original, origin, rfl⟩ := List.mem_map.mp member
    simp only [Function.comp_apply] at moves ⊢
    rw [Store.expires_pastDue] at moves
    have pastDue := beq_iff_eq.mp moves
    rw [Store.expired_of_stays (by rw [Store.expires_unpaid, pastDue]; rfl),
      Store.expired_of_stays (by rw [Store.expires_cancelled cutoff, pastDue]; rfl)]
    exact moved original origin _ pastDue
  unfold expireLapsed
  rw [run_bind, run_now]
  dsimp only
  rw [run_bind, Calls.listExpiring_run steady]
  dsimp only
  split
  · -- nothing lapsed: the rule moves nothing and counts nothing
    rename_i empty
    obtain ⟨kept, counted⟩ := ExpiryCounts.ofRule_of_stays
      (Store.lapseOf?_of_current early (List.isEmpty_iff.mp empty))
    refine ⟨world.logs, ?_⟩
    rw [counted, kept]
    rfl
  rw [run_bind, run_config]
  dsimp only
  rw [run_bind, cut, run_orOverflow_some]
  dsimp only
  rw [run_bind, Calls.updateExpiredToStatus_run_of_fits steady firstFits]
  dsimp only
  rw [run_bind, Calls.updateExpiredToStatus_run_of_fits (steady.update _ world.serial world.provider) ?second]
  dsimp only
  rw [run_bind, Calls.updateExpiredToStatus_run_of_fits (steady.update _ world.serial world.provider) ?third]
  dsimp only
  -- the counts are the sizes of the three classes, and the three moves are the rule
  have firstCount : world.store.subscriptions.countP (Store.expires [.cancelled] world.clock) =
      world.store.subscriptions.countP (·.lapseOf? world.clock cutoff == some .cancelledExpired) := by
    congr 1
    funext subscription
    exact Store.expires_cancelled cutoff subscription
  have secondCount : (world.store.subscriptions.map (Store.expired [.cancelled] world.clock .expired world.clock)).countP
      (Store.expires [.trial, .active, .pastDue] cutoff) =
        world.store.subscriptions.countP (·.lapseOf? world.clock cutoff == some .graceExpired) := by
    rw [List.countP_map]
    congr 1
    funext subscription
    exact Store.expires_unpaid subscription
  have thirdCount : ((world.store.subscriptions.map (Store.expired [.cancelled] world.clock .expired world.clock)).map
      (Store.expired [.trial, .active, .pastDue] cutoff .expired world.clock)).countP
        (Store.expires [.trial, .active] world.clock) =
      world.store.subscriptions.countP (·.lapseOf? world.clock cutoff == some .movedToPastDue) := by
    rw [List.map_map, List.countP_map]
    congr 1
    funext subscription
    exact Store.expires_pastDue subscription
  have moves : (((world.store.subscriptions.map (Store.expired [.cancelled] world.clock .expired world.clock)).map
      (Store.expired [.trial, .active, .pastDue] cutoff .expired world.clock)).map
        (Store.expired [.trial, .active] world.clock .pastDue world.clock)) =
      world.store.subscriptions.map (·.lapse world.clock cutoff) := by
    rw [List.map_map, List.map_map]
    exact List.map_congr_left fun subscription _ => Store.expired_three_eq_lapse early subscription
  rw [firstCount, secondCount, thirdCount, moves]
  split
  · exact ⟨_, rfl⟩
  · exact ⟨_, rfl⟩
  case second => exact secondFits
  case third => exact thirdFits

end Ledger

/-! ## The pass is the rule -/

/-- The expiry pass, on the records in memory with nothing armed to fail and a grace period that
is not negative, is the expiry rule applied to each subscription on its own. When the store lists
no lapsed subscription the pass returns at once with nothing moved, which is also what the rule
does with any cutoff not after the clock. Otherwise, as long as the grace cutoff lies in the
calendar and every subscription the rule moves has room for its next version, the pass stores
every subscription as the rule leaves it (the moved ones at the status of their move, written at
the clock at the next version, nothing else changed) and reports the size of each class. -/
theorem expiry_pass_follows_rule {world : World} (steady : Steady world)
    (grace : 0 ≤ world.config.gracePeriod.seconds) :
    (world.store.listExpiring [.trial, .active, .pastDue, .cancelled] world.clock = [] →
      Ledger.expireLapsed.run.run world = (.ok ⟨0, 0, 0⟩, world) ∧
        ∀ cutoff ≤ world.clock, world.store.subscriptions.map (·.lapse world.clock cutoff) = world.store.subscriptions ∧
          Ledger.ExpiryCounts.ofRule world.clock cutoff world.store.subscriptions = ⟨0, 0, 0⟩) ∧
    ∀ cutoff, world.clock.unshift? world.config.gracePeriod = some cutoff →
      (∀ subscription ∈ world.store.subscriptions, (subscription.lapseOf? world.clock cutoff).isSome →
        Arith.fitsInt64 (subscription.version + 1) = true) →
      ∃ logs, Ledger.expireLapsed.run.run world =
        (.ok (Ledger.ExpiryCounts.ofRule world.clock cutoff world.store.subscriptions),
          { world with
            store := { world.store with
              subscriptions := world.store.subscriptions.map (·.lapse world.clock cutoff) },
            logs := logs }) :=
  ⟨fun current => ⟨Ledger.expireLapsed_run_of_current steady current, fun _ early =>
      Ledger.ExpiryCounts.ofRule_of_stays (Store.lapseOf?_of_current early current)⟩,
    fun _ cut roomy => Ledger.expireLapsed_run steady grace cut roomy⟩

/-- The January world on the first of February: the January subscription has lapsed. -/
def februaryWorld : World := { januaryWorld with clock := ⟨(1767225600 + 31 * 86400) * nanosPerSecond, 0⟩ }

/-- A week before the first of February: the grace cutoff of `februaryWorld`. -/
def februaryGraceCutoff : Moment := ⟨(1767225600 + 24 * 86400) * nanosPerSecond, 0⟩

/-- On the first of February the expiry pass moves the January subscription past due, as the rule
does. -/
theorem february_expiry_follows_rule :
    Steady februaryWorld ∧ 0 ≤ februaryWorld.config.gracePeriod.seconds ∧
      februaryWorld.clock.unshift? februaryWorld.config.gracePeriod = some februaryGraceCutoff ∧
      (∀ subscription ∈ februaryWorld.store.subscriptions,
        (subscription.lapseOf? februaryWorld.clock februaryGraceCutoff).isSome →
          Arith.fitsInt64 (subscription.version + 1) = true) ∧
      ∃ logs, Ledger.expireLapsed.run.run februaryWorld =
        (.ok (Ledger.ExpiryCounts.ofRule februaryWorld.clock februaryGraceCutoff februaryWorld.store.subscriptions),
          { februaryWorld with
            store := { februaryWorld.store with
              subscriptions := februaryWorld.store.subscriptions.map (·.lapse februaryWorld.clock februaryGraceCutoff) },
            logs := logs }) := by
  have steady : Steady februaryWorld := ⟨rfl, rfl⟩
  have grace : 0 ≤ februaryWorld.config.gracePeriod.seconds := by decide
  have cut : februaryWorld.clock.unshift? februaryWorld.config.gracePeriod = some februaryGraceCutoff := by decide
  have roomy : ∀ subscription ∈ februaryWorld.store.subscriptions,
      (subscription.lapseOf? februaryWorld.clock februaryGraceCutoff).isSome →
        Arith.fitsInt64 (subscription.version + 1) = true := by
    decide
  exact ⟨steady, grace, cut, roomy, (expiry_pass_follows_rule steady grace).2 _ cut roomy⟩

/-- The January subscription, cancelled, at the largest version a word holds. -/
def cancelledAtLastVersion : Subscription :=
  { januarySubscription with status := .cancelled, version := Arith.maxInt64 }

/-- `februaryWorld` holding `cancelledAtLastVersion` instead of the January subscription. -/
def lastVersionWorld : World :=
  { februaryWorld with store := { februaryWorld.store with subscriptions := [cancelledAtLastVersion] } }

/-- Four days into the first year the calendar holds. -/
def calendarStart : Moment := ⟨Moment.wallMin + 4 * nanosPerDay, 0⟩

/-- A subscription cancelled in the first days of the calendar, its period over a day after the
calendar begins. -/
def earliestCancelled : Subscription :=
  { januarySubscription with
    status := .cancelled
    periodStart := ⟨Moment.wallMin, 0⟩
    periodEnd := ⟨Moment.wallMin + nanosPerDay, 0⟩ }

/-- The quiet world with its clock at `calendarStart`, holding `earliestCancelled`. -/
def calendarStartWorld : World :=
  { januaryWorld with
    store := { januaryWorld.store with subscriptions := [earliestCancelled] }
    clock := calendarStart }

/-- The pass is not the rule at the edges of its arithmetic: a cancelled subscription whose period
has ended, which the rule expires, makes the pass halt when it has the largest version, and when
the clock is less than the grace period from the calendar's start; the subscription stays
cancelled. -/
theorem expiry_pass_halts_past_its_range :
    cancelledAtLastVersion.lapseOf? lastVersionWorld.clock februaryGraceCutoff = some .cancelledExpired ∧
      Ledger.expireLapsed.run.run lastVersionWorld = (.error .overflow, lastVersionWorld) ∧
    earliestCancelled.status = .cancelled ∧ earliestCancelled.periodEnd < calendarStartWorld.clock ∧
      calendarStartWorld.clock.unshift? calendarStartWorld.config.gracePeriod = none ∧
      Ledger.expireLapsed.run.run calendarStartWorld = (.error .overflow, calendarStartWorld) := by
  refine ⟨by decide, ?_, rfl, by decide, by decide, ?_⟩
  · rfl
  · rfl

end SeatBilling
