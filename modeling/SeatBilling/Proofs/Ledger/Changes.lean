import SeatBilling.Proofs.Services.Runs
import SeatBilling.Proofs.Store.Writes
import SeatBilling.Ledger.Operations

/-!
# The changes the core makes to its records

Every change an operation of the core makes to its records is one store call, and the calls
come in a few kinds: a new trial; a revision of a subscription it read, through `save`; a new
pending invoice; setting a new invoice aside or linking it to the provider's; closing an
invoice; settling a paid one; a step of the expiry pass; an event. `CoreWrite` says of each
kind which call it is, given what the operation read of the store and checked first, at the
clock reading `now`: this is the vocabulary in which the laws of the ledger are argued, once
per kind of call rather than once per operation.

`Store.Made` is a run of such calls, each new record under a fresh identifier, and
`Facts.Reaches` the facts a run leads to. The store calls of `Calls` end where `Facts.Wrote`
says: on the facts they started from, or with their call applied.
-/

namespace SeatBilling

open SeatBilling.Time

/-- The active employees of a company, as the employee directory in memory counts them. -/
def activeEmployees (headcount : List (Uuid × Int)) (company : Uuid) : Int :=
  ((headcount.find? (·.1 == company)).map (·.2)).getD 0

/-- The seat cap a waiting change commits to: the waiting seat count, else the included seats
of the waiting plan, else the cap in force. -/
def Subscription.committedSeats (subscription : Subscription) (targetPlan : Plan) : Int :=
  match subscription.pendingMaxSeats, subscription.pendingPlan with
  | some seats, _ => seats
  | none, some _ => targetPlan.maxSeatsIncluded
  | none, none => subscription.maxSeats

/-! ## Revisions of a subscription -/

/-- How an operation of the ledger revises a subscription through `save`. -/
inductive Revision where
  | downgrade
  | raiseSeats
  | lowerSeats
  | keepSeats
  | cancel
  | withdraw
  | commit
  deriving DecidableEq, Repr

/-- The subscription `current`, read from `store`, revised by `revision` into the subscription
written, with the checks the operation made first, at the clock reading `now`. -/
inductive Revises (settings : Config) (now : Moment) (headcount : List (Uuid × Int)) (store : Store)
    (current : Subscription) : Revision → Subscription → Prop
  /-- A downgrade of an active subscription to a plan on offer, other than its own and not of a
  higher tier, waits for the end of the period. -/
  | downgrade (target currentPlan : Plan) (active : current.status = .active)
      (found : store.plan? target.id = some target) (offered : target.active = true)
      (other : target.id ≠ current.plan) (currentFound : store.plan? current.plan = some currentPlan)
      (notHigher : target.isHigherTierThan currentPlan = false) :
      Revises settings now headcount store current .downgrade
        { current with pendingPlan := some target.id, updatedAt := now }
  /-- A seat increase of an active subscription that costs nothing takes effect at once and
  drops a waiting decrease. -/
  | raiseSeats (seats : Int) (active : current.status = .active) (positive : 1 ≤ seats)
      (more : current.maxSeats < seats) :
      Revises settings now headcount store current .raiseSeats
        { current with maxSeats := seats, pendingMaxSeats := none, updatedAt := now }
  /-- A seat decrease of an active subscription to at least one seat waits. -/
  | lowerSeats (seats : Int) (active : current.status = .active) (positive : 1 ≤ seats)
      (fewer : seats < current.maxSeats) :
      Revises settings now headcount store current .lowerSeats
        { current with pendingMaxSeats := some seats, updatedAt := now }
  /-- Asking an active subscription for the seat cap in force withdraws a waiting decrease. -/
  | keepSeats (active : current.status = .active) (waiting : current.pendingMaxSeats.isSome = true) :
      Revises settings now headcount store current .keepSeats
        { current with pendingMaxSeats := none, updatedAt := now }
  /-- A subscription neither cancelled nor expired is cancelled, with its period kept and
  nothing waiting. -/
  | cancel (cancellable : current.status = .trial ∨ current.status = .active ∨ current.status = .pastDue) :
      Revises settings now headcount store current .cancel
        { current.clearPending with status := .cancelled, updatedAt := now }
  /-- A waiting change is withdrawn. -/
  | withdraw (waiting : current.hasPendingChange = true) :
      Revises settings now headcount store current .withdraw { current.clearPending with updatedAt := now }
  /-- A due change of a subscription that is neither active nor expired is committed, when the
  live headcount fits the new seat cap; the period stays. -/
  | commit (targetPlan : Plan) (waiting : current.hasPendingChange = true) (inactive : current.status ≠ .active)
      (live : current.status ≠ .expired) (due : current.periodEnd ≤ now)
      (found : store.plan? (current.pendingPlan.getD current.plan) = some targetPlan)
      (fits : activeEmployees headcount current.company ≤ current.committedSeats targetPlan) :
      Revises settings now headcount store current .commit
        { current.clearPending with
          plan := targetPlan.id, maxSeats := current.committedSeats targetPlan, updatedAt := now }
  /-- A due change of an active subscription is committed, when the live headcount fits the new
  seat cap, and the subscription rolls into the next period. -/
  | commitRolling (targetPlan : Plan) (periodEnd : Moment) (waiting : current.hasPendingChange = true)
      (active : current.status = .active) (due : current.periodEnd ≤ now)
      (found : store.plan? (current.pendingPlan.getD current.plan) = some targetPlan)
      (fits : activeEmployees headcount current.company ≤ current.committedSeats targetPlan)
      (rolled : current.periodEnd.shift? settings.period = some periodEnd) :
      Revises settings now headcount store current .commit
        { current.clearPending with
          plan := targetPlan.id, maxSeats := current.committedSeats targetPlan, periodStart := current.periodEnd,
          periodEnd := periodEnd, updatedAt := now }

/-! ## Invoice requests -/

/-- An invoice request an operation of the ledger makes, from what it read of `store`. -/
inductive Requested (store : Store) : InvoiceRequest → Prop
  /-- A checkout of a plan on offer for at least one seat; an active subscription the checkout
  read renews its own plan, with nothing waiting. -/
  | checkout (company : Uuid) (plan : Plan) (seats amount : Int) (description : String)
      (current : Option Subscription) (found : store.plan? plan.id = some plan) (offered : plan.active = true)
      (positive : 1 ≤ seats) (read : current = store.subscriptionOf? company ∨ current = none)
      (renewal : ∀ subscription, current = some subscription → subscription.status = .active →
        subscription.plan = plan.id ∧ subscription.hasPendingChange = false) :
      Requested store ⟨company, current.map (·.id), .checkout, plan.id, seats, amount, description⟩
  /-- An upgrade of an active or trial subscription to a plan on offer of a higher tier, for the
  seats it has or the plan includes, whichever is more. -/
  | upgrade (company : Uuid) (subscription : Subscription) (target currentPlan : Plan) (amount : Int)
      (description : String) (read : store.subscriptionOf? company = some subscription)
      (upgradable : subscription.status = .active ∨ subscription.status = .trial)
      (found : store.plan? target.id = some target) (offered : target.active = true)
      (currentFound : store.plan? subscription.plan = some currentPlan)
      (higher : target.isHigherTierThan currentPlan = true) :
      Requested store ⟨company, some subscription.id, .upgrade, target.id,
        max subscription.maxSeats target.maxSeatsIncluded, amount, description⟩
  /-- A seat increase of an active subscription, on its own plan. -/
  | seatIncrease (company : Uuid) (subscription : Subscription) (seats amount : Int) (description : String)
      (read : store.subscriptionOf? company = some subscription) (active : subscription.status = .active)
      (positive : 1 ≤ seats) (more : subscription.maxSeats < seats) :
      Requested store ⟨company, some subscription.id, .seatChange, subscription.plan, seats, amount, description⟩

/-! ## Store calls -/

/-- The three bulk moves of the expiry pass at the clock reading `now`: the subscriptions in one
of `statuses` whose period ended before `cutoff` move to `target`. -/
inductive ExpiryMove (settings : Config) (now : Moment) :
    List SubscriptionStatus → Moment → SubscriptionStatus → Prop
  /-- Cancelled subscriptions whose period has ended expire. -/
  | cancelled : ExpiryMove settings now [.cancelled] now .expired
  /-- Unpaid subscriptions whose period ended more than the grace period ago expire. -/
  | unpaid (cutoff : Moment) (grace : now.unshift? settings.gracePeriod = some cutoff) :
      ExpiryMove settings now [.trial, .active, .pastDue] cutoff .expired
  /-- Trial and active subscriptions whose period has ended fall past due. -/
  | pastDue : ExpiryMove settings now [.trial, .active] now .pastDue

/-- The kinds of store calls the core makes. -/
inductive WriteKind where
  | trial
  | revise (revision : Revision)
  /-- A new pending invoice for an action of the ledger. -/
  | bill
  /-- A new pending invoice asked for directly, with no check of the ledger. -/
  | billDirect
  | setAside
  | link
  | close
  | settle
  | expire
  | record
  deriving DecidableEq, Repr

/-- A store call of kind `kind` the core makes, having read `store`, at the clock reading
`now`, configured by `settings`, with `headcount` active employees. -/
inductive CoreWrite (settings : Config) (now : Moment) (headcount : List (Uuid × Int)) (store : Store) :
    WriteKind → Store.Write → Prop
  /-- A trial starts on a plan on offer, with the seats it includes, for the trial length. -/
  | trial (company : Uuid) (plan : Plan) (id : Uuid) (trialEnd : Moment) (found : store.plan? plan.id = some plan)
      (offered : plan.active = true) (ends : now.shift? settings.trial = some trialEnd) :
      CoreWrite settings now headcount store .trial (.insertSubscription
        { id := id, company := company, plan := plan.id, status := .trial, maxSeats := plan.maxSeatsIncluded,
          pendingMaxSeats := none, pendingPlan := none, periodStart := now, periodEnd := trialEnd,
          createdAt := now, updatedAt := now, version := 0 })
  /-- A subscription read is written back revised, at the version read. -/
  | revise (current next : Subscription) (revision : Revision) (read : current ∈ store.subscriptions)
      (revises : Revises settings now headcount store current revision next) :
      CoreWrite settings now headcount store (.revise revision) (.updateSubscription next current.version)
  | bill (request : InvoiceRequest) (id : Uuid) (expiresAt : Moment) (requested : Requested store request)
      (ttl : now.shift? settings.invoiceTtl = some expiresAt) :
      CoreWrite settings now headcount store .bill (.insertInvoice (Invoicing.pendingInvoice request id now expiresAt))
  | billDirect (request : InvoiceRequest) (id : Uuid) (expiresAt : Moment)
      (ttl : now.shift? settings.invoiceTtl = some expiresAt) :
      CoreWrite settings now headcount store .billDirect
        (.insertInvoice (Invoicing.pendingInvoice request id now expiresAt))
  /-- A new invoice whose provider failed is cancelled. -/
  | setAside (id : Uuid) : CoreWrite settings now headcount store .setAside (.transitionInvoice id .cancelled none)
  | link (id : Uuid) (providerId url : String) (expiresAt : Option Moment) :
      CoreWrite settings now headcount store .link (.attachProviderInvoice id providerId url expiresAt)
  /-- An invoice is closed as expired or cancelled, never as paid. -/
  | close (id : Uuid) (target : InvoiceStatus) (closing : target = .expired ∨ target = .cancelled) :
      CoreWrite settings now headcount store .close (.transitionInvoice id target none)
  /-- An invoice read is settled, with the write `paidEffect` computes from the company's
  subscription as read (or from none, when the read found none); the store settles it only
  while it is pending. -/
  | settle (id : Uuid) (invoice : Invoice) (current : Option Subscription) (newId : Uuid) (payment : Payment)
      (write : SubscriptionWrite) (found : store.invoice? id = some invoice)
      (read : current = store.subscriptionOf? invoice.company ∨ current = none)
      (effect : paidEffect newId invoice current payment.paidAt now settings.period = some write) :
      CoreWrite settings now headcount store .settle (.settleInvoice id payment write)
  /-- One of the three bulk moves of the expiry pass. -/
  | expire (statuses : List SubscriptionStatus) (cutoff : Moment) (target : SubscriptionStatus)
      (move : ExpiryMove settings now statuses cutoff target) :
      CoreWrite settings now headcount store .expire (.updateExpiredToStatus statuses cutoff target now)
  | record (event : Event) : CoreWrite settings now headcount store .record (.appendEvent event)

/-! ## Runs of calls -/

namespace Store

/-- A run of store calls from `store`, each allowed by `makes` on the store it is made on, and
each new record stored under an identifier the store does not hold. -/
def Made (makes : Store → Write → Prop) : Store → List Write → Prop
  | _, [] => True
  | store, write :: writes => makes store write ∧ write.Fresh store ∧ Made makes (write.apply store) writes

theorem made_append {makes : Store → Write → Prop} {store : Store} {first second : List Write} :
    Made makes store (first ++ second) ↔ Made makes store first ∧ Made makes (store.replay first) second := by
  induction first generalizing store with
  | nil => simp [Made]
  | cons write first inductionHypothesis =>
    simp only [List.cons_append, Made, replay_cons, inductionHypothesis, and_assoc]

/-- A property every allowed call keeps holds at the end of a run. -/
theorem Made.induction {makes : Store → Write → Prop} (holds : Store → Prop)
    (keeps : ∀ store write, makes store write → write.Fresh store → holds store → holds (write.apply store)) :
    ∀ {store : Store} {writes : List Write}, Made makes store writes → holds store → holds (store.replay writes) := by
  intro store writes
  induction writes generalizing store with
  | nil => exact fun _ start => start
  | cons write writes inductionHypothesis =>
    exact fun ⟨allowed, fresh, rest⟩ start => inductionHypothesis rest (keeps store write allowed fresh start)

/-- A relation every allowed call moves along, and that chains, relates the start of a run to
its end. -/
theorem Made.chain {makes : Store → Write → Prop} (related : Store → Store → Prop)
    (refl : ∀ store, related store store) (trans : ∀ first second third, related first second →
      related second third → related first third)
    (step : ∀ store write, makes store write → write.Fresh store → related store (write.apply store)) :
    ∀ {store : Store} {writes : List Write}, Made makes store writes → related store (store.replay writes) := by
  intro store writes
  induction writes generalizing store with
  | nil => exact fun _ => refl store
  | cons write writes inductionHypothesis =>
    exact fun ⟨allowed, fresh, rest⟩ => trans _ _ _ (step store write allowed fresh) (inductionHypothesis rest)

/-- A relation that chains relates the start of a run to its end, when it relates the store each
call is made on to the store it leaves, knowing where the call stands: the run before it and
the run after it. -/
theorem Made.chain_at {makes : Store → Write → Prop} (related : Store → Store → Prop)
    (refl : ∀ store, related store store) (trans : ∀ first second third, related first second →
      related second third → related first third) :
    ∀ {start : Store} {writes : List Write}, Made makes start writes →
      (∀ done write rest, writes = done ++ write :: rest → Made makes start done → makes (start.replay done) write →
        write.Fresh (start.replay done) → Made makes (write.apply (start.replay done)) rest →
        related (start.replay done) (write.apply (start.replay done))) →
      related start (start.replay writes) := by
  intro start writes
  induction writes generalizing start with
  | nil => exact fun _ _ => refl start
  | cons write writes inductionHypothesis =>
    intro made step
    obtain ⟨allowed, fresh, rest⟩ := made
    refine trans _ _ _ (step [] write writes rfl trivial allowed fresh rest) (inductionHypothesis rest ?_)
    -- a call of the rest of the run has the first call before it
    intro done next later split before nextAllowed nextFresh after
    exact step (write :: done) next later (by rw [split]; rfl) ⟨allowed, fresh, before⟩ nextAllowed nextFresh after

/-- A run creates each new record under a fresh identifier. -/
theorem Made.freshRun {makes : Store → Write → Prop} :
    ∀ {store : Store} {writes : List Write}, Made makes store writes → FreshRun store writes := by
  intro store writes
  induction writes generalizing store with
  | nil => exact fun _ => trivial
  | cons write writes inductionHypothesis =>
    intro made
    obtain ⟨-, fresh, rest⟩ := made
    exact ⟨fresh, inductionHypothesis rest⟩

theorem Made.mono {makes wider : Store → Write → Prop} (widens : ∀ store write, makes store write → wider store write) :
    ∀ {store : Store} {writes : List Write}, Made makes store writes → Made wider store writes := by
  intro store writes
  induction writes generalizing store with
  | nil => exact fun _ => trivial
  | cons write writes inductionHypothesis =>
    exact fun ⟨allowed, fresh, rest⟩ => ⟨widens store write allowed, fresh, inductionHypothesis rest⟩

end Store

/-- The facts `after` are reached from `start` by store calls that `makes` allows: the
configuration stays, the identifier count does not go back, and the store is the start's with
the calls applied. -/
structure Facts.Reaches (makes : Store → Store.Write → Prop) (start after : Facts) : Prop where
  config : after.config = start.config
  serial : start.serial ≤ after.serial
  made : ∃ writes, Store.Made makes start.store writes ∧ after.store = start.store.replay writes

/-- The facts `after` are `facts`, or `facts` with `write` applied to the store. -/
def Facts.Wrote (write : Store.Write) (facts after : Facts) : Prop :=
  after = facts ∨ after = { facts with store := write.apply facts.store }

namespace Facts.Reaches

variable {makes : Store → Store.Write → Prop} {start facts : Facts}

theorem refl (start : Facts) : start.Reaches makes start :=
  ⟨rfl, Nat.le_refl _, [], trivial, rfl⟩

/-- Drawing an identifier keeps the facts reached. -/
theorem draw (reached : start.Reaches makes facts) : start.Reaches makes { facts with serial := facts.serial + 1 } :=
  ⟨reached.config, Nat.le_succ_of_le reached.serial, reached.made⟩

/-- A call that `makes` allows, storing new records under fresh identifiers, keeps the facts
reached, whether it writes or not. -/
theorem wrote {write : Store.Write} {after : Facts} (reached : start.Reaches makes facts)
    (allowed : makes facts.store write) (fresh : write.Fresh facts.store) (wrote : facts.Wrote write after) :
    start.Reaches makes after := by
  rcases wrote with same | written
  · rw [same]
    exact reached
  · obtain ⟨writes, made, reachedStore⟩ := reached.made
    refine ⟨by rw [written]; exact reached.config, by rw [written]; exact reached.serial,
      writes ++ [write], ?_, ?_⟩
    · rw [Store.made_append, ← reachedStore]
      exact ⟨made, allowed, fresh, trivial⟩
    · rw [written, Store.replay_append, ← reachedStore]
      rfl

theorem mono {wider : Store → Store.Write → Prop} (reached : start.Reaches makes facts)
    (widens : ∀ store write, makes store write → wider store write) : start.Reaches wider facts := by
  obtain ⟨writes, made, reachedStore⟩ := reached.made
  exact ⟨reached.config, reached.serial, writes, made.mono widens, reachedStore⟩

end Facts.Reaches

/-! ## What the store calls of `Calls` write -/

namespace Runs

variable {α : Type} {now : Moment} {headcount : List (Uuid × Int)}

/-- A guarded store step that agrees with a store call ends on the facts it started from or
with the call applied, whatever its outcome and whatever fault it meets. -/
theorem stepCall_wrote {write : Store.Write} {step : Store → Except Failure (α × Store)}
    (agrees : ∀ store, write.apply store = store.afterStep (step store)) (facts : Facts) (call : Call)
    (onStale onSkip onMissing : Option α) (onDatabase : SqlStore.StoreM α) :
    Runs now headcount (· = facts)
      (SeatBilling.guarded call onStale onSkip onMissing (Calls.backed (Calls.stepStore step) onDatabase))
      (fun _ after => facts.Wrote write after) (facts.Wrote write) := by
  have stepped : ∀ value after, step facts.store = .ok (value, after.store) → after = { facts with store := after.store } →
      facts.Wrote write after := by
    intro value after ok shape
    refine .inr ?_
    rw [shape, agrees, ok]
    rfl
  refine guarded ((backed (stepStore facts step)).mono (fun _ same => same)
    (fun value after ⟨ok, shape⟩ => stepped value after ok shape) fun after ended => ?_)
    (fun _ same => .inl same) fun _ _ _ same => .inl same
  rcases ended with same | ⟨value, ok, shape⟩
  · exact .inl same
  · exact stepped value after ok shape

theorem haltingCall_wrote {write : Store.Write} {step : Store → Except Halt (α × Store)}
    (agrees : ∀ store, write.apply store = store.afterStep (step store)) (facts : Facts) (call : Call)
    (onStale onSkip onMissing : Option α) (onDatabase : SqlStore.StoreM α) :
    Runs now headcount (· = facts)
      (SeatBilling.guarded call onStale onSkip onMissing (Calls.backed (Calls.haltingStep step) onDatabase))
      (fun _ after => facts.Wrote write after) (facts.Wrote write) := by
  have stepped : ∀ value after, step facts.store = .ok (value, after.store) → after = { facts with store := after.store } →
      facts.Wrote write after := by
    intro value after ok shape
    refine .inr ?_
    rw [shape, agrees, ok]
    rfl
  refine guarded ((backed (haltingStep facts step)).mono (fun _ same => same)
    (fun value after ⟨ok, shape⟩ => stepped value after ok shape) fun after ended => ?_)
    (fun _ same => .inl same) fun _ _ _ same => .inl same
  rcases ended with same | ⟨value, ok, shape⟩
  · exact .inl same
  · exact stepped value after ok shape

variable (facts : Facts)

theorem insertSubscription (subscription : Subscription) :
    Runs now headcount (· = facts) (Calls.insertSubscription subscription)
      (fun _ after => facts.Wrote (.insertSubscription subscription) after)
      (facts.Wrote (.insertSubscription subscription)) :=
  stepCall_wrote (fun _ => rfl) facts _ _ _ _ _

theorem updateSubscription (subscription : Subscription) (version : Int) :
    Runs now headcount (· = facts) (Calls.updateSubscription subscription version)
      (fun _ after => facts.Wrote (.updateSubscription subscription version) after)
      (facts.Wrote (.updateSubscription subscription version)) :=
  haltingCall_wrote (fun _ => rfl) facts _ _ _ _ _

theorem updateExpiredToStatus (statuses : List SubscriptionStatus) (cutoff : Moment) (target : SubscriptionStatus)
    (at_ : Moment) :
    Runs now headcount (· = facts) (Calls.updateExpiredToStatus statuses cutoff target at_)
      (fun _ after => facts.Wrote (.updateExpiredToStatus statuses cutoff target at_) after)
      (facts.Wrote (.updateExpiredToStatus statuses cutoff target at_)) :=
  haltingCall_wrote (fun _ => rfl) facts _ _ _ _ _

theorem insertInvoice (invoice : Invoice) :
    Runs now headcount (· = facts) (Calls.insertInvoice invoice)
      (fun _ after => facts.Wrote (.insertInvoice invoice) after) (facts.Wrote (.insertInvoice invoice)) :=
  stepCall_wrote (fun _ => rfl) facts _ _ _ _ _

theorem attachProviderInvoice (id : Uuid) (providerId url : String) (expiresAt : Option Moment) :
    Runs now headcount (· = facts) (Calls.attachProviderInvoice id providerId url expiresAt)
      (fun _ after => facts.Wrote (.attachProviderInvoice id providerId url expiresAt) after)
      (facts.Wrote (.attachProviderInvoice id providerId url expiresAt)) :=
  stepCall_wrote (fun _ => rfl) facts _ _ _ _ _

theorem transitionInvoice (id : Uuid) (target : InvoiceStatus) (payment : Option Payment) :
    Runs now headcount (· = facts) (Calls.transitionInvoice id target payment)
      (fun _ after => facts.Wrote (.transitionInvoice id target payment) after)
      (facts.Wrote (.transitionInvoice id target payment)) :=
  stepCall_wrote (fun _ => rfl) facts _ _ _ _ _

theorem settleInvoice (id : Uuid) (payment : Payment) (write : SubscriptionWrite) :
    Runs now headcount (· = facts) (Calls.settleInvoice id payment write)
      (fun _ after => facts.Wrote (.settleInvoice id payment write) after)
      (facts.Wrote (.settleInvoice id payment write)) :=
  haltingCall_wrote (fun _ => rfl) facts _ _ _ _ _

theorem appendEvent (event : Event) :
    Runs now headcount (· = facts) (Calls.appendEvent event)
      (fun _ after => facts.Wrote (.appendEvent event) after) (facts.Wrote (.appendEvent event)) :=
  stepCall_wrote (fun _ => rfl) facts _ _ _ _ _

end Runs

end SeatBilling
