import SeatBilling.Proofs.Ledger.PaidTime
import SeatBilling.Proofs.Ledger.SettlingRuns
import Mathlib.Logic.Relation

/-!
# The status machine of a subscription

A subscription's status moves along few edges, each taken by one kind of trigger only and under
a guard of time (`StatusMove`): settling a checkout or an upgrade of its company makes it
active, from any status; cancelling takes trial, active or past due to cancelled; the expiry
pass takes trial or active to past due once the period has ended, trial, active or past due to
expired once the period ended more than the grace period ago, and cancelled to expired once the
period has ended. A subscription comes into existence only as a trial, when a trial starts, or
active, when the first paid invoice of its company opens it. Every other move keeps the status
and the company: settling extra seats does too.

The moves that settle are bound to the run of the trigger: the invoice they name is one the
run settles, pending under its identifier where the run starts and paid there where it ends
(`Store.SettledBetween`). A settlement call is read once for this (`CoreWrite.settle_cases`),
so the invoice a move names is the one the call paid.

So an expired subscription leaves expired only when the trigger settles a checkout or an
upgrade of its company, a trigger that neither cancels, nor runs the expiry pass, nor settles
such an invoice keeps every status, and a subscription a trigger creates is a trial or an active
one, after whatever else the trigger does.
-/

namespace SeatBilling

open SeatBilling.Time

/-- What a trigger may do to the status of a subscription. -/
inductive StatusRole where
  | startsTrial
  | settles
  | cancels
  | expires
  | keeps
  deriving DecidableEq, Repr

/-- The one thing a trigger may do to statuses: starting a trial, settling paid invoices (the
settlement operation and payment callbacks), cancelling, running the expiry pass (the pass
itself and the sweep), or nothing. -/
def Trigger.statusRole : Trigger → StatusRole
  | operation (.startTrial ..) => .startsTrial
  | operation (.settle ..) | callback .. => .settles
  | operation (.cancel ..) => .cancels
  | operation Operation.expireLapsed | sweep => .expires
  | _ => .keeps

/-- The store calls that move statuses are made by the triggers of one role each. -/
theorem Trigger.statusRole_of_uses (trigger : Trigger) :
    (.trial ∈ trigger.uses → trigger.statusRole = .startsTrial) ∧
      (.settle ∈ trigger.uses → trigger.statusRole = .settles) ∧
      (.revise .cancel ∈ trigger.uses → trigger.statusRole = .cancels) ∧
      (.expire ∈ trigger.uses → trigger.statusRole = .expires) := by
  rcases trigger with action | _ | _
  · cases action <;> simp [uses, statusRole]
  · simp [uses, statusRole]
  · simp [uses, statusRole]

/-- Between `start` and `finish`, a checkout or an upgrade of `company` is settled. -/
def Store.PurchaseSettled (start finish : Store) (company : Uuid) : Prop :=
  ∃ id invoice, start.SettledBetween finish id invoice ∧ invoice.company = company ∧
    (invoice.purpose = .checkout ∨ invoice.purpose = .upgrade)

/-- A move of the status of the subscription under one identifier that `trigger` makes, at the
clock reading `now`, in a run from the store `start` to the store `finish`. -/
inductive StatusMove (settings : Config) (now : Moment) (trigger : Trigger) (start finish : Store) :
    Option Subscription → Option Subscription → Prop
  /-- The status and the company stay, whatever else changes. -/
  | stay (old new : Subscription) (same : new.status = old.status) (company : new.company = old.company) :
      StatusMove settings now trigger start finish (some old) (some new)
  /-- A trial starts. -/
  | startTrial (new : Subscription) (trial : new.status = .trial) (role : trigger.statusRole = .startsTrial) :
      StatusMove settings now trigger start finish none (some new)
  /-- A paid invoice that the run settles opens the first subscription of its company, active. -/
  | opened (new : Subscription) (id : Uuid) (invoice : Invoice) (settled : start.SettledBetween finish id invoice)
      (company : new.company = invoice.company) (active : new.status = .active) (role : trigger.statusRole = .settles) :
      StatusMove settings now trigger start finish none (some new)
  /-- A checkout or an upgrade of the company that the run settles makes its subscription
  active, whatever its status. -/
  | activate (old new : Subscription) (id : Uuid) (invoice : Invoice) (settled : start.SettledBetween finish id invoice)
      (billed : invoice.company = old.company) (purpose : invoice.purpose = .checkout ∨ invoice.purpose = .upgrade)
      (active : new.status = .active) (company : new.company = old.company) (role : trigger.statusRole = .settles) :
      StatusMove settings now trigger start finish (some old) (some new)
  /-- A subscription in trial, active or past due is cancelled. -/
  | cancel (old new : Subscription) (was : old.status = .trial ∨ old.status = .active ∨ old.status = .pastDue)
      (cancelled : new.status = .cancelled) (role : trigger.statusRole = .cancels) :
      StatusMove settings now trigger start finish (some old) (some new)
  /-- A subscription in trial or active whose period has ended falls past due. -/
  | fallPastDue (old new : Subscription) (was : old.status = .trial ∨ old.status = .active)
      (ended : old.periodEnd < now) (pastDue : new.status = .pastDue) (role : trigger.statusRole = .expires) :
      StatusMove settings now trigger start finish (some old) (some new)
  /-- A subscription in trial, active or past due whose period ended more than the grace period
  ago expires. -/
  | expireUnpaid (old new : Subscription) (was : old.status = .trial ∨ old.status = .active ∨ old.status = .pastDue)
      (cutoff : Moment) (grace : now.unshift? settings.gracePeriod = some cutoff) (ended : old.periodEnd < cutoff)
      (expired : new.status = .expired) (role : trigger.statusRole = .expires) :
      StatusMove settings now trigger start finish (some old) (some new)
  /-- A cancelled subscription whose period has ended expires. -/
  | expireCancelled (old new : Subscription) (was : old.status = .cancelled) (ended : old.periodEnd < now)
      (expired : new.status = .expired) (role : trigger.statusRole = .expires) :
      StatusMove settings now trigger start finish (some old) (some new)

/-! ## Each call moves along the machine -/

section Steps

variable {settings : Config} {now : Moment} {headcount : List (Uuid × Int)} {store start finish : Store}
  {trigger : Trigger}

/-- An expiry move, made by a trigger that runs the expiry pass, moves a subscription it selects
along an edge of the machine. -/
theorem ExpiryMove.statusMove {statuses : List SubscriptionStatus} {cutoff : Moment} {target : SubscriptionStatus}
    (move : ExpiryMove settings now statuses cutoff target) (role : trigger.statusRole = .expires)
    (stored : Subscription) :
    Relation.ReflTransGen (StatusMove settings now trigger start finish) (some stored)
      (some (Store.expired statuses cutoff target now stored)) := by
  unfold Store.expired
  split
  · rename_i expires
    simp only [Store.expires, Bool.and_eq_true, decide_eq_true_eq] at expires
    obtain ⟨selected, ended⟩ := expires
    -- the status selected and the cutoff are the move's own
    cases move with
    | cancelled =>
      have was : stored.status = .cancelled := by simpa using selected
      exact .single (.expireCancelled _ _ was ended rfl role)
    | unpaid cutoff grace =>
      have was : stored.status = .trial ∨ stored.status = .active ∨ stored.status = .pastDue := by
        simpa using selected
      exact .single (.expireUnpaid _ _ was cutoff grace ended rfl role)
    | pastDue =>
      have was : stored.status = .trial ∨ stored.status = .active := by simpa using selected
      exact .single (.fallPastDue _ _ was ended rfl role)
  · exact .refl

/-- Every record step of a kind a trigger uses, other than a settlement, moves along the
machine, in one move or none. -/
theorem RecordStep.statusMove {kind : WriteKind} {before after : Option Subscription} (used : kind ∈ trigger.uses)
    (unsettled : kind ≠ .settle) (step : RecordStep settings now headcount store kind before after) :
    Relation.ReflTransGen (StatusMove settings now trigger start finish) before after := by
  obtain ⟨starts, -, cancels, expires⟩ := trigger.statusRole_of_uses
  cases step with
  | keep => exact .refl
  | start => exact .single (.startTrial _ rfl (starts used))
  | revise current next revision revises =>
    rcases revises.status_cases with same | ⟨rfl, cancelled, was⟩
    · exact .single (.stay _ _ same revises.company_eq)
    · exact .single (.cancel _ _ was cancelled (cancels used))
  | opened => exact absurd rfl unsettled
  | settled => exact absurd rfl unsettled
  | expire statuses cutoff target move stored => exact move.statusMove (expires used) stored

/-- A settlement step of an invoice that the run settles, billing the same, moves along the
machine: a checkout or an upgrade makes the company's subscription active, extra seats keep its
status. -/
theorem SettleStep.statusMove {invoice : Invoice} {before after : Option Subscription}
    (role : trigger.statusRole = .settles)
    (settled : ∃ id earlier, start.SettledBetween finish id earlier ∧ earlier.terms = invoice.terms)
    (step : SettleStep settings now store invoice before after) :
    Relation.ReflTransGen (StatusMove settings now trigger start finish) before after := by
  obtain ⟨id, earlier, settledEarlier, sameTerms⟩ := settled
  have billed : earlier.company = invoice.company := Invoice.company_eq_of_terms sameTerms
  cases step with
  | keep => exact .refl
  | opened => exact .single (.opened _ id earlier settledEarlier billed.symm rfl role)
  | settled paidAt current revised read revision =>
    -- the subscription settled onto is the company's
    have company : current.company = invoice.company := by simpa using List.find?_some read
    rcases revision.status_cases with ⟨active, purpose⟩ | ⟨same, -⟩
    · rw [← Invoice.purpose_eq_of_terms sameTerms] at purpose
      exact .single (.activate _ _ id earlier settledEarlier (billed.trans company.symm) purpose active
        revision.company_eq role)
    · exact .single (.stay _ _ same revision.company_eq)

/-- Every call of a trigger, made on keyed records in a run from `start` to `finish`, moves the
subscription under each identifier along the machine, when the invoices pending where the call
is made were pending since `start` (as in every trigger that settles) and the invoices after the
call are kept until `finish`. -/
theorem CoreWrite.statusMoves {kind : WriteKind} {write : Store.Write} (used : kind ∈ trigger.uses)
    (keyed : store.Keyed) (made : CoreWrite settings now headcount store kind write) (fresh : write.Fresh store)
    (since : .settle ∈ trigger.uses → start.PendingSince store) (kept : (write.apply store).KeptUntil finish)
    (id : Uuid) :
    Relation.ReflTransGen (StatusMove settings now trigger start finish) (store.subscription? id)
      ((write.apply store).subscription? id) := by
  by_cases settling : kind = .settle
  · subst settling
    rcases made.settle_cases keyed fresh with
      unchanged | ⟨invoiceId, invoice, found, pending, ⟨paid, settled, paidStatus, paidTerms⟩, steps⟩
    · -- a refused settlement moves nothing
      rw [unchanged]
    · -- the invoice the call pays is one the run settles
      have settledBetween := Store.settledBetween_of_call (since used) found pending settled paidStatus paidTerms kept
      exact (steps id).statusMove (trigger.statusRole_of_uses.2.1 used) ⟨invoiceId, settledBetween⟩
  · exact (made.recordStep keyed fresh id).statusMove used settling

end Steps

/-! ## Along a run -/

section Runs

variable {settings : Config} {now : Moment} {start finish : Store} {trigger : Trigger}

/-- A move out of an expired subscription keeps it expired and of the same company, unless the
run settles a checkout or an upgrade of the company. -/
theorem StatusMove.stays_expired {old : Subscription} {after : Option Subscription}
    (move : StatusMove settings now trigger start finish (some old) after) (wasExpired : old.status = .expired)
    (unpurchased : ¬ start.PurchaseSettled finish old.company) :
    ∃ new, after = some new ∧ new.status = .expired ∧ new.company = old.company := by
  cases move with
  | stay _ new same company => exact ⟨new, rfl, same.trans wasExpired, company⟩
  | activate _ _ id invoice settled billed purpose => exact absurd ⟨id, invoice, settled, billed, purpose⟩ unpurchased
  | cancel _ _ was => rw [wasExpired] at was; simp at was
  | fallPastDue _ _ was => rw [wasExpired] at was; simp at was
  | expireUnpaid _ _ was => rw [wasExpired] at was; simp at was
  | expireCancelled _ _ was => rw [wasExpired] at was; simp at was

/-- A move out of a subscription keeps its status and its company, unless the trigger cancels,
runs the expiry pass, or settles a checkout or an upgrade of the company. -/
theorem StatusMove.keeps_status {old : Subscription} {after : Option Subscription}
    (move : StatusMove settings now trigger start finish (some old) after)
    (uncancelled : trigger.statusRole ≠ .cancels) (unexpired : trigger.statusRole ≠ .expires)
    (unpurchased : ¬ start.PurchaseSettled finish old.company) :
    ∃ new, after = some new ∧ new.status = old.status ∧ new.company = old.company := by
  cases move with
  | stay _ new same company => exact ⟨new, rfl, same, company⟩
  | activate _ _ id invoice settled billed purpose => exact absurd ⟨id, invoice, settled, billed, purpose⟩ unpurchased
  | cancel _ _ _ _ role => exact absurd role uncancelled
  | fallPastDue _ _ _ _ _ role => exact absurd role unexpired
  | expireUnpaid _ _ _ _ _ _ _ role => exact absurd role unexpired
  | expireCancelled _ _ _ _ _ role => exact absurd role unexpired

/-- What every move out of a subscription keeps, every run of moves out of it keeps. -/
theorem StatusMove.along (keeps : Subscription → Prop)
    (step : ∀ old after, keeps old → StatusMove settings now trigger start finish (some old) after →
      ∃ new, after = some new ∧ keeps new)
    {first last : Option Subscription} (moves : Relation.ReflTransGen (StatusMove settings now trigger start finish) first last)
    {old : Subscription} (found : first = some old) (holds : keeps old) : ∃ new, last = some new ∧ keeps new := by
  induction moves with
  | refl => exact ⟨old, found, holds⟩
  | tail _ move keptBefore =>
    obtain ⟨middle, rfl, middleKeeps⟩ := keptBefore
    exact step middle _ middleKeeps move

/-- Along moves of the machine, an expired subscription stays expired, unless the run settles a
checkout or an upgrade of its company. -/
theorem StatusMove.stays_expired_along {first last : Option Subscription}
    (moves : Relation.ReflTransGen (StatusMove settings now trigger start finish) first last) {old : Subscription}
    (found : first = some old) (wasExpired : old.status = .expired)
    (unpurchased : ¬ start.PurchaseSettled finish old.company) :
    ∃ new, last = some new ∧ new.status = .expired ∧ new.company = old.company := by
  refine StatusMove.along (fun kept => kept.status = .expired ∧ kept.company = old.company) ?_ moves found
    ⟨wasExpired, rfl⟩
  intro middle _ held move
  have middleUnpurchased : ¬ start.PurchaseSettled finish middle.company := by
    rw [held.2]
    exact unpurchased
  obtain ⟨new, foundNew, expired, company⟩ := move.stays_expired held.1 middleUnpurchased
  exact ⟨new, foundNew, expired, company.trans held.2⟩

/-- Along moves of the machine, a subscription keeps its status, unless the trigger cancels,
runs the expiry pass, or the run settles a checkout or an upgrade of its company. -/
theorem StatusMove.keeps_status_along {first last : Option Subscription}
    (moves : Relation.ReflTransGen (StatusMove settings now trigger start finish) first last) {old : Subscription}
    (found : first = some old) (uncancelled : trigger.statusRole ≠ .cancels) (unexpired : trigger.statusRole ≠ .expires)
    (unpurchased : ¬ start.PurchaseSettled finish old.company) :
    ∃ new, last = some new ∧ new.status = old.status ∧ new.company = old.company := by
  refine StatusMove.along (fun kept => kept.status = old.status ∧ kept.company = old.company) ?_ moves found
    ⟨rfl, rfl⟩
  intro middle _ held move
  have middleUnpurchased : ¬ start.PurchaseSettled finish middle.company := by
    rw [held.2]
    exact unpurchased
  obtain ⟨new, foundNew, same, company⟩ := move.keeps_status uncancelled unexpired middleUnpurchased
  exact ⟨new, foundNew, same.trans held.1, company.trans held.2⟩

/-- What a trigger creates is a trial, when it starts trials, or active and of the company of an
invoice the run settles, when it settles paid invoices; `none` when there is nothing yet. -/
def Created (trigger : Trigger) (start finish : Store) : Option Subscription → Prop
  | none => True
  | some new => trigger.statusRole = .startsTrial ∧ new.status = .trial ∨
      trigger.statusRole = .settles ∧ new.status = .active ∧
        ∃ id invoice, start.SettledBetween finish id invoice ∧ invoice.company = new.company

/-- A move keeps what was created as it was created: the triggers that create subscriptions move
no status but to active, and only when they settle. -/
theorem StatusMove.created {before after : Option Subscription}
    (move : StatusMove settings now trigger start finish before after) (created : Created trigger start finish before) :
    Created trigger start finish after := by
  cases move with
  | stay old new same company =>
    simp only [Created] at created ⊢
    rw [same, company]
    exact created
  | startTrial _ trial role => exact .inl ⟨role, trial⟩
  | opened _ id invoice settled company active role => exact .inr ⟨role, active, id, invoice, settled, company.symm⟩
  | activate _ _ id invoice settled billed _ active company role =>
    exact .inr ⟨role, active, id, invoice, settled, billed.trans company.symm⟩
  | cancel _ _ _ _ role =>
    simp only [Created, role] at created
    simp at created
  | fallPastDue _ _ _ _ _ role =>
    simp only [Created, role] at created
    simp at created
  | expireUnpaid _ _ _ _ _ _ _ role =>
    simp only [Created, role] at created
    simp at created
  | expireCancelled _ _ _ _ _ role =>
    simp only [Created, role] at created
    simp at created

/-- Along moves of the machine, what was created stays as it was created. -/
theorem StatusMove.created_along {first last : Option Subscription}
    (moves : Relation.ReflTransGen (StatusMove settings now trigger start finish) first last)
    (created : Created trigger start finish first) : Created trigger start finish last := by
  induction moves with
  | refl => exact created
  | tail _ move createdBefore => exact move.created createdBefore

end Runs

/-! ## Every trigger moves along the machine -/

/-- Every trigger run on the records in memory moves the subscription under each identifier
along the machine, bound to the store the run starts on and the one it ends on. -/
theorem Trigger.statusMoves (trigger : Trigger) (world : World) (inMemory : world.backend = .memory)
    (fresh : world.facts.DrawsFresh) (keyed : world.facts.store.Keyed) (id : Uuid) :
    Relation.ReflTransGen
      (StatusMove world.config world.clock trigger world.facts.store (trigger.perform.run.run world).2.facts.store)
      (world.facts.store.subscription? id) ((trigger.perform.run.run world).2.facts.store.subscription? id) := by
  obtain ⟨writes, made, reachedStore⟩ := (trigger.reaches world inMemory fresh).made
  rw [reachedStore]
  refine made.chain_at
    (fun first second => ∀ id, Relation.ReflTransGen
      (StatusMove world.config world.clock trigger world.facts.store (world.facts.store.replay writes))
      (first.subscription? id) (second.subscription? id))
    (fun _ _ => .refl) (fun _ _ _ early late id => (early id).trans (late id)) ?_ id
  intro done write rest split before call freshCall after id
  obtain ⟨kind, used, allowed⟩ := call
  -- the calls before keep the records keyed and, in a trigger that settles, create no pending invoice
  have keyedThere : (world.facts.store.replay done).Keyed :=
    Store.Made.induction Store.Keyed (fun _ write _ _ keyed => keyed.apply write) before keyed
  have since : .settle ∈ trigger.uses → world.facts.store.PendingSince (world.facts.store.replay done) := by
    intro settling
    refine Store.Made.induction world.facts.store.PendingSince ?_ before (.refl _)
    intro _ _ earlier _ holding
    obtain ⟨earlierKind, earlierUsed, earlierAllowed⟩ := earlier
    exact earlierAllowed.pendingSince (trigger.uses_of_settle settling earlierKind earlierUsed) holding
  -- the calls after keep every invoice until the end
  have kept : (write.apply (world.facts.store.replay done)).KeptUntil (world.facts.store.replay writes) := by
    rw [split, Store.replay_append, Store.replay_cons]
    exact Store.keptUntil_replay after.freshRun
  exact allowed.statusMoves used keyedThere freshCall since kept id

/-- Every change a trigger makes to the status of a subscription, on the records in memory
while the clock reads `now`, whatever its outcome and whatever fault it meets, is a move of the
status machine made by a trigger of the role the move names: settling a checkout or an upgrade
of the company, pending when the trigger starts and paid when it ends, makes it active;
cancelling cancels it from trial, active or past due; the expiry pass makes it past due from
trial or active once its period has ended, expired from trial, active or past due once its
period ended more than the grace period ago, and expired from cancelled once its period has
ended. Hence an expired subscription stays expired unless the trigger settles a checkout or an
upgrade of its company; a trigger that neither cancels, nor runs the expiry pass, nor settles
such an invoice (settling extra seats included) keeps the status; and a subscription the
trigger creates is a trial, from a trigger that starts trials, or active and of the company of
an invoice it settles. The records are keyed and new identifiers fresh, as in every store the
core reaches. -/
theorem Trigger.status_follows_machine (trigger : Trigger) (world : World) (inMemory : world.backend = .memory)
    (fresh : world.facts.DrawsFresh) (keyed : world.facts.store.Keyed) (id : Uuid) :
    Relation.ReflTransGen
        (StatusMove world.config world.clock trigger world.facts.store (trigger.perform.run.run world).2.facts.store)
        (world.facts.store.subscription? id) ((trigger.perform.run.run world).2.facts.store.subscription? id) ∧
      (∀ old, world.facts.store.subscription? id = some old → old.status = .expired →
        ¬ world.facts.store.PurchaseSettled (trigger.perform.run.run world).2.facts.store old.company →
        ∃ new, (trigger.perform.run.run world).2.facts.store.subscription? id = some new ∧ new.status = .expired) ∧
      (∀ old, world.facts.store.subscription? id = some old → trigger.statusRole ≠ .cancels →
        trigger.statusRole ≠ .expires →
        ¬ world.facts.store.PurchaseSettled (trigger.perform.run.run world).2.facts.store old.company →
        ∃ new, (trigger.perform.run.run world).2.facts.store.subscription? id = some new ∧ new.status = old.status) ∧
      (world.facts.store.subscription? id = none →
        Created trigger world.facts.store (trigger.perform.run.run world).2.facts.store
          ((trigger.perform.run.run world).2.facts.store.subscription? id)) := by
  have moves := trigger.statusMoves world inMemory fresh keyed id
  refine ⟨moves, fun old found wasExpired unpurchased => ?_, fun old found uncancelled unexpired unpurchased => ?_,
    fun absent => StatusMove.created_along moves ?_⟩
  · obtain ⟨new, foundNew, expired, -⟩ := StatusMove.stays_expired_along moves found wasExpired unpurchased
    exact ⟨new, foundNew, expired⟩
  · obtain ⟨new, foundNew, same, -⟩ := StatusMove.keeps_status_along moves found uncancelled unexpired unpurchased
    exact ⟨new, foundNew, same⟩
  · rw [absent]
    trivial

/-- Cancelling the subscription of the example company. -/
def cancelling : Trigger := .operation (.cancel Ledger.exampleCompany)

/-- The January subscription cancelled on its first day: every status change follows the machine. -/
theorem cancelling_january_follows_machine :
    januaryWorld.backend = .memory ∧ januaryWorld.facts.DrawsFresh ∧ januaryWorld.facts.store.Keyed ∧
      (Relation.ReflTransGen
          (StatusMove januaryWorld.config januaryWorld.clock cancelling januaryWorld.facts.store
            (cancelling.perform.run.run januaryWorld).2.facts.store)
          (januaryWorld.facts.store.subscription? Uuid.nil)
          ((cancelling.perform.run.run januaryWorld).2.facts.store.subscription? Uuid.nil) ∧
        (∀ old, januaryWorld.facts.store.subscription? Uuid.nil = some old → old.status = .expired →
          ¬ januaryWorld.facts.store.PurchaseSettled (cancelling.perform.run.run januaryWorld).2.facts.store old.company →
          ∃ new, (cancelling.perform.run.run januaryWorld).2.facts.store.subscription? Uuid.nil = some new ∧
            new.status = .expired) ∧
        (∀ old, januaryWorld.facts.store.subscription? Uuid.nil = some old → cancelling.statusRole ≠ .cancels →
          cancelling.statusRole ≠ .expires →
          ¬ januaryWorld.facts.store.PurchaseSettled (cancelling.perform.run.run januaryWorld).2.facts.store old.company →
          ∃ new, (cancelling.perform.run.run januaryWorld).2.facts.store.subscription? Uuid.nil = some new ∧
            new.status = old.status) ∧
        (januaryWorld.facts.store.subscription? Uuid.nil = none →
          Created cancelling januaryWorld.facts.store (cancelling.perform.run.run januaryWorld).2.facts.store
            ((cancelling.perform.run.run januaryWorld).2.facts.store.subscription? Uuid.nil))) :=
  have keyed : januaryWorld.facts.store.Keyed := ⟨List.nodup_singleton _, List.nodup_nil⟩
  ⟨rfl, januaryWorld_drawsFresh, keyed,
    Trigger.status_follows_machine cancelling januaryWorld rfl januaryWorld_drawsFresh keyed Uuid.nil⟩

end SeatBilling
