import SeatBilling.Proofs.Services.Reading
import SeatBilling.Proofs.Services.FailedOperations
import SeatBilling.Proofs.Webhook.DeliverySteps
import SeatBilling.Sweep
import SeatBilling.Webhook

/-!
# Every store call an operation makes

Each operation of the core, each payment callback and each sweep ends, whatever its outcome
and whatever fault it meets, on facts reached by store calls of the kinds `CoreWrite` names,
each made as the core makes it: after the checks its operation made, on the store it meets.
This is where the code of the operations is read; the laws of the ledger are argued once per
kind of call.

The proofs follow the code: a read passes on what it learnt (`Observes.bind_at`), a write is
allowed where it is made (`Runs.wrote_at`), and an event may be recorded anywhere. New records
get identifiers that no record holds (`Facts.DrawsFresh`), as random identifiers do.
-/

namespace SeatBilling

open SeatBilling.Time

/-- The store calls `makes` allows include every call of kind `kind` the core makes, configured
by `settings`, at the clock reading `now`, with `headcount` active employees. -/
def Allows (makes : Store → Store.Write → Prop) (settings : Config) (now : Moment)
    (headcount : List (Uuid × Int)) (kind : WriteKind) : Prop :=
  ∀ store write, CoreWrite settings now headcount store kind write → makes store write

section Reaching

variable {α β : Type} {now : Moment} {headcount : List (Uuid × Int)} {makes : Store → Store.Write → Prop}
  {start facts : Facts}

theorem Runs.throw (halt : Halt) {pre : Facts → Prop} {gives : α → Facts → Prop} :
    Runs now headcount pre (throw halt : BillingM α) gives pre :=
  fun _ settled holds => ⟨settled, holds, nofun⟩

theorem Runs.failWith_bind (failure : Failure) (next : α → BillingM β) {pre : Facts → Prop}
    {gives : β → Facts → Prop} : Runs now headcount pre (SeatBilling.failWith failure >>= next) gives pre :=
  fun _ settled holds => by
    simp only [run_bind, run_failWith]
    exact ⟨settled, holds, nofun⟩

/-- A read from known facts passes on what it gave. -/
theorem Observes.bind_at {action : BillingM α} {next : α → BillingM β} {gives : α → Facts → Prop}
    {post : β → Facts → Prop} {ends : Facts → Prop} (reads : Observes now headcount action gives)
    (rest : ∀ value, gives value facts → Runs now headcount (· = facts) (next value) post ends)
    (stops : ends facts) : Runs now headcount (· = facts) (action >>= next) post ends :=
  Observes.bind reads (fun value => Runs.of_facts fun _ ⟨same, given⟩ => by subst same; exact rest value given)
    fun _ same => by rw [same]; exact stops

/-- A read keeps the facts reached. -/
theorem Observes.reaching {action : BillingM α} {gives : α → Facts → Prop} (reads : Observes now headcount action gives) :
    Runs now headcount (start.Reaches makes) action (fun _ => start.Reaches makes) (start.Reaches makes) :=
  reads.keeps

/-- A read from known facts ends on them. -/
theorem Observes.reaching_at {action : BillingM α} {gives : α → Facts → Prop} {ends : Facts → Prop}
    (reads : Observes now headcount action gives) (holds : ends facts) :
    Runs now headcount (· = facts) action (fun _ => ends) ends :=
  reads.keeps.mono (fun _ same => same) (fun _ _ same => by rw [same]; exact holds) fun _ same => by
    rw [same]; exact holds

/-- A read from known facts gives what is wanted of a value it gives. -/
theorem Observes.gives_at {action : BillingM α} {gives want : α → Facts → Prop} {pre : Facts → Prop}
    (reads : Observes now headcount action gives) (holds : pre facts)
    (wanted : ∀ value, gives value facts → want value facts) :
    Runs now headcount (· = facts) action (fun value after => pre after ∧ want value after) pre :=
  (reads (· = facts)).mono (fun _ same => same)
    (fun value _ ⟨same, given⟩ => by subst same; exact ⟨holds, wanted value given⟩) fun _ same => by
      rw [same]; exact holds

/-- A refusal ends on the facts it started from. -/
theorem Runs.refused_at {gives : β → Facts → Prop} {ends : Facts → Prop} (holds : ends facts) (failure : Failure)
    (next : α → BillingM β) : Runs now headcount (· = facts) (SeatBilling.failWith failure >>= next) gives ends :=
  (Runs.failWith_bind failure next).mono (fun _ same => same) (fun _ _ given => given) fun _ same => by
    rw [same]; exact holds

/-- An attempt keeps the facts reached when the action does. -/
theorem Runs.attempt_reaching {action : BillingM α}
    (runs : Runs now headcount (start.Reaches makes) action (fun _ => start.Reaches makes) (start.Reaches makes)) :
    Runs now headcount (start.Reaches makes) (SeatBilling.attempt action) (fun _ => start.Reaches makes)
      (start.Reaches makes) := by
  refine (Runs.attempt runs).mono (fun _ reached => reached) ?_ fun _ reached => reached
  intro result _ reached
  cases result <;> exact reached

/-- A store call keeps the facts reached when `makes` allows it on the store it meets and the
records it creates are fresh there. -/
theorem Runs.wrote_at {action : BillingM α} {write : Store.Write}
    (wrote : Runs now headcount (· = facts) action (fun _ after => facts.Wrote write after) (facts.Wrote write))
    (reached : start.Reaches makes facts) (allowed : makes facts.store write) (fresh : write.Fresh facts.store) :
    Runs now headcount (· = facts) action (fun _ => start.Reaches makes) (start.Reaches makes) :=
  wrote.mono (fun _ same => same) (fun _ _ written => reached.wrote allowed fresh written)
    fun _ written => reached.wrote allowed fresh written

/-- A store call allowed on every store, and creating no record, keeps the facts reached. -/
theorem Runs.wrote_anywhere {action : BillingM α} {write : Store.Write}
    (wrote : ∀ facts, Runs now headcount (· = facts) action (fun _ after => facts.Wrote write after) (facts.Wrote write))
    (allowed : ∀ store, makes store write) (fresh : ∀ store, write.Fresh store) :
    Runs now headcount (start.Reaches makes) action (fun _ => start.Reaches makes) (start.Reaches makes) :=
  Runs.of_facts fun facts reached => (wrote facts).wrote_at reached (allowed facts.store) (fresh facts.store)

theorem EventLog.record_reaching (records : Allows makes start.config now headcount .record) (company : Uuid)
    (kind : EventKind) (actor : Actor) (subscription invoice : Option Uuid) (data : Json) (at_ : Moment) :
    Runs now headcount (start.Reaches makes) (EventLog.record company kind actor subscription invoice data at_)
      (fun _ => start.Reaches makes) (start.Reaches makes) :=
  EventLog.record_keeps (fun _ reached => reached.draw)
    (fun _ event reached => reached.wrote (records _ _ (.record event)) trivial (.inr rfl)) _ _ _ _ _ _ _

/-- Recording an event and returning keeps the facts reached. -/
theorem EventLog.record_then_reaching (records : Allows makes start.config now headcount .record) (company : Uuid)
    (kind : EventKind) (actor : Actor) (subscription invoice : Option Uuid) (data : Json) (at_ : Moment) (value : α) :
    Runs now headcount (start.Reaches makes)
      (EventLog.record company kind actor subscription invoice data at_ >>= fun _ => Pure.pure value)
      (fun _ => start.Reaches makes) (start.Reaches makes) :=
  Runs.bind (EventLog.record_reaching records _ _ _ _ _ _ _) fun _ => (Observes.pure _).reaching

end Reaching

/-! ## The operations of the ledger -/

section Ledger

variable {now : Moment} {headcount : List (Uuid × Int)} {makes : Store → Store.Write → Prop} {start : Facts}
  (records : Allows makes start.config now headcount .record)

include records

theorem Ledger.startTrial_reaches (trials : Allows makes start.config now headcount .trial)
    (fresh : start.DrawsFresh) (company : Uuid) (planId : String) :
    Runs now headcount (· = start) (Ledger.startTrial company planId) (fun _ => start.Reaches makes)
      (start.Reaches makes) := by
  unfold Ledger.startTrial
  dsimp only
  refine Observes.bind_at (Catalog.getPurchasablePlan_observes planId) (fun plan ⟨found, offered⟩ => ?_) (.refl start)
  refine Observes.bind_at (Ledger.subscriptionOf_observes company) (fun current _ => ?_) (.refl start)
  split
  · exact Runs.refused_at (.refl start) _ _
  refine Observes.bind_at Observes.clock (fun at_ named => ?_) (.refl start)
  refine Observes.bind_at Observes.config (fun settings configured => ?_) (.refl start)
  subst named configured
  have drawnReached : start.Reaches makes { start with serial := start.serial + 1 } := (Facts.Reaches.refl start).draw
  refine Runs.bind ((Runs.freshId start).mono (fun _ same => same) (fun _ _ drawn => drawn)
    fun _ same => by rw [same]; exact drawnReached) fun id => Runs.of_facts fun drawn ⟨named, shape⟩ => ?_
  subst shape named
  refine Observes.bind_at (Observes.orOverflow _) (fun trialEnd ends => ?_) drawnReached
  -- the new trial is the first write, under the identifier just drawn
  refine Runs.bind ((Runs.insertSubscription _ _).wrote_at drawnReached
    (trials _ _ (.trial company plan _ trialEnd (Store.plan?_self found) offered ends)) fresh.subscription?) fun _ => ?_
  exact EventLog.record_then_reaching records _ _ _ _ _ _ _ _

theorem Ledger.downgrade_reaches (revises : Allows makes start.config now headcount (.revise .downgrade))
    (company : Uuid) (planId : String) :
    Runs now headcount (· = start) (Ledger.downgrade company planId) (fun _ => start.Reaches makes)
      (start.Reaches makes) := by
  unfold Ledger.downgrade
  dsimp only
  refine Observes.bind_at (Catalog.getPurchasablePlan_observes planId) (fun target ⟨found, offered⟩ => ?_) (.refl start)
  refine Observes.bind_at (Ledger.requireSubscription_observes company) (fun subscription read => ?_) (.refl start)
  split
  · exact Runs.refused_at (.refl start) _ _
  rename_i active
  split
  · exact Runs.refused_at (.refl start) _ _
  rename_i other
  refine Observes.bind_at (Catalog.getPlan_observes _) (fun currentPlan currentFound => ?_) (.refl start)
  split
  · exact Runs.refused_at (.refl start) _ _
  rename_i notHigher
  refine Observes.bind_at Observes.clock (fun at_ named => ?_) (.refl start)
  subst named
  have change : Revises start.config at_ headcount start.store subscription .downgrade
      { subscription with pendingPlan := some target.id, updatedAt := at_ } :=
    .downgrade target currentPlan (by simpa using active) (Store.plan?_self found) offered (by simpa using other) currentFound
      (by simpa using notHigher)
  refine Runs.bind ((Ledger.save_wrote _ _ start).wrote_at (.refl start)
    (revises _ _ (.revise _ _ _ (List.mem_of_find?_eq_some read) change)) trivial) fun _ => ?_
  exact EventLog.record_then_reaching records _ _ _ _ _ _ _ _

theorem Ledger.cancel_reaches (revises : Allows makes start.config now headcount (.revise .cancel)) (company : Uuid) :
    Runs now headcount (· = start) (Ledger.cancel company) (fun _ => start.Reaches makes) (start.Reaches makes) := by
  unfold Ledger.cancel
  dsimp only
  refine Observes.bind_at (Ledger.requireSubscription_observes company) (fun subscription read => ?_) (.refl start)
  split
  · exact (Observes.pure _).reaching_at (.refl start)
  · exact Runs.refused_at (.refl start) _ _
  rename_i cancellable _
  refine Observes.bind_at Observes.clock (fun at_ named => ?_) (.refl start)
  subst named
  have change : Revises start.config at_ headcount start.store subscription .cancel
      { subscription.clearPending with status := .cancelled, updatedAt := at_ } :=
    .cancel (by cases status : subscription.status <;> simp_all)
  refine Runs.bind ((Ledger.save_wrote _ _ start).wrote_at (.refl start)
    (revises _ _ (.revise _ _ _ (List.mem_of_find?_eq_some read) change)) trivial) fun _ => ?_
  exact EventLog.record_then_reaching records _ _ _ _ _ _ _ _

theorem Ledger.cancelScheduledChange_reaches (revises : Allows makes start.config now headcount (.revise .withdraw))
    (company : Uuid) :
    Runs now headcount (· = start) (Ledger.cancelScheduledChange company) (fun _ => start.Reaches makes)
      (start.Reaches makes) := by
  unfold Ledger.cancelScheduledChange
  dsimp only
  refine Observes.bind_at (Ledger.requireSubscription_observes company) (fun subscription read => ?_) (.refl start)
  split
  · exact Runs.refused_at (.refl start) _ _
  rename_i waiting
  refine Observes.bind_at Observes.clock (fun at_ named => ?_) (.refl start)
  subst named
  have change : Revises start.config at_ headcount start.store subscription .withdraw
      { subscription.clearPending with updatedAt := at_ } :=
    .withdraw (by simpa using waiting)
  refine Runs.bind ((Ledger.save_wrote _ _ start).wrote_at (.refl start)
    (revises _ _ (.revise _ _ _ (List.mem_of_find?_eq_some read) change)) trivial) fun _ => ?_
  exact EventLog.record_then_reaching records _ _ _ _ _ _ _ _

end Ledger

/-! ## Creating an invoice -/

section Invoices

variable {now : Moment} {headcount : List (Uuid × Int)} {makes : Store → Store.Write → Prop} {start : Facts}
  (records : Allows makes start.config now headcount .record)

theorem Invoicing.storePending_reaches (request : InvoiceRequest) {facts : Facts} (reached : start.Reaches makes facts)
    (fresh : facts.DrawsFresh)
    (bills : ∀ id expiresAt, now.shift? start.config.invoiceTtl = some expiresAt →
      makes facts.store (.insertInvoice (Invoicing.pendingInvoice request id now expiresAt))) :
    Runs now headcount (· = facts) (Invoicing.storePending request) (fun _ => start.Reaches makes)
      (start.Reaches makes) := by
  unfold Invoicing.storePending
  refine Observes.bind_at Observes.clock (fun at_ named => ?_) reached
  refine Observes.bind_at Observes.config (fun settings configured => ?_) reached
  subst named configured
  refine Runs.bind ((Runs.freshId facts).mono (fun _ same => same) (fun _ _ drawn => drawn)
    fun _ same => by rw [same]; exact reached.draw) fun id => Runs.of_facts fun drawn ⟨named, shape⟩ => ?_
  subst shape named
  refine Observes.bind_at (Observes.orOverflow _) (fun expiresAt expiring => ?_) reached.draw
  -- the new invoice is the first write, under the identifier just drawn
  refine Runs.bind ((Runs.insertInvoice _ _).wrote_at reached.draw
    (bills _ expiresAt (by rw [← reached.config]; exact expiring)) fresh.invoice?) fun _ => ?_
  exact (Observes.pure _).reaching

/-- Asking the provider changes no facts; when it fails, the new invoice is set aside. -/
theorem Invoicing.bill_reaching (setsAside : Allows makes start.config now headcount .setAside) (invoice : Invoice)
    (description : String) :
    Runs now headcount (start.Reaches makes) (Invoicing.bill invoice description) (fun _ => start.Reaches makes)
      (start.Reaches makes) := by
  unfold Invoicing.bill
  refine Observes.bind Observes.config (fun settings => ?_) fun _ reached => reached
  refine Runs.mono ?_ (fun _ holds => holds.1) (fun _ _ reached => reached) fun _ reached => reached
  refine Runs.catchFailure (Observes.createProviderInvoice _).reaching (fun failure => ?_) fun _ reached => reached
  refine Runs.bind (Runs.attempt_reaching (Runs.wrote_anywhere (fun facts => Runs.transitionInvoice facts _ _ _)
    (fun store => setsAside store _ (.setAside _)) fun _ => trivial)) fun _ => ?_
  exact (Runs.failWith failure).mono (fun _ reached => reached) (fun _ _ given => given) fun _ reached => reached

theorem Invoicing.link_reaching (links : Allows makes start.config now headcount .link) (invoice : Invoice)
    (created : ProviderInvoice) :
    Runs now headcount (start.Reaches makes) (Invoicing.link invoice created) (fun _ => start.Reaches makes)
      (start.Reaches makes) := by
  unfold Invoicing.link
  exact Runs.bind (Runs.wrote_anywhere (fun facts => Runs.attachProviderInvoice facts _ _ _ _)
    (fun store => links store _ (.link _ _ _ _)) fun _ => trivial) fun _ => (Observes.pure _).reaching

/-- A checkout is priced from what its checks read: a plan on offer, at least one seat, and an
active subscription only renewed on its own plan with nothing waiting. -/
theorem Ledger.checkoutRequest_observes (company : Uuid) (planId : String) (seats : Option Int) :
    Observes now headcount (Ledger.checkoutRequest company planId seats)
      fun request facts => Requested facts.store request := by
  intro pre
  refine Runs.of_facts fun facts holds => ?_
  unfold Ledger.checkoutRequest
  refine Observes.bind_at (Catalog.getPurchasablePlan_observes planId) (fun plan ⟨found, offered⟩ => ?_) holds
  refine Observes.bind_at (Ledger.requirePositiveSeats_observes _) (fun _ positive => ?_) holds
  refine Observes.bind_at (Ledger.subscriptionOf_observes company) (fun current read => ?_) holds
  extract_lets priced counted
  -- every path that gets past the checks ends in the same pricing
  have pricing : ∀ previous : Unit, (∀ subscription, current = some subscription → subscription.status = .active →
      subscription.plan = plan.id ∧ subscription.hasPendingChange = false) →
      Runs now headcount (· = facts) (priced previous) (fun request after => pre after ∧ Requested after.store request)
        pre := by
    intro _ renewal
    dsimp only [priced]
    refine Observes.bind_at (Ledger.priceOf_observes _ _) (fun amount _ => ?_) holds
    exact (Observes.pure _).gives_at holds fun _ same => same ▸
      Requested.checkout company plan _ amount _ current (Store.plan?_self found) offered positive read renewal
  have counting : ∀ previous : Unit, (∀ subscription, current = some subscription → subscription.status = .active →
      subscription.plan = plan.id ∧ subscription.hasPendingChange = false) →
      Runs now headcount (· = facts) (counted previous) (fun request after => pre after ∧ Requested after.store request)
        pre := by
    intro _ renewal
    dsimp only [counted]
    refine Observes.bind_at (Observes.countActive company) (fun active _ => ?_) holds
    split
    · exact Runs.refused_at holds _ _
    · exact pricing () renewal
  split
  · rename_i subscription
    split
    · rename_i active
      extract_lets checked
      have checking : ∀ previous : Unit, subscription.plan = plan.id →
          Runs now headcount (· = facts) (checked previous)
            (fun request after => pre after ∧ Requested after.store request) pre := by
        intro _ samePlan
        dsimp only [checked]
        split
        · exact Runs.refused_at holds _ _
        · rename_i settled
          exact counting () fun _ same _ => by
            cases same
            exact ⟨samePlan, by simpa using settled⟩
      split
      · exact Runs.refused_at holds _ _
      · rename_i samePlan
        exact checking () (by simpa using samePlan)
    · rename_i inactive
      exact counting () fun _ same active => by
        cases same
        simp [active] at inactive
  · rename_i none
    exact pricing () fun subscription same => (none subscription same).elim

include records

theorem Invoicing.announce_reaching (invoice : Invoice) :
    Runs now headcount (start.Reaches makes) (Invoicing.announce invoice) (fun _ => start.Reaches makes)
      (start.Reaches makes) :=
  Runs.bind (Observes.readCall _ _ _ _ _ _).reaching fun _ => EventLog.record_reaching records _ _ _ _ _ _ _

/-- Creating an invoice makes the insertion `bills` allows, under a fresh identifier, and
then only sets it aside, links it and records its creation. -/
theorem Invoicing.create_reaches (setsAside : Allows makes start.config now headcount .setAside)
    (links : Allows makes start.config now headcount .link) (request : InvoiceRequest) {facts : Facts}
    (reached : start.Reaches makes facts) (fresh : facts.DrawsFresh)
    (bills : ∀ id expiresAt, now.shift? start.config.invoiceTtl = some expiresAt →
      makes facts.store (.insertInvoice (Invoicing.pendingInvoice request id now expiresAt))) :
    Runs now headcount (· = facts) (Invoicing.create request) (fun _ => start.Reaches makes) (start.Reaches makes) := by
  unfold Invoicing.create
  refine Observes.bind_at (Invoicing.refuseSecondPending_observes _) (fun _ _ => ?_) reached
  refine Runs.bind (Invoicing.storePending_reaches request reached fresh bills) fun invoice => ?_
  refine Runs.bind (Invoicing.bill_reaching setsAside invoice _) fun created => ?_
  refine Runs.bind (Invoicing.link_reaching links invoice created) fun linked => ?_
  exact Runs.bind (Invoicing.announce_reaching records linked) fun _ => (Observes.pure _).reaching

theorem Ledger.checkout_reaches (bills : Allows makes start.config now headcount .bill)
    (setsAside : Allows makes start.config now headcount .setAside) (links : Allows makes start.config now headcount .link)
    (fresh : start.DrawsFresh) (company : Uuid) (planId : String) (seats : Option Int) :
    Runs now headcount (· = start) (Ledger.checkout company planId seats) (fun _ => start.Reaches makes)
      (start.Reaches makes) := by
  unfold Ledger.checkout
  refine Observes.bind_at (Ledger.checkoutRequest_observes company planId seats) (fun request requested => ?_)
    (.refl start)
  exact Invoicing.create_reaches records setsAside links request (.refl start) fresh fun id expiresAt ttl =>
    bills _ _ (.bill request id expiresAt requested ttl)

theorem Ledger.upgrade_reaches (bills : Allows makes start.config now headcount .bill)
    (setsAside : Allows makes start.config now headcount .setAside) (links : Allows makes start.config now headcount .link)
    (fresh : start.DrawsFresh) (company : Uuid) (planId : String) :
    Runs now headcount (· = start) (Ledger.upgrade company planId) (fun _ => start.Reaches makes)
      (start.Reaches makes) := by
  unfold Ledger.upgrade
  dsimp only
  refine Observes.bind_at (Catalog.getPurchasablePlan_observes planId) (fun target ⟨found, offered⟩ => ?_) (.refl start)
  refine Observes.bind_at (Ledger.requireSubscription_observes company) (fun subscription read => ?_) (.refl start)
  split
  · exact Runs.refused_at (.refl start) _ _
  rename_i upgradable
  refine Observes.bind_at (Catalog.getPlan_observes _) (fun currentPlan currentFound => ?_) (.refl start)
  split
  · exact Runs.refused_at (.refl start) _ _
  rename_i higher
  refine Observes.bind_at (Ledger.priceOf_observes _ _) (fun amount _ => ?_) (.refl start)
  have requested := Requested.upgrade company subscription target currentPlan amount
    ("Upgrade to " ++ target.name ++ " plan, " ++ toString (max subscription.maxSeats target.maxSeatsIncluded) ++ " seats")
    read (by simpa [or_iff_not_imp_left] using upgradable) (Store.plan?_self found) offered currentFound (by simpa using higher)
  exact Invoicing.create_reaches records setsAside links _ (.refl start) fresh fun id expiresAt ttl =>
    bills _ _ (.bill _ id expiresAt requested ttl)

theorem Ledger.recordSeatEvent_reaching (subscription : Subscription) (kind : EventKind) (previousSeats : Int)
    (at_ : Moment) :
    Runs now headcount (start.Reaches makes) (Ledger.recordSeatEvent subscription kind previousSeats at_)
      (fun _ => start.Reaches makes) (start.Reaches makes) :=
  EventLog.record_reaching records _ _ _ _ _ _ _

/-- A seat change bills an increase that costs something and saves every other change. -/
theorem Ledger.changeSeats_reaches (bills : Allows makes start.config now headcount .bill)
    (setsAside : Allows makes start.config now headcount .setAside) (links : Allows makes start.config now headcount .link)
    (raises : Allows makes start.config now headcount (.revise .raiseSeats))
    (lowers : Allows makes start.config now headcount (.revise .lowerSeats))
    (keeps : Allows makes start.config now headcount (.revise .keepSeats))
    (fresh : start.DrawsFresh) (company : Uuid) (seats : Int) :
    Runs now headcount (· = start) (Ledger.changeSeats company seats) (fun _ => start.Reaches makes)
      (start.Reaches makes) := by
  unfold Ledger.changeSeats
  dsimp only
  refine Observes.bind_at (Ledger.requirePositiveSeats_observes seats) (fun _ positive => ?_) (.refl start)
  refine Observes.bind_at (Ledger.requireSubscription_observes company) (fun subscription read => ?_) (.refl start)
  split
  · exact Runs.refused_at (.refl start) _ _
  rename_i inactive
  have active : subscription.status = .active := by simpa using inactive
  refine Observes.bind_at Observes.clock (fun at_ named => ?_) (.refl start)
  subst named
  -- every change that is not billed is saved, then recorded
  have saving : ∀ (revision : Revision) (next : Subscription) (kind : EventKind) (change : Subscription → Ledger.SeatChange),
      Allows makes start.config at_ headcount (.revise revision) →
      Revises start.config at_ headcount start.store subscription revision next →
      Runs at_ headcount (· = start) (do
          let saved ← Ledger.save subscription next
          Ledger.recordSeatEvent saved kind subscription.maxSeats at_
          pure (change saved))
        (fun _ => start.Reaches makes) (start.Reaches makes) := by
    intro revision next kind change allows revises
    refine Runs.bind ((Ledger.save_wrote _ _ start).wrote_at (.refl start)
      (allows _ _ (.revise _ _ _ (List.mem_of_find?_eq_some read) revises)) trivial) fun _ => ?_
    exact Runs.bind (Ledger.recordSeatEvent_reaching records _ _ _ _) fun _ => (Observes.pure _).reaching
  split
  · rename_i more
    refine Observes.bind_at (Catalog.getPlan_observes _) (fun plan _ => ?_) (.refl start)
    refine Observes.bind_at (Ledger.priceOf_observes _ _) (fun raised _ => ?_) (.refl start)
    refine Observes.bind_at (Ledger.priceOf_observes _ _) (fun current _ => ?_) (.refl start)
    refine Observes.bind_at (Observes.orOverflow _) (fun cost _ => ?_) (.refl start)
    split
    · refine Observes.bind_at (Observes.orOverflow _) (fun added _ => ?_) (.refl start)
      have requested := Requested.seatIncrease company subscription seats cost
        (toString added ++ " additional seats on the " ++ plan.name ++ " plan") read active positive more
      exact Runs.bind (Invoicing.create_reaches records setsAside links _ (.refl start) fresh fun id expiresAt ttl =>
        bills _ _ (.bill _ id expiresAt requested ttl)) fun _ => (Observes.pure _).reaching
    · exact saving .raiseSeats _ _ _ raises (.raiseSeats seats active positive more)
  split
  · rename_i _ fewer
    exact saving .lowerSeats _ _ _ lowers (.lowerSeats seats active positive fewer)
  split
  · exact Runs.refused_at (.refl start) _ _
  · rename_i waiting
    exact saving .keepSeats _ _ _ keeps (.keepSeats active (by
      cases pending : subscription.pendingMaxSeats <;> simp_all))

/-- An invoice asked for directly is created with no check of the ledger. -/
theorem Invoicing.createDirect_reaches (billsDirect : Allows makes start.config now headcount .billDirect)
    (setsAside : Allows makes start.config now headcount .setAside) (links : Allows makes start.config now headcount .link)
    (fresh : start.DrawsFresh) (request : InvoiceRequest) :
    Runs now headcount (· = start) (Invoicing.create request) (fun _ => start.Reaches makes) (start.Reaches makes) :=
  Invoicing.create_reaches records setsAside links request (.refl start) fresh fun id expiresAt ttl =>
    billsDirect _ _ (.billDirect request id expiresAt ttl)

end Invoices

/-! ## Settling a paid invoice -/

/-- While invoice `id` is being settled: identifiers are still fresh, or the invoice has left
`pending`, so that no later attempt creates a subscription. -/
def Facts.SettlingFresh (id : Uuid) (facts : Facts) : Prop :=
  facts.DrawsFresh ∨ ∃ invoice, facts.store.invoice? id = some invoice ∧ invoice.isPending = false

namespace Facts.SettlingFresh

variable {id : Uuid} {facts : Facts}

theorem draw (settling : facts.SettlingFresh id) : ({ facts with serial := facts.serial + 1 } : Facts).SettlingFresh id :=
  settling.imp (fun fresh => fresh.draw) fun settled => settled

theorem append (settling : facts.SettlingFresh id) (event : Event) :
    ({ facts with store := (Store.Write.appendEvent event).apply facts.store } : Facts).SettlingFresh id :=
  settling.imp (fun fresh => fresh.of_records (Nat.le_refl _) rfl rfl) fun settled => settled

/-- A settlement of the invoice that goes through leaves it paid. -/
theorem settled (settling : facts.SettlingFresh id) (payment : Payment) (write : SubscriptionWrite) :
    ({ facts with store := (Store.Write.settleInvoice id payment write).apply facts.store } : Facts).SettlingFresh id := by
  rcases Store.apply_settleInvoice facts.store id payment write with unchanged | ⟨invoice, stored, found, _, _, applied⟩
  · rw [unchanged]
    exact settling
  · refine .inr ⟨Store.paidBy id payment stored.id invoice, ?_, ?_⟩
    · have sameInvoices : ((Store.Write.settleInvoice id payment write).apply facts.store).invoices =
          ({ facts.store with invoices := facts.store.invoices.map (Store.paidBy id payment stored.id) } : Store).invoices := by
        rw [applied]
      show ((Store.Write.settleInvoice id payment write).apply facts.store).invoice? id = _
      rw [Store.invoice?_eq_of_invoices sameInvoices, Store.invoice?_map (Store.paidBy_id id payment stored.id), found]
      rfl
    · simp [Store.paidBy, Store.invoice?_id found, Invoice.applyPayment, Invoice.isPending]

end Facts.SettlingFresh

/-- With no subscription read, a settlement creates one under the identifier drawn for it. -/
theorem paidEffect_none_id {newId : Uuid} {invoice : Invoice} {paidAt now : Moment} {period : Span}
    {subscription : Subscription} (made : paidEffect newId invoice none paidAt now period = some (.insert subscription)) :
    subscription.id = newId := by
  unfold paidEffect at made
  cases shifted : paidAt.shift? period with
  | none => simp [shifted] at made
  | some periodEnd =>
    simp only [shifted] at made
    rw [← SubscriptionWrite.insert.inj (Option.some.inj made)]

/-- A settlement creates a subscription only when it read none, under the identifier drawn. -/
theorem paidEffect_fresh {store : Store} {newId : Uuid} {invoice : Invoice} {current : Option Subscription}
    {paidAt now : Moment} {period : Span} {write : SubscriptionWrite}
    (made : paidEffect newId invoice current paidAt now period = some write)
    (fresh : current = none → store.subscription? newId = none) (id : Uuid) (payment : Payment) :
    (Store.Write.settleInvoice id payment write).Fresh store := by
  cases current with
  | none =>
    obtain ⟨subscription, rfl, -, -⟩ := Webhook.paidEffect_none made
    show store.subscription? subscription.id = none
    rw [paidEffect_none_id made]
    exact fresh rfl
  | some current =>
    obtain ⟨subscription, rfl, -, -⟩ := Webhook.paidEffect_some made
    trivial

section Settling

variable {now : Moment} {headcount : List (Uuid × Int)} {makes : Store → Store.Write → Prop} {start : Facts}
  (records : Allows makes start.config now headcount .record)

include records

theorem EventLog.record_settling (id : Uuid) (company : Uuid) (kind : EventKind) (actor : Actor)
    (subscription invoice : Option Uuid) (data : Json) (at_ : Moment) :
    Runs now headcount (fun facts => start.Reaches makes facts ∧ facts.SettlingFresh id)
      (EventLog.record company kind actor subscription invoice data at_)
      (fun _ facts => start.Reaches makes facts ∧ facts.SettlingFresh id)
      (fun facts => start.Reaches makes facts ∧ facts.SettlingFresh id) :=
  EventLog.record_keeps (fun _ ⟨reached, settling⟩ => ⟨reached.draw, settling.draw⟩)
    (fun _ event ⟨reached, settling⟩ => ⟨reached.wrote (records _ _ (.record event)) trivial (.inr rfl),
      settling.append event⟩) _ _ _ _ _ _ _

/-- Marking an invoice paid is one settling store call, then a record or a lookup. -/
theorem Invoicing.markPaid_reaching (id : Uuid) (payment : Payment) (write : SubscriptionWrite) {facts : Facts}
    (reached : start.Reaches makes facts) (settling : facts.SettlingFresh id)
    (allowed : makes facts.store (.settleInvoice id payment write))
    (fresh : (Store.Write.settleInvoice id payment write).Fresh facts.store) :
    Runs now headcount (· = facts) (Invoicing.markPaid id payment write)
      (fun _ after => start.Reaches makes after ∧ after.SettlingFresh id)
      (fun after => start.Reaches makes after ∧ after.SettlingFresh id) := by
  have written : ∀ after, facts.Wrote (.settleInvoice id payment write) after →
      start.Reaches makes after ∧ after.SettlingFresh id := by
    rintro after (same | same) <;> rw [same]
    · exact ⟨reached, settling⟩
    · exact ⟨reached.wrote allowed fresh (.inr rfl), settling.settled payment write⟩
  unfold Invoicing.markPaid
  refine Runs.bind ((Runs.settleInvoice facts id payment write).mono (fun _ same => same)
    (fun _ after wrote => written after wrote) written) fun settled => ?_
  split
  · exact Runs.bind (EventLog.record_settling records id _ _ _ _ _ _ _) fun _ => (Observes.pure _).keeps
  · exact (Observes.andThen _ (Invoicing.require_observes id) fun _ => Observes.pure false).keeps

/-- A settling attempt settles the invoice it read with what `paidEffect` computes from the
subscription it read; `handles` says what a failure to mark the invoice paid leads to. -/
theorem Ledger.settleOnce_reaching (settles : Allows makes start.config now headcount .settle) (id : Uuid)
    (payment : Payment) {onFailure : Failure → BillingM Ledger.SettleOutcome}
    (handles : ∀ failure, Runs now headcount (fun facts => start.Reaches makes facts ∧ facts.SettlingFresh id)
      (onFailure failure) (fun _ facts => start.Reaches makes facts ∧ facts.SettlingFresh id)
      (fun facts => start.Reaches makes facts ∧ facts.SettlingFresh id)) :
    Runs now headcount (fun facts => start.Reaches makes facts ∧ facts.SettlingFresh id)
      (Ledger.settleOnce id payment onFailure) (fun _ facts => start.Reaches makes facts ∧ facts.SettlingFresh id)
      (fun facts => start.Reaches makes facts ∧ facts.SettlingFresh id) := by
  refine Runs.of_facts fun facts ⟨reached, settling⟩ => ?_
  unfold Ledger.settleOnce
  refine Observes.bind_at (Ledger.loadInvoice_observes id) (fun invoice found => ?_) ⟨reached, settling⟩
  split
  · exact (Observes.pure _).reaching_at ⟨reached, settling⟩
  rename_i pending
  -- the invoice is still pending, so identifiers are still fresh
  have fresh : facts.DrawsFresh := settling.resolve_right fun ⟨other, foundOther, notPending⟩ => by
    rw [found, Option.some.injEq] at foundOther
    subst foundOther
    simp [notPending] at pending
  refine Observes.bind_at (Ledger.subscriptionOf_observes _) (fun current read => ?_) ⟨reached, settling⟩
  extract_lets settling'
  have settlingWith : ∀ (newId : Uuid) (drawn : Facts), drawn.store = facts.store → start.Reaches makes drawn →
      drawn.SettlingFresh id → (current = none → drawn.store.subscription? newId = none) →
      Runs now headcount (· = drawn) (settling' newId) (fun _ facts => start.Reaches makes facts ∧ facts.SettlingFresh id)
        (fun facts => start.Reaches makes facts ∧ facts.SettlingFresh id) := by
    intro newId drawn sameStore drawnReached drawnSettling freshId
    dsimp only [settling']
    refine Observes.bind_at Observes.config (fun settings configured => ?_) ⟨drawnReached, drawnSettling⟩
    refine Observes.bind_at Observes.clock (fun at_ named => ?_) ⟨drawnReached, drawnSettling⟩
    refine Observes.bind_at (Observes.orOverflow _) (fun write made => ?_) ⟨drawnReached, drawnSettling⟩
    subst configured named
    have allowed : makes drawn.store (.settleInvoice id payment write) := by
      rw [sameStore]
      exact settles _ _ (.settle id invoice current newId payment write found read
        (by rw [← drawnReached.config]; exact made))
    refine Runs.bind (Runs.attempt (Invoicing.markPaid_reaching records id payment write drawnReached drawnSettling
      allowed (paidEffect_fresh made freshId id payment))) fun result => ?_
    rcases result with failure | _ | _
    · exact handles failure
    · exact (Observes.andThen _ (Ledger.loadInvoice_observes id) fun _ => Observes.pure _).keeps
    · exact Runs.bind (EventLog.record_settling records id _ _ _ _ _ _ _) fun _ => (Observes.pure _).keeps
  split
  · refine Runs.bind ((Runs.freshId facts).mono (fun _ same => same) (fun _ _ drawn => drawn)
      fun _ same => by rw [same]; exact ⟨reached.draw, settling.draw⟩) fun newId => ?_
    refine Runs.of_facts fun drawn ⟨named, shape⟩ => ?_
    subst shape named
    exact settlingWith _ _ rfl reached.draw settling.draw fun _ => fresh.subscription?
  · rename_i some
    refine Observes.bind_at (Observes.pure _) (fun newId _ => ?_) ⟨reached, settling⟩
    exact settlingWith _ _ rfl reached settling fun none => by simp [none] at some

/-- Every retry of a settlement keeps the facts reached: the retries are by induction on how
many are left. -/
theorem Ledger.settleWithin_reaching (settles : Allows makes start.config now headcount .settle) (id : Uuid)
    (payment : Payment) (retries : Nat) :
    Runs now headcount (fun facts => start.Reaches makes facts ∧ facts.SettlingFresh id)
      (Ledger.settleWithin id payment retries) (fun _ facts => start.Reaches makes facts ∧ facts.SettlingFresh id)
      (fun facts => start.Reaches makes facts ∧ facts.SettlingFresh id) := by
  induction retries with
  | zero =>
    rw [Ledger.settleWithin]
    exact Ledger.settleOnce_reaching records settles id payment fun failure =>
      (Runs.failWith failure).mono (fun _ holds => holds) (fun _ _ given => given) fun _ holds => holds
  | succ retries inductionHypothesis =>
    rw [Ledger.settleWithin]
    refine Ledger.settleOnce_reaching records settles id payment fun failure => ?_
    split
    · exact inductionHypothesis
    · exact (Runs.failWith _).mono (fun _ holds => holds) (fun _ _ given => given) fun _ holds => holds

theorem Ledger.settle_reaches (settles : Allows makes start.config now headcount .settle) {facts : Facts}
    (reached : start.Reaches makes facts) (fresh : facts.DrawsFresh) (id : Uuid) (payment : Payment) :
    Runs now headcount (· = facts) (Ledger.settle id payment) (fun _ => start.Reaches makes) (start.Reaches makes) := by
  unfold Ledger.settle
  refine Observes.bind_at (Ledger.loadInvoice_observes id) (fun _ _ => ?_) reached
  exact (Ledger.settleWithin_reaching records settles id payment _).mono (fun _ same => by rw [same]; exact ⟨reached, .inl fresh⟩)
    (fun _ _ holds => holds.1) fun _ holds => holds.1

end Settling

/-! ## Committing a due change, and the expiry pass -/

section Scheduled

variable {now : Moment} {headcount : List (Uuid × Int)} {makes : Store → Store.Write → Prop} {start : Facts}
  (records : Allows makes start.config now headcount .record)

include records

/-- A commit saves the due change as `Revises.commit` or `Revises.commitRolling` says, or
records its refusal. -/
theorem Ledger.commitPendingChange_reaches (commits : Allows makes start.config now headcount (.revise .commit))
    {facts : Facts} (reached : start.Reaches makes facts) (id : Uuid) :
    Runs now headcount (· = facts) (Ledger.commitPendingChange id) (fun _ => start.Reaches makes)
      (start.Reaches makes) := by
  unfold Ledger.commitPendingChange
  refine Observes.bind_at (Ledger.requireSubscriptionId_observes id) (fun _ _ => ?_) reached
  refine Observes.bind_at (Ledger.requireSubscriptionId_observes id) (fun subscription found => ?_) reached
  split
  · exact (Observes.pure _).reaching_at reached
  rename_i waiting
  split
  · exact (Observes.pure _).reaching_at reached
  rename_i live
  refine Observes.bind_at Observes.clock (fun at_ named => ?_) reached
  subst named
  split
  · exact (Observes.pure _).reaching_at reached
  rename_i due
  refine Observes.bind_at (Catalog.getPlan_observes _) (fun targetPlan targetFound => ?_) reached
  extract_lets newSeats cleared moved committing
  refine Observes.bind_at (Observes.countActive _) (fun active counted => ?_) reached
  by_cases tooMany : active > newSeats
  · -- a refused change is logged and recorded
    rw [if_pos tooMany]
    exact Runs.bind ((Observes.emit _ _ _ _).reaching_at reached) fun _ =>
      EventLog.record_then_reaching records _ _ _ _ _ _ _ _
  rw [if_neg tooMany]
  have fits : activeEmployees headcount subscription.company ≤ subscription.committedSeats targetPlan := by
    rw [← counted]
    exact Int.not_lt.mp tooMany
  have settled : (subscription.hasPendingChange = true ∧ subscription.status ≠ .expired) ∧
      subscription.periodEnd ≤ at_ := ⟨⟨by simpa using waiting, by simpa using live⟩, Int.not_lt.mp due⟩
  refine Observes.bind_at Observes.config (fun settings configured => ?_) reached
  -- both ways of rolling the period end in the same save, record and log
  have finishing : ∀ rolled, Revises start.config at_ headcount facts.store subscription .commit
      { rolled with updatedAt := at_ } →
      Runs at_ headcount (· = facts) (committing rolled) (fun _ => start.Reaches makes) (start.Reaches makes) := by
    intro rolled revises
    dsimp only [committing]
    refine Runs.bind ((Ledger.save_wrote _ _ facts).wrote_at reached
      (commits _ _ (.revise _ _ _ (List.mem_of_find?_eq_some found) revises)) trivial) fun _ => ?_
    exact Runs.bind (EventLog.record_reaching records _ _ _ _ _ _ _) fun _ =>
      Runs.bind (Observes.emit _ _ _ _).reaching fun _ => (Observes.pure _).reaching
  split
  · rename_i active
    refine Observes.bind_at (Observes.orOverflow _) (fun periodEnd rolls => ?_) reached
    refine Observes.bind_at (Observes.pure _) (fun rolled same => ?_) reached
    subst same configured
    exact finishing _ (.commitRolling targetPlan periodEnd settled.1.1 (by simpa using active) settled.2
      targetFound fits (by rw [← reached.config]; exact rolls))
  · rename_i inactive
    exact finishing moved (.commit targetPlan settled.1.1 (by simpa using inactive) settled.1.2 settled.2
      targetFound fits)

end Scheduled

section Expiry

variable {now : Moment} {headcount : List (Uuid × Int)} {makes : Store → Store.Write → Prop} {start : Facts}

/-- The expiry pass makes its three bulk writes, the second with the grace cutoff it computed. -/
theorem Ledger.expireLapsed_reaching (expires : Allows makes start.config now headcount .expire) :
    Runs now headcount (start.Reaches makes) Ledger.expireLapsed (fun _ => start.Reaches makes)
      (start.Reaches makes) := by
  refine Runs.of_facts fun facts reached => ?_
  unfold Ledger.expireLapsed
  dsimp only
  refine Observes.bind_at Observes.clock (fun at_ named => ?_) reached
  subst named
  refine Observes.bind_at (Observes.readCall _ _ _ _ _ _) (fun candidates _ => ?_) reached
  split
  · exact (Observes.pure _).reaching_at reached
  refine Observes.bind_at Observes.config (fun settings configured => ?_) reached
  refine Observes.bind_at (Observes.orOverflow _) (fun cutoff cut => ?_) reached
  subst configured
  have grace : at_.unshift? start.config.gracePeriod = some cutoff := by rw [← reached.config]; exact cut
  refine Runs.bind ((Runs.updateExpiredToStatus facts _ _ _ _).wrote_at reached (expires _ _ (.expire _ _ _ .cancelled))
    trivial) fun _ => ?_
  refine Runs.bind (Runs.wrote_anywhere (fun facts => Runs.updateExpiredToStatus facts _ _ _ _)
    (fun store => expires store _ (.expire _ _ _ (.unpaid cutoff grace))) fun _ => trivial) fun _ => ?_
  refine Runs.bind (Runs.wrote_anywhere (fun facts => Runs.updateExpiredToStatus facts _ _ _ _)
    (fun store => expires store _ (.expire _ _ _ .pastDue)) fun _ => trivial) fun _ => ?_
  split
  · exact Runs.bind (Observes.emit _ _ _ _).reaching fun _ => (Observes.pure _).reaching
  · exact (Observes.pure _).reaching

end Expiry

/-! ## Closing invoices, the sweep and payment callbacks -/

section Closing

variable {α : Type} {now : Moment} {headcount : List (Uuid × Int)} {makes : Store → Store.Write → Prop}
  {start : Facts}

theorem Runs.map_reaching {β : Type} {action : BillingM α} (change : α → β)
    (runs : Runs now headcount (start.Reaches makes) action (fun _ => start.Reaches makes) (start.Reaches makes)) :
    Runs now headcount (start.Reaches makes) (change <$> action) (fun _ => start.Reaches makes) (start.Reaches makes) :=
  (Runs.map change runs).mono (fun _ reached => reached) (fun _ _ ⟨_, _, reached⟩ => reached) fun _ reached => reached

/-- A bounded section that reports running out of time keeps the facts reached. -/
theorem Sweep.withinLimit_reaching (limit : Nat) {action : BillingM α}
    (runs : Runs now headcount (start.Reaches makes) action (fun _ => start.Reaches makes) (start.Reaches makes)) :
    Runs now headcount (start.Reaches makes) (Sweep.withinLimit limit action) (fun _ => start.Reaches makes)
      (start.Reaches makes) := by
  unfold Sweep.withinLimit
  refine Runs.catchHalt (Runs.map_reaching _ (Runs.timedSection limit (Runs.attempt_reaching runs)))
    (fun halt => ?_) fun _ reached => reached
  split
  · exact (Observes.pure _).reaching
  · exact Runs.throw _

theorem Invoicing.invoiceOf_observes (company id : Uuid) :
    Observes now headcount (Invoicing.invoiceOf company id) fun _ _ => True := by
  refine (Observes.andThen (fun _ _ _ => True) (Observes.readCall _ _ _ _ _ _) fun found => ?_).mono
    fun _ _ _ => trivial
  split
  · split
    · exact (Observes.pure _).mono fun _ _ _ => trivial
    · exact (Observes.failWith _).mono fun _ _ never => never.elim
  · exact (Observes.failWith _).mono fun _ _ never => never.elim

theorem Webhook.lookup_observes (payload : Webhook.Payload) :
    Observes now headcount (Webhook.lookup payload) fun _ _ => True := by
  unfold Webhook.lookup
  refine (Observes.andThen (fun _ _ _ => True) (Observes.readCall _ _ _ _ _ _) fun found => ?_).mono
    fun _ _ _ => trivial
  split
  · exact (Observes.pure _).mono fun _ _ _ => trivial
  · split
    · exact (Observes.pure _).mono fun _ _ _ => trivial
    · exact (Observes.andThen _ (Observes.readCall _ _ _ _ _ _) fun _ => Observes.pure _).mono fun _ _ _ => trivial

theorem Webhook.verifyToken_observes (token : Option String) :
    Observes now headcount (Webhook.verifyToken token) fun _ _ => True := by
  unfold Webhook.verifyToken
  refine (Observes.andThen (fun _ _ _ => True) Observes.config fun settings => ?_).mono fun _ _ _ => trivial
  dsimp only
  split
  · exact (Observes.failWith _).mono fun _ _ never => never.elim
  · exact (Observes.pure _).mono fun _ _ _ => trivial

variable (records : Allows makes start.config now headcount .record)
  (closes : Allows makes start.config now headcount .close)

include records closes

/-- Closing an invoice as expired or cancelled is one transition, then a lookup and a record. -/
theorem Invoicing.close_reaching (id : Uuid) (target : InvoiceStatus) (closing : target = .expired ∨ target = .cancelled)
    (actor : Actor) :
    Runs now headcount (start.Reaches makes) (Invoicing.close id target actor) (fun _ => start.Reaches makes)
      (start.Reaches makes) := by
  unfold Invoicing.close
  refine Runs.bind (Runs.wrote_anywhere (fun facts => Runs.transitionInvoice facts _ _ _)
    (fun store => closes store _ (.close id target closing)) fun _ => trivial) fun changed => ?_
  refine Runs.bind (Invoicing.require_observes id).reaching fun invoice => ?_
  split
  · refine Runs.bind Observes.clock.reaching fun at_ => ?_
    exact Runs.bind (EventLog.record_reaching records _ _ _ _ _ _ _) fun _ =>
      Runs.bind (Observes.emit _ _ _ _).reaching fun _ => (Observes.pure _).reaching
  · exact (Observes.pure _).reaching

theorem Invoicing.markExpired_reaching (id : Uuid) :
    Runs now headcount (start.Reaches makes) (Invoicing.markExpired id) (fun _ => start.Reaches makes)
      (start.Reaches makes) :=
  Invoicing.close_reaching records closes id .expired (.inl rfl) .provider

theorem Invoicing.markCancelled_reaching (id : Uuid) :
    Runs now headcount (start.Reaches makes) (Invoicing.markCancelled id) (fun _ => start.Reaches makes)
      (start.Reaches makes) :=
  Invoicing.close_reaching records closes id .cancelled (.inr rfl) .owner

theorem Invoicing.cancelPending_reaching (company id : Uuid) :
    Runs now headcount (start.Reaches makes) (Invoicing.cancelPending company id) (fun _ => start.Reaches makes)
      (start.Reaches makes) := by
  unfold Invoicing.cancelPending
  refine Runs.bind (Invoicing.invoiceOf_observes company id).reaching fun invoice => ?_
  extract_lets reread
  -- every way through ends by reading the invoice again
  have rereading : ∀ previous : Unit, Runs now headcount (start.Reaches makes) (reread previous)
      (fun _ => start.Reaches makes) (start.Reaches makes) := fun _ => (Invoicing.require_observes id).reaching
  split
  · exact Runs.bind (Invoicing.markCancelled_reaching records closes id) fun _ => rereading ()
  · exact rereading ()
  · exact (Observes.failWith_bind _ _ : Observes now headcount _ fun _ _ => True).reaching
  · exact (Observes.failWith_bind _ _ : Observes now headcount _ fun _ _ => True).reaching

/-- Each stale invoice is expired in a bounded section of its own, and the pass goes on. -/
theorem Invoicing.expireStale_reaching :
    Runs now headcount (start.Reaches makes) Invoicing.expireStale (fun _ => start.Reaches makes)
      (start.Reaches makes) := by
  unfold Invoicing.expireStale
  refine Runs.bind Observes.config.reaching fun settings => ?_
  refine Runs.bind Observes.clock.reaching fun at_ => ?_
  refine Runs.bind (Observes.orOverflow _).reaching fun cutoff => ?_
  refine Runs.bind (Observes.readCall _ _ _ _ _ _).reaching fun stale => ?_
  extract_lets visit
  have visiting : ∀ sweep invoice, Runs now headcount (start.Reaches makes) (visit sweep invoice)
      (fun _ => start.Reaches makes) (start.Reaches makes) := by
    intro sweep invoice
    dsimp only [visit]
    refine Runs.bind (Runs.catchHalt (Runs.map_reaching _ (Runs.timedSection _
      (Runs.attempt_reaching (Invoicing.markExpired_reaching records closes invoice.id)))) (fun halt => ?_)
      fun _ reached => reached) fun outcome => ?_
    · split
      · exact (Observes.pure _).reaching
      · exact Runs.throw _
    · split <;> first
        | exact (Observes.pure _).reaching
        | exact Runs.bind (Observes.emit _ _ _ _).reaching fun _ => (Observes.pure _).reaching
  refine Runs.bind (Runs.foldlM visit stale visiting _) fun sweep => ?_
  split
  · exact Runs.bind (Observes.emit _ _ _ _).reaching fun _ => (Observes.pure _).reaching
  · exact (Observes.pure _).reaching

variable (commits : Allows makes start.config now headcount (.revise .commit))
  (expires : Allows makes start.config now headcount .expire)

include commits expires

/-- A sweep expires stale invoices, commits due changes one by one, and runs the expiry pass;
each part only reports what it could not do. -/
theorem Sweep.run_reaching :
    Runs now headcount (start.Reaches makes) Sweep.run (fun _ => start.Reaches makes) (start.Reaches makes) := by
  have reporting : ∀ (message : String) (fields : List (String × String)) (report : Sweep.Report),
      Runs now headcount (start.Reaches makes) (emit .error Sweep.logTarget message fields >>= fun _ => Pure.pure report)
        (fun _ => start.Reaches makes) (start.Reaches makes) :=
    fun _ _ _ => Runs.bind (Observes.emit _ _ _ _).reaching fun _ => (Observes.pure _).reaching
  unfold Sweep.run
  dsimp only
  -- the stale invoices
  refine Runs.bind (?_ : Runs now headcount (start.Reaches makes) (Sweep.expireStaleInvoices _)
    (fun _ => start.Reaches makes) (start.Reaches makes)) fun report => ?_
  · unfold Sweep.expireStaleInvoices
    refine Runs.bind (Runs.attempt_reaching (Invoicing.expireStale_reaching records closes)) fun result => ?_
    split
    · exact (Observes.pure _).reaching
    · exact reporting _ _ _
  -- the due changes
  refine Runs.bind (?_ : Runs now headcount (start.Reaches makes) (Sweep.commitPendingChanges report)
    (fun _ => start.Reaches makes) (start.Reaches makes)) fun report => ?_
  · unfold Sweep.commitPendingChanges
    refine Runs.bind (Runs.attempt_reaching (Runs.bind Observes.clock.reaching fun _ =>
      (Observes.readCall _ _ _ _ _ _).reaching)) fun result => ?_
    split
    · exact reporting _ _ _
    · refine Runs.bind Observes.config.reaching fun settings => ?_
      refine Runs.foldlM _ _ (fun report subscription => ?_) _
      unfold Sweep.commitOne
      refine Runs.bind (Sweep.withinLimit_reaching _ (Runs.of_facts fun facts reached =>
        Ledger.commitPendingChange_reaches records commits reached subscription.id)) fun outcome => ?_
      split <;> first
        | exact (Observes.pure _).reaching
        | exact Runs.bind (Observes.emit _ _ _ _).reaching fun _ => (Observes.pure _).reaching
  -- the expiry pass, then the summary
  refine Runs.bind (?_ : Runs now headcount (start.Reaches makes) (Sweep.expireLapsed report)
    (fun _ => start.Reaches makes) (start.Reaches makes)) fun report => ?_
  · unfold Sweep.expireLapsed
    refine Runs.bind Observes.config.reaching fun settings => ?_
    refine Runs.bind (Sweep.withinLimit_reaching _ (Ledger.expireLapsed_reaching expires)) fun outcome => ?_
    split <;> first
      | exact (Observes.pure _).reaching
      | exact Runs.bind (Observes.emit _ _ _ _).reaching fun _ => (Observes.pure _).reaching
  refine Runs.bind (?_ : Runs now headcount (start.Reaches makes) (Sweep.logSummary report)
    (fun _ => start.Reaches makes) (start.Reaches makes)) fun _ => (Observes.pure _).reaching
  unfold Sweep.logSummary
  dsimp only
  split
  · exact (Observes.emit _ _ _ _).reaching
  · exact (Observes.emit _ _ _ _).reaching

end Closing

section Callbacks

variable {now : Moment} {headcount : List (Uuid × Int)} {makes : Store → Store.Write → Prop} {start : Facts}
  (records : Allows makes start.config now headcount .record)
  (closes : Allows makes start.config now headcount .close)
  (settles : Allows makes start.config now headcount .settle)

include records closes settles

/-- A callback settles the invoice it names or expires it, and otherwise only reads. -/
theorem Webhook.process_reaches (fresh : start.DrawsFresh) (payload : Webhook.Payload) :
    Runs now headcount (· = start) (Webhook.process payload) (fun _ => start.Reaches makes) (start.Reaches makes) := by
  unfold Webhook.process
  dsimp only
  split
  · exact (Observes.pure _).reaching_at (.refl start)
  refine Observes.bind_at (Webhook.lookup_observes payload) (fun found _ => ?_) (.refl start)
  split
  · split
    · exact (Observes.pure _).reaching_at (.refl start)
    split
    · -- a payment: the time it names, or the clock's
      split <;>
      first
        | refine Observes.bind_at (Observes.pure _) (fun paidAt _ => ?_) (.refl start)
        | refine Observes.bind_at Observes.clock (fun paidAt _ => ?_) (.refl start)
      all_goals
        refine Runs.bind (Ledger.settle_reaches records settles (.refl start) fresh _ _) fun outcome => ?_
        split <;> exact (Observes.pure _).reaching
    · refine Runs.bind ((Invoicing.markExpired_reaching records closes _).mono (fun _ same => by
        rw [same]; exact .refl start) (fun _ _ reached => reached) fun _ reached => reached) fun changed => ?_
      split <;> exact (Observes.pure _).reaching
    · exact (Observes.pure _).reaching_at (.refl start)
  · exact (Observes.pure _).reaching_at (.refl start)

theorem Webhook.handle_reaches (fresh : start.DrawsFresh) (token : Option String) (body : String) :
    Runs now headcount (· = start) (Webhook.handle token body) (fun _ => start.Reaches makes) (start.Reaches makes) := by
  unfold Webhook.handle
  refine Observes.bind_at (Webhook.verifyToken_observes token) (fun _ _ => ?_) (.refl start)
  split
  · exact Webhook.process_reaches records closes settles fresh _
  · exact (Observes.failWith _).reaching_at (.refl start)

end Callbacks

/-! ## Every trigger -/

/-- What sets the core to work: a public operation, a payment callback, or a sweep. -/
inductive Trigger where
  | operation (operation : Operation)
  | callback (token : Option String) (body : String)
  | sweep

namespace Trigger

/-- Runs the trigger; what it returns is dropped. -/
def perform : Trigger → BillingM Unit
  | operation action => action.perform
  | callback token body => Webhook.handle token body >>= fun _ => pure ()
  | sweep => Sweep.run >>= fun _ => pure ()

/-- The kinds of store calls a trigger makes. -/
def uses : Trigger → List WriteKind
  | operation (.startTrial ..) => [.trial, .record]
  | operation (.checkout ..) | operation (.upgrade ..) => [.bill, .setAside, .link, .record]
  | operation (.downgrade ..) => [.revise .downgrade, .record]
  | operation (.changeSeats ..) =>
    [.bill, .setAside, .link, .revise .raiseSeats, .revise .lowerSeats, .revise .keepSeats, .record]
  | operation (.cancel ..) => [.revise .cancel, .record]
  | operation (.cancelScheduledChange ..) => [.revise .withdraw, .record]
  | operation (.settle ..) => [.settle, .record]
  | operation (.commitPendingChange ..) => [.revise .commit, .record]
  | operation Operation.expireLapsed => [.expire]
  | operation (.createInvoice ..) => [.billDirect, .setAside, .link, .record]
  | operation (.markExpired ..) | operation (.markCancelled ..) | operation (.cancelPendingInvoice ..) =>
    [.close, .record]
  | callback .. => [.settle, .close, .record]
  | sweep => [.close, .revise .commit, .expire, .record]

end Trigger

/-- The store calls of the kinds in `uses`, each made as the core makes it, configured by
`settings`, at the clock reading `now`, with `headcount` active employees. -/
def CoreWrite.Of (settings : Config) (now : Moment) (headcount : List (Uuid × Int)) (uses : List WriteKind)
    (store : Store) (write : Store.Write) : Prop :=
  ∃ kind ∈ uses, CoreWrite settings now headcount store kind write

theorem Allows.of_mem {settings : Config} {now : Moment} {headcount : List (Uuid × Int)} {uses : List WriteKind}
    {kind : WriteKind} (used : kind ∈ uses) : Allows (CoreWrite.Of settings now headcount uses) settings now headcount kind :=
  fun _ _ made => ⟨kind, used, made⟩

/-- Whatever its outcome and whatever fault it meets, a trigger run on the records in memory
ends on facts reached from where it started by store calls of the kinds it uses, each made as
the core makes it on the store it meets, and each new record stored under an identifier the
store did not hold. -/
theorem Trigger.reaches (trigger : Trigger) (world : World) (inMemory : world.backend = .memory)
    (fresh : world.facts.DrawsFresh) :
    world.facts.Reaches (CoreWrite.Of world.config world.clock world.headcount trigger.uses)
      (trigger.perform.run.run world).2.facts := by
  have runs : Runs world.clock world.headcount (· = world.facts) trigger.perform
      (fun _ => world.facts.Reaches (CoreWrite.Of world.config world.clock world.headcount trigger.uses))
      (world.facts.Reaches (CoreWrite.Of world.config world.clock world.headcount trigger.uses)) := by
    have done : ∀ {α : Type} (action : BillingM α),
        Runs world.clock world.headcount (· = world.facts) action
          (fun _ => world.facts.Reaches (CoreWrite.Of world.config world.clock world.headcount trigger.uses))
          (world.facts.Reaches (CoreWrite.Of world.config world.clock world.headcount trigger.uses)) →
        Runs world.clock world.headcount (· = world.facts) (action >>= fun _ => Pure.pure ())
          (fun _ => world.facts.Reaches (CoreWrite.Of world.config world.clock world.headcount trigger.uses))
          (world.facts.Reaches (CoreWrite.Of world.config world.clock world.headcount trigger.uses)) :=
      fun _ runs => Runs.bind runs fun _ => (Observes.pure _).reaching
    -- each kind a trigger uses is allowed
    have allows : ∀ kind, kind ∈ trigger.uses →
        Allows (CoreWrite.Of world.config world.clock world.headcount trigger.uses) world.facts.config world.clock
          world.headcount kind := fun _ used => .of_mem used
    cases trigger with
    | operation operation =>
      cases operation with
      | startTrial company planId =>
        exact done _ (Ledger.startTrial_reaches (allows _ (by simp [Trigger.uses])) (allows _ (by simp [Trigger.uses]))
          fresh company planId)
      | checkout company planId seats =>
        exact done _ (Ledger.checkout_reaches (allows _ (by simp [Trigger.uses])) (allows _ (by simp [Trigger.uses]))
          (allows _ (by simp [Trigger.uses])) (allows _ (by simp [Trigger.uses])) fresh company planId seats)
      | upgrade company planId =>
        exact done _ (Ledger.upgrade_reaches (allows _ (by simp [Trigger.uses])) (allows _ (by simp [Trigger.uses]))
          (allows _ (by simp [Trigger.uses])) (allows _ (by simp [Trigger.uses])) fresh company planId)
      | downgrade company planId =>
        exact done _ (Ledger.downgrade_reaches (allows _ (by simp [Trigger.uses])) (allows _ (by simp [Trigger.uses]))
          company planId)
      | changeSeats company seats =>
        exact done _ (Ledger.changeSeats_reaches (allows _ (by simp [Trigger.uses])) (allows _ (by simp [Trigger.uses]))
          (allows _ (by simp [Trigger.uses])) (allows _ (by simp [Trigger.uses])) (allows _ (by simp [Trigger.uses]))
          (allows _ (by simp [Trigger.uses])) (allows _ (by simp [Trigger.uses])) fresh company seats)
      | cancel company =>
        exact done _ (Ledger.cancel_reaches (allows _ (by simp [Trigger.uses])) (allows _ (by simp [Trigger.uses]))
          company)
      | cancelScheduledChange company =>
        exact done _ (Ledger.cancelScheduledChange_reaches (allows _ (by simp [Trigger.uses]))
          (allows _ (by simp [Trigger.uses])) company)
      | settle invoice payment =>
        exact done _ (Ledger.settle_reaches (allows _ (by simp [Trigger.uses])) (allows _ (by simp [Trigger.uses]))
          (.refl _) fresh invoice payment)
      | commitPendingChange subscription =>
        exact done _ (Ledger.commitPendingChange_reaches (allows _ (by simp [Trigger.uses]))
          (allows _ (by simp [Trigger.uses])) (.refl _) subscription)
      | expireLapsed =>
        exact done _ ((Ledger.expireLapsed_reaching (allows _ (by simp [Trigger.uses]))).mono
          (fun _ same => by rw [same]; exact .refl _) (fun _ _ reached => reached) fun _ reached => reached)
      | createInvoice request =>
        exact done _ (Invoicing.createDirect_reaches (allows _ (by simp [Trigger.uses]))
          (allows _ (by simp [Trigger.uses])) (allows _ (by simp [Trigger.uses])) (allows _ (by simp [Trigger.uses]))
          fresh request)
      | markExpired invoice =>
        exact done _ ((Invoicing.markExpired_reaching (allows _ (by simp [Trigger.uses]))
          (allows _ (by simp [Trigger.uses])) invoice).mono (fun _ same => by rw [same]; exact .refl _)
          (fun _ _ reached => reached) fun _ reached => reached)
      | markCancelled invoice =>
        exact done _ ((Invoicing.markCancelled_reaching (allows _ (by simp [Trigger.uses]))
          (allows _ (by simp [Trigger.uses])) invoice).mono (fun _ same => by rw [same]; exact .refl _)
          (fun _ _ reached => reached) fun _ reached => reached)
      | cancelPendingInvoice company invoice =>
        exact done _ ((Invoicing.cancelPending_reaching (allows _ (by simp [Trigger.uses]))
          (allows _ (by simp [Trigger.uses])) company invoice).mono (fun _ same => by rw [same]; exact .refl _)
          (fun _ _ reached => reached) fun _ reached => reached)
    | callback token body =>
      exact done _ (Webhook.handle_reaches (allows _ (by simp [Trigger.uses])) (allows _ (by simp [Trigger.uses]))
        (allows _ (by simp [Trigger.uses])) fresh token body)
    | sweep =>
      exact done _ ((Sweep.run_reaching (allows _ (by simp [Trigger.uses])) (allows _ (by simp [Trigger.uses]))
        (allows _ (by simp [Trigger.uses])) (allows _ (by simp [Trigger.uses]))).mono
        (fun _ same => by rw [same]; exact .refl _) (fun _ _ reached => reached) fun _ reached => reached)
  exact (runs world ⟨inMemory, rfl, rfl⟩ rfl).2.1

end SeatBilling
