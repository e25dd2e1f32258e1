import SeatBilling.Proofs.Ledger.StatusMachine

/-!
# Paid capacity in the middle of a period

Upgrades take effect at once, while downgrades and seat decreases wait for the end of the
period. So, while a subscription's period has not ended, no trigger lowers its seat cap or
changes its plan (`SeatsKept`), with one exception: settling a paid invoice gives the
subscription the seats and the plan the invoice was priced for (`SettledFrom`), and these may
be fewer, or a lower tier, than it holds by then. A renewal checkout is priced at the seats the
plan includes, an upgrade at the seats the subscription had when it was asked for, and a
checkout that found no subscription of the company (as a faulty read reports) at whatever plan
it names.

Committing a waiting change, the one place meant to lower the plan or the seat cap, does so
only once the period has ended, only to the waiting values, and only when the live headcount
fits the new cap; otherwise the subscription stays exactly as it was (`CommittedOrKept`).
-/

namespace SeatBilling

open SeatBilling.Time

/-- Lowering the seats of the example company to three. -/
def loweringSeats : Trigger := .operation (.changeSeats Ledger.exampleCompany 3)

/-! ## Seat caps and plans between two states of a record -/

/-- While its period has not ended at `now`, the subscription `before` is stored still as
`after`, whose period has not ended either, with a seat cap no lower and the same plan. -/
def SeatsKept (now : Moment) (before after : Option Subscription) : Prop :=
  ∀ old, before = some old → now < old.periodEnd →
    ∃ new, after = some new ∧ now < new.periodEnd ∧ old.maxSeats ≤ new.maxSeats ∧ new.plan = old.plan

/-- The subscription `before` is stored still as `after`, of the same company, with the same
seat cap and plan, or with the seats and the plan of an invoice of the company pending in
`start`. -/
def SettledFrom (start : Store) (before after : Option Subscription) : Prop :=
  ∀ old, before = some old → ∃ new, after = some new ∧ new.company = old.company ∧
    (new.maxSeats = old.maxSeats ∧ new.plan = old.plan ∨
      ∃ invoice ∈ start.invoices, invoice.isPending = true ∧ invoice.company = old.company ∧
        new.maxSeats = invoice.seats ∧ new.plan = invoice.plan)

/-- The subscription `after` is `before`, or `before` with its waiting change committed: due by
`now`, to the plan waiting (found in the catalog of `store`) and the seat cap waiting, with
the live headcount fitting that cap, and nothing waiting any more. -/
def CommittedOrKept (store : Store) (now : Moment) (headcount : List (Uuid × Int))
    (before after : Option Subscription) : Prop :=
  after = before ∨ ∃ old targetPlan, before = some old ∧ old.hasPendingChange = true ∧ old.periodEnd ≤ now ∧
    store.plan? (old.pendingPlan.getD old.plan) = some targetPlan ∧
    activeEmployees headcount old.company ≤ old.committedSeats targetPlan ∧
    ∃ new, after = some new ∧ new.plan = targetPlan.id ∧ new.maxSeats = old.committedSeats targetPlan ∧
      new.hasPendingChange = false

namespace SeatsKept

variable {now : Moment}

theorem refl (stored : Option Subscription) : SeatsKept now stored stored :=
  fun old found running => ⟨old, found, running, Int.le_refl _, rfl⟩

theorem trans {first second third : Option Subscription} (firstSecond : SeatsKept now first second)
    (secondThird : SeatsKept now second third) : SeatsKept now first third := by
  intro old found running
  obtain ⟨middle, foundMiddle, runningMiddle, seatsMiddle, planMiddle⟩ := firstSecond old found running
  obtain ⟨new, foundNew, runningNew, seatsNew, planNew⟩ := secondThird middle foundMiddle runningMiddle
  exact ⟨new, foundNew, runningNew, Int.le_trans seatsMiddle seatsNew, planNew.trans planMiddle⟩

end SeatsKept

namespace SettledFrom

variable {start : Store}

theorem refl (stored : Option Subscription) : SettledFrom start stored stored :=
  fun old found => ⟨old, found, rfl, .inl ⟨rfl, rfl⟩⟩

theorem trans {first second third : Option Subscription} (firstSecond : SettledFrom start first second)
    (secondThird : SettledFrom start second third) : SettledFrom start first third := by
  intro old found
  obtain ⟨middle, foundMiddle, companyMiddle, middleFrom⟩ := firstSecond old found
  obtain ⟨new, foundNew, companyNew, newFrom⟩ := secondThird middle foundMiddle
  refine ⟨new, foundNew, companyNew.trans companyMiddle, ?_⟩
  -- the last settlement decides; a step that changes nothing passes the earlier one on
  rcases newFrom with ⟨sameSeats, samePlan⟩ | ⟨invoice, member, pending, company, seats, plan⟩
  · rcases middleFrom with ⟨middleSeats, middlePlan⟩ | ⟨invoice, member, pending, company, seats, plan⟩
    · exact .inl ⟨sameSeats.trans middleSeats, samePlan.trans middlePlan⟩
    · exact .inr ⟨invoice, member, pending, company, sameSeats.trans seats, samePlan.trans plan⟩
  · exact .inr ⟨invoice, member, pending, company.trans companyMiddle, seats, plan⟩

end SettledFrom

namespace CommittedOrKept

variable {store : Store} {now : Moment} {headcount : List (Uuid × Int)}

theorem refl (stored : Option Subscription) : CommittedOrKept store now headcount stored stored := .inl rfl

/-- A committed change leaves nothing waiting, so a second commit never follows it. -/
theorem trans {first second third : Option Subscription} (firstSecond : CommittedOrKept store now headcount first second)
    (secondThird : CommittedOrKept store now headcount second third) : CommittedOrKept store now headcount first third := by
  rcases secondThird with same | ⟨middle, targetPlan, foundMiddle, waiting, due, found, fits, committed⟩
  · rw [same]
    exact firstSecond
  · rcases firstSecond with earlier | ⟨_, _, _, _, _, _, _, new, foundNew, _, _, settled⟩
    · rw [← earlier]
      exact .inr ⟨middle, targetPlan, foundMiddle, waiting, due, found, fits, committed⟩
    · rw [foundNew, Option.some.injEq] at foundMiddle
      rw [← foundMiddle, settled] at waiting
      cases waiting

end CommittedOrKept

/-! ## Each step -/

section Steps

variable {settings : Config} {now : Moment} {headcount : List (Uuid × Int)} {store : Store}

/-- A revision keeps the seat cap from going down and the plan as it is while the period has
not ended: a commit waits for the end of the period, and the seat cap only rises. -/
theorem Revises.capacity {current next : Subscription} {revision : Revision}
    (revises : Revises settings now headcount store current revision next) (running : now < current.periodEnd) :
    current.maxSeats ≤ next.maxSeats ∧ next.plan = current.plan := by
  cases revises
  case raiseSeats _ _ _ more => exact ⟨Int.le_of_lt more, rfl⟩
  case commit _ _ _ _ due _ _ => exact absurd (Moment.lt_of_lt_of_le running due) (Int.lt_irrefl _)
  case commitRolling _ _ _ _ due _ _ _ => exact absurd (Moment.lt_of_lt_of_le running due) (Int.lt_irrefl _)
  all_goals exact ⟨Int.le_refl _, rfl⟩

/-- A record step that settles no invoice keeps the seat cap from going down and the plan as
it is while the period has not ended. -/
theorem RecordStep.seatsKept (period : 0 ≤ settings.period.seconds) {kind : WriteKind}
    {before after : Option Subscription} (unsettled : kind ≠ .settle)
    (step : RecordStep settings now headcount store kind before after) : SeatsKept now before after := by
  intro old found running
  subst found
  cases step with
  | keep => exact ⟨old, rfl, running, Int.le_refl _, rfl⟩
  | revise _ next _ revises =>
    have later : old.periodEnd ≤ next.periodEnd := revises.periodEnd_le period
    obtain ⟨seats, plan⟩ := revises.capacity running
    exact ⟨_, rfl, Moment.lt_of_lt_of_le running later, seats, plan⟩
  | settled => exact absurd rfl unsettled
  | expire statuses cutoff target _ _ =>
    refine ⟨_, rfl, ?_⟩
    unfold Store.expired
    split
    · exact ⟨running, Int.le_refl _, rfl⟩
    · exact ⟨running, Int.le_refl _, rfl⟩

/-- A settlement gives a subscription the seats and the plan of the invoice it settles, pending
in the store, or, for extra seats bought on a plan no longer in force, changes neither. -/
theorem RecordStep.settledFrom {before after : Option Subscription}
    (step : RecordStep settings now headcount store .settle before after) : SettledFrom store before after := by
  intro old found
  subst found
  cases step with
  | keep => exact ⟨old, rfl, rfl, .inl ⟨rfl, rfl⟩⟩
  | settled _ invoice _ _ revised found pending read revision =>
    have member : invoice ∈ store.invoices := List.mem_of_find?_eq_some found
    have company : old.company = invoice.company := by simpa using List.find?_some read
    refine ⟨_, rfl, revision.company_eq, ?_⟩
    cases revision
    case renew => exact .inr ⟨invoice, member, pending, company.symm, rfl, rfl⟩
    case switch => exact .inr ⟨invoice, member, pending, company.symm, rfl, rfl⟩
    case seats _ same => exact .inr ⟨invoice, member, pending, company.symm, rfl, same.symm⟩
    case stale => exact .inl ⟨rfl, rfl⟩

/-- Every pending invoice of `store` was pending in `start`, billing the same. -/
def Store.PendingFrom (start store : Store) : Prop :=
  ∀ invoice ∈ store.invoices, invoice.isPending = true →
    ∃ earlier ∈ start.invoices, earlier.isPending = true ∧ earlier.terms = invoice.terms

/-- On keyed records, the invoices pending since `start` under their identifiers come from its
pending invoices. -/
theorem Store.PendingSince.pendingFrom {start : Store} (keyed : store.Keyed) (since : start.PendingSince store) :
    start.PendingFrom store := by
  intro invoice member pending
  obtain ⟨earlier, found, earlierPending, sameTerms⟩ := since invoice.id invoice (keyed.invoice?_of_mem member) pending
  exact ⟨earlier, List.mem_of_find?_eq_some found, earlierPending, sameTerms⟩

/-- In a trigger that settles invoices, each step gives a subscription the seats and the plan
of an invoice pending at the start of the trigger, or keeps them. -/
theorem RecordStep.settledFrom_start {start : Store} {kind : WriteKind} {before after : Option Subscription}
    (closing : kind = .settle ∨ kind = .close ∨ kind = .record) (holding : start.PendingFrom store)
    (step : RecordStep settings now headcount store kind before after) : SettledFrom start before after := by
  rcases closing with rfl | rfl | rfl
  · intro old found
    obtain ⟨new, foundNew, company, kept⟩ := step.settledFrom old found
    refine ⟨new, foundNew, company, ?_⟩
    rcases kept with same | ⟨invoice, member, pending, invoiceCompany, seats, plan⟩
    · exact .inl same
    · obtain ⟨earlier, earlierMember, earlierPending, sameTerms⟩ := holding invoice member pending
      -- the invoice bills at the start what it bills when settled
      simp only [Invoice.terms, Prod.mk.injEq] at sameTerms
      obtain ⟨sameCompany, -, samePlan, sameSeats, -⟩ := sameTerms
      exact .inr ⟨earlier, earlierMember, earlierPending, sameCompany.trans invoiceCompany,
        seats.trans sameSeats.symm, plan.trans samePlan.symm⟩
  · cases step
    exact .refl _
  · cases step
    exact .refl _

/-- A commit, made only when due, to the waiting values and with the headcount fitting, leaves
nothing waiting. -/
theorem CommittedOrKept.of_commit {start : Store} {old new : Subscription} {targetPlan : Plan}
    (waiting : old.hasPendingChange = true) (due : old.periodEnd ≤ now)
    (found : start.plan? (old.pendingPlan.getD old.plan) = some targetPlan)
    (fits : activeEmployees headcount old.company ≤ old.committedSeats targetPlan) (plan : new.plan = targetPlan.id)
    (seats : new.maxSeats = old.committedSeats targetPlan) (cleared : new.hasPendingChange = false) :
    CommittedOrKept start now headcount (some old) (some new) :=
  .inr ⟨old, targetPlan, rfl, waiting, due, found, fits, new, rfl, plan, seats, cleared⟩

/-- A step of a commit keeps the subscription or commits its waiting change, on the catalog of
the start. -/
theorem RecordStep.committedOrKept {start : Store} {kind : WriteKind} {before after : Option Subscription}
    (committing : kind = .revise .commit ∨ kind = .record) (catalog : store.plans = start.plans)
    (step : RecordStep settings now headcount store kind before after) :
    CommittedOrKept start now headcount before after := by
  have onCatalog : ∀ {id : String} {plan : Plan}, store.plan? id = some plan → start.plan? id = some plan := by
    intro id plan found
    unfold Store.plan? at found ⊢
    rw [← catalog]
    exact found
  rcases committing with rfl | rfl
  · cases step with
    | keep => exact .refl _
    | revise _ _ _ revises =>
      cases revises
      case commit waiting _ _ due found fits => exact .of_commit waiting due (onCatalog found) fits rfl rfl rfl
      case commitRolling waiting _ due found fits _ => exact .of_commit waiting due (onCatalog found) fits rfl rfl rfl
  · cases step
    exact .refl _

end Steps

/-! ## Every trigger -/

/-- While a subscription's period has not ended, no trigger on the records in memory at the
clock reading `now` lowers its seat cap or changes its plan, whatever its outcome and whatever
fault it meets, except a trigger that settles paid invoices: that one may give it the seats and
the plan of an invoice of the company pending before, which may be fewer or of a lower tier.
And committing a waiting change commits it only once the period has ended, to the waiting plan
and seat cap, and only when the live headcount fits that cap; otherwise the subscription stays
exactly as it was. The records are keyed, new identifiers fresh and the period not negative. -/
theorem Trigger.keeps_paid_capacity (trigger : Trigger) (world : World) (inMemory : world.backend = .memory)
    (fresh : world.facts.DrawsFresh) (keyed : world.facts.store.Keyed) (period : 0 ≤ world.config.period.seconds)
    (id : Uuid) :
    (∀ old, world.facts.store.subscription? id = some old → world.clock < old.periodEnd →
      ∃ new, (trigger.perform.run.run world).2.facts.store.subscription? id = some new ∧
        (old.maxSeats ≤ new.maxSeats ∧ new.plan = old.plan ∨
          trigger.statusRole = .settles ∧ ∃ invoice ∈ world.facts.store.invoices, invoice.isPending = true ∧
            invoice.company = old.company ∧ new.maxSeats = invoice.seats ∧ new.plan = invoice.plan)) ∧
    (∀ subscription, trigger = .operation (.commitPendingChange subscription) →
      CommittedOrKept world.facts.store world.clock world.headcount (world.facts.store.subscription? id)
        ((trigger.perform.run.run world).2.facts.store.subscription? id)) := by
  obtain ⟨writes, made, reachedStore⟩ := (trigger.reaches world inMemory fresh).made
  rw [reachedStore]
  refine ⟨fun old found running => ?_, fun subscription committing => ?_⟩
  · by_cases settling : WriteKind.settle ∈ trigger.uses
    · -- a trigger that settles changes subscriptions by its settlements alone
      have closing := trigger.uses_of_settle settling
      have settled := made.records_of (fun store => store.Keyed ∧ world.facts.store.PendingSince store)
        (fun _ holding => holding.1)
        (fun store write ⟨kind, used, allowed⟩ _ holding =>
          ⟨holding.1.apply write, allowed.pendingSince (closing kind used) holding.2⟩)
        (SettledFrom world.facts.store) SettledFrom.refl (fun _ _ _ => SettledFrom.trans)
        (fun _ kind _ _ holding used step =>
          step.settledFrom_start (closing kind used) (holding.2.pendingFrom holding.1))
        ⟨keyed, .refl _⟩ id
      obtain ⟨new, foundNew, -, kept⟩ := settled old found
      refine ⟨new, foundNew, ?_⟩
      rcases kept with ⟨seats, plan⟩ | fromInvoice
      · exact .inl ⟨Int.le_of_eq seats.symm, plan⟩
      · exact .inr ⟨trigger.statusRole_of_uses.2.1 settling, fromInvoice⟩
    · have kept := made.records (SeatsKept world.clock) SeatsKept.refl (fun _ _ _ => SeatsKept.trans)
        (fun _ kind _ _ used step => step.seatsKept period fun same => settling (same ▸ used)) keyed id
      obtain ⟨new, foundNew, -, seats, plan⟩ := kept old found running
      exact ⟨new, foundNew, .inl ⟨seats, plan⟩⟩
  · subst committing
    exact made.records_of (fun store => store.Keyed ∧ store.plans = world.facts.store.plans)
      (fun _ holding => holding.1)
      (fun store write _ _ holding => ⟨holding.1.apply write, (Store.plans_apply store write).trans holding.2⟩)
      (CommittedOrKept world.facts.store world.clock world.headcount) CommittedOrKept.refl
      (fun _ _ _ => CommittedOrKept.trans)
      (fun _ _ _ _ holding used step => step.committedOrKept (by simpa [Trigger.uses] using used) holding.2)
      ⟨keyed, rfl⟩ id

/-- Lowering the seats of the January subscription to three on its first day leaves its seat
cap and plan in force. -/
theorem lowering_january_seats_keeps_capacity :
    januaryWorld.backend = .memory ∧ januaryWorld.facts.DrawsFresh ∧ januaryWorld.facts.store.Keyed ∧
      0 ≤ januaryWorld.config.period.seconds ∧
      ((∀ old, januaryWorld.facts.store.subscription? Uuid.nil = some old → januaryWorld.clock < old.periodEnd →
        ∃ new, (loweringSeats.perform.run.run januaryWorld).2.facts.store.subscription? Uuid.nil = some new ∧
          (old.maxSeats ≤ new.maxSeats ∧ new.plan = old.plan ∨
            loweringSeats.statusRole = .settles ∧ ∃ invoice ∈ januaryWorld.facts.store.invoices,
              invoice.isPending = true ∧ invoice.company = old.company ∧ new.maxSeats = invoice.seats ∧
              new.plan = invoice.plan)) ∧
        ∀ subscription, loweringSeats = .operation (.commitPendingChange subscription) →
          CommittedOrKept januaryWorld.facts.store januaryWorld.clock januaryWorld.headcount
            (januaryWorld.facts.store.subscription? Uuid.nil)
            ((loweringSeats.perform.run.run januaryWorld).2.facts.store.subscription? Uuid.nil)) :=
  have keyed : januaryWorld.facts.store.Keyed := ⟨List.nodup_singleton _, List.nodup_nil⟩
  ⟨rfl, januaryWorld_drawsFresh, keyed, by decide,
    Trigger.keeps_paid_capacity loweringSeats januaryWorld rfl januaryWorld_drawsFresh keyed (by decide) Uuid.nil⟩

/-- A pending checkout of the basic plan for the five seats it includes, of the example company. -/
def renewalInvoice : Invoice :=
  Invoicing.pendingInvoice ⟨Ledger.exampleCompany, some Uuid.nil, .checkout, "basic", 5, 10000, "basic plan, 5 seats"⟩
    (Uuid.ofSerial 7) Ledger.quietStart.clock Ledger.quietStart.clock

/-- The January world holding `subscription` and `renewalInvoice` alone. -/
def settlingWorld (subscription : Subscription) : World :=
  { januaryWorld with store := { januaryWorld.store with subscriptions := [subscription], invoices := [renewalInvoice] } }

/-- Settling `renewalInvoice`, paid at once. -/
def settlingRenewal : Trigger := .operation (.settle renewalInvoice.id ⟨Ledger.quietStart.clock, none, none⟩)

/-- Settling a checkout of the basic plan priced at its five seats lowers the seat cap of an
active subscription on the basic plan from twelve to five on the first day of its period, and
settled onto an active subscription to another plan (as when the checkout found no
subscription of the company) it moves it to the basic plan. -/
theorem settlements_lower_capacity_mid_period :
    januarySubscription.status = .active ∧ januaryWorld.clock < januarySubscription.periodEnd ∧
      ((settlingRenewal.perform.run.run (settlingWorld { januarySubscription with maxSeats := 12 })).2.store.subscription?
        Uuid.nil).map (fun kept => (kept.plan, kept.maxSeats, kept.status)) = some ("basic", 5, .active) ∧
      ((settlingRenewal.perform.run.run
          (settlingWorld { januarySubscription with plan := "pro", maxSeats := 25 })).2.store.subscription?
        Uuid.nil).map (fun kept => (kept.plan, kept.maxSeats, kept.status)) = some ("basic", 5, .active) :=
  ⟨rfl, by decide, rfl, rfl⟩

end SeatBilling
