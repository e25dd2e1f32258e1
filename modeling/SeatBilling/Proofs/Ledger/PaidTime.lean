import SeatBilling.Proofs.Ledger.RecordSteps
import SeatBilling.Proofs.Ledger.RacingCheckouts

/-!
# Paid time is never taken back

Access is lost only as time passes. Whatever a trigger does on the records while the clock reads
`now`, and whatever fault it meets, the subscription stored under each identifier stays stored,
its period ends no earlier than before, and at every instant from `now` on at which it granted
access it still does (`KeepsAccess`). A renewal starts when the paid period ends or later, a
change of plan ends no earlier than the paid period, a committed change rolls the period
forward, a cancellation keeps the period, and the expiry pass expires only subscriptions whose
period ended before `now`.

Two settings carry this, and the code checks neither: a period that is not negative, and a grace
period that is not negative, so that the cutoff of the expiry pass lies at `now` or before it.
-/

namespace SeatBilling

open SeatBilling.Time

/-- The subscription `after` keeps what `before` was paid for, from the clock reading `now` on:
it is stored still, its period ends no earlier, and it grants access at every instant from `now`
on at which `before` did. -/
def KeepsAccess (now : Moment) (before after : Option Subscription) : Prop :=
  ∀ old, before = some old → ∃ new, after = some new ∧ old.periodEnd ≤ new.periodEnd ∧
    ∀ instant, now ≤ instant → old.grantsAccess instant = true → new.grantsAccess instant = true

namespace KeepsAccess

variable {now : Moment}

theorem refl (stored : Option Subscription) : KeepsAccess now stored stored :=
  fun old found => ⟨old, found, Moment.le_refl _, fun _ _ grants => grants⟩

theorem trans {first second third : Option Subscription} (firstSecond : KeepsAccess now first second)
    (secondThird : KeepsAccess now second third) : KeepsAccess now first third := by
  intro old found
  obtain ⟨middle, foundMiddle, laterMiddle, grantsMiddle⟩ := firstSecond old found
  obtain ⟨new, foundNew, laterNew, grantsNew⟩ := secondThird middle foundMiddle
  exact ⟨new, foundNew, Moment.le_trans laterMiddle laterNew,
    fun instant fromNow grants => grantsNew instant fromNow (grantsMiddle instant fromNow grants)⟩

/-- A subscription revised into one whose period ends no earlier, and that is not expired
unless it was, keeps access. -/
theorem of_later {old new : Subscription} (later : old.periodEnd ≤ new.periodEnd)
    (live : new.status.isTerminal = false ∨ new.status = old.status) : KeepsAccess now (some old) (some new) := by
  rintro _ ⟨⟩
  refine ⟨new, rfl, later, fun instant _ grants => ?_⟩
  simp only [Subscription.grantsAccess, Bool.and_eq_true, Bool.not_eq_true', decide_eq_true_eq] at grants ⊢
  obtain ⟨oldLive, within⟩ := grants
  refine ⟨?_, Moment.lt_of_lt_of_le within later⟩
  rcases live with newLive | sameStatus
  · exact newLive
  · rw [sameStatus]
    exact oldLive

/-- A subscription whose period ended before `now` grants no access from `now` on, so keeping
its period end keeps access, whatever its status becomes. -/
theorem of_lapsed {old new : Subscription} (lapsed : old.periodEnd < now) (later : old.periodEnd ≤ new.periodEnd) :
    KeepsAccess now (some old) (some new) := by
  rintro _ ⟨⟩
  refine ⟨new, rfl, later, fun instant fromNow grants => ?_⟩
  simp only [Subscription.grantsAccess, Bool.and_eq_true, decide_eq_true_eq] at grants
  -- the instant would lie before the end of the period, hence before `now`
  have early : instant < now := Moment.lt_of_lt_of_le (Int.lt_trans grants.2 lapsed) (Moment.le_refl now)
  exact absurd fromNow (Int.not_le.mpr early)

end KeepsAccess

/-! ## Each step keeps access -/

section Steps

variable {settings : Config} {now : Moment} {headcount : List (Uuid × Int)} {store : Store}

/-- An expiry move keeps access: it expires only subscriptions whose period ended before its
cutoff, which lies at `now` or before it, and a subscription past due keeps access. -/
theorem ExpiryMove.keepsAccess (grace : 0 ≤ settings.gracePeriod.seconds) {statuses : List SubscriptionStatus}
    {cutoff : Moment} {target : SubscriptionStatus} (move : ExpiryMove settings now statuses cutoff target)
    (stored : Subscription) : KeepsAccess now (some stored) (some (Store.expired statuses cutoff target now stored)) := by
  unfold Store.expired
  split
  · rename_i expires
    have lapsed : stored.periodEnd < cutoff := by
      simp only [Store.expires, Bool.and_eq_true, decide_eq_true_eq] at expires
      exact expires.2
    cases move with
    | cancelled => exact .of_lapsed lapsed (Moment.le_refl _)
    | unpaid cutoff shifted =>
      exact .of_lapsed (Moment.lt_of_lt_of_le lapsed (Moment.le_of_unshift? grace shifted)) (Moment.le_refl _)
    | pastDue => exact .of_later (Moment.le_refl _) (.inl rfl)
  · exact .refl _

/-- Every record step keeps access, for a period and a grace period that are not negative. -/
theorem RecordStep.keepsAccess (period : 0 ≤ settings.period.seconds) (grace : 0 ≤ settings.gracePeriod.seconds)
    {kind : WriteKind} {before after : Option Subscription}
    (step : RecordStep settings now headcount store kind before after) : KeepsAccess now before after := by
  cases step with
  | keep => exact .refl _
  | start => rintro _ ⟨⟩
  | revise current next revision revises =>
    have later : current.periodEnd ≤ next.periodEnd := revises.periodEnd_le period
    refine .of_later later ?_
    show next.status.isTerminal = false ∨ next.status = current.status
    rcases revises.status_cases with same | ⟨-, cancelled, -⟩
    · exact .inr same
    · rw [cancelled]
      exact .inl rfl
  | opened => rintro _ ⟨⟩
  | settled _ _ _ current revised _ _ _ revision =>
    have later : current.periodEnd ≤ revised.periodEnd := revision.periodEnd_le period
    refine .of_later later ?_
    show revised.status.isTerminal = false ∨ revised.status = current.status
    rcases revision.status_cases with ⟨active, -⟩ | ⟨same, -⟩
    · rw [active]
      exact .inl rfl
    · exact .inr same
  | expire statuses cutoff target move stored => exact move.keepsAccess grace stored

end Steps

/-! ## Every trigger keeps access -/

/-- Access is lost only as time passes: whatever a trigger does on the records in memory while
the clock reads `now`, whatever its outcome and whatever fault it meets, the subscription stored
under each identifier stays stored, its period ends no earlier, and at every instant from `now`
on at which it granted access it still does, for a period and a grace period that are not
negative. The records are keyed and new identifiers fresh, as in every store the core reaches. -/
theorem Trigger.keeps_paid_access (trigger : Trigger) (world : World) (inMemory : world.backend = .memory)
    (fresh : world.facts.DrawsFresh) (keyed : world.facts.store.Keyed)
    (period : 0 ≤ world.config.period.seconds) (grace : 0 ≤ world.config.gracePeriod.seconds) (id : Uuid) :
    KeepsAccess world.clock (world.facts.store.subscription? id)
      ((trigger.perform.run.run world).2.facts.store.subscription? id) :=
  trigger.records world inMemory fresh keyed (KeepsAccess world.clock) KeepsAccess.refl
    (fun _ _ _ => KeepsAccess.trans) (fun _ _ _ _ _ step => step.keepsAccess period grace) id

/-- A subscription of the example company to the basic plan, active through January 2026,
stored under the nil identifier, which no fresh identifier takes. -/
def januarySubscription : Subscription :=
  { id := Uuid.nil, company := Ledger.exampleCompany, plan := "basic", status := .active, maxSeats := 5,
    pendingMaxSeats := none, pendingPlan := none, periodStart := Ledger.quietStart.clock,
    periodEnd := ⟨(1767225600 + 30 * 86400) * nanosPerSecond, 0⟩, createdAt := Ledger.quietStart.clock,
    updatedAt := Ledger.quietStart.clock, version := 0 }

/-- The quiet world of the examples, with `januarySubscription` stored. -/
def januaryWorld : World :=
  { Ledger.quietStart with store := { Ledger.quietStart.store with subscriptions := [januarySubscription] } }

/-- A drawn identifier carries its version nibble, so it is none of the identifiers below it. -/
theorem Uuid.ofSerial_ne_of_lt {bits : Nat} (small : bits < Nat.pow 2 76) (serial : Nat) :
    Uuid.ofSerial serial ≠ ⟨bits⟩ := by
  intro same
  have sameBits := congrArg Uuid.bits same
  simp only [Uuid.ofSerial, Nat.pow_eq] at sameBits small
  omega

theorem Uuid.ofSerial_ne_nil (serial : Nat) : Uuid.ofSerial serial ≠ Uuid.nil :=
  Uuid.ofSerial_ne_of_lt (by decide) serial

theorem januaryWorld_drawsFresh : januaryWorld.facts.DrawsFresh := by
  intro serial _
  refine ⟨fun subscription member => ?_, fun invoice member => absurd member List.not_mem_nil⟩
  rw [List.mem_singleton.mp member]
  exact (Uuid.ofSerial_ne_nil serial).symm

/-- Cancelling the January subscription on its first day keeps its access through January. -/
theorem cancelling_keeps_january :
    januaryWorld.backend = .memory ∧ januaryWorld.facts.DrawsFresh ∧ januaryWorld.facts.store.Keyed ∧
      0 ≤ januaryWorld.config.period.seconds ∧ 0 ≤ januaryWorld.config.gracePeriod.seconds ∧
      KeepsAccess januaryWorld.clock (januaryWorld.facts.store.subscription? Uuid.nil)
        (((Trigger.operation (.cancel Ledger.exampleCompany)).perform.run.run januaryWorld).2.facts.store.subscription?
          Uuid.nil) :=
  have keyed : januaryWorld.facts.store.Keyed := ⟨List.nodup_singleton _, List.nodup_nil⟩
  ⟨rfl, januaryWorld_drawsFresh, keyed, by decide, by decide,
    Trigger.keeps_paid_access _ januaryWorld rfl januaryWorld_drawsFresh keyed (by decide) (by decide) Uuid.nil⟩

end SeatBilling
