import SeatBilling.Proofs.Ledger.Payments
import SeatBilling.Proofs.Ledger.PaidTime

/-!
# The write a payment makes, computed

`paidEffect` has a value whenever the period it computes ends in the calendar and the next
version fits its word, and that value is the write `PaidRevision` describes: the converse of
`paidEffect_update`. A checkout or an upgrade ends the period no earlier than the period paid
for ends and no earlier than the one in force; that is how prepaid time is kept.

Past the calendar's last years the period of a payment has no end, and `paidEffect` no value.
-/

namespace SeatBilling

open SeatBilling.Time

namespace Time.Moment

/-- Shifting a moment moves its instant by the span. -/
theorem instant_of_shift? {moment later : Moment} {span : Span} (shifted : moment.shift? span = some later) :
    later.instant = moment.instant + span.seconds * nanosPerSecond := by
  unfold shift? ofWall? at shifted
  split at shifted
  · cases shifted
    simp only [instant]
    omega
  · cases shifted

/-- Shifting two moments by one span keeps their order. -/
theorem shift?_le_shift? {first second firstLater secondLater : Moment} {span : Span} (before : first ≤ second)
    (firstShifted : first.shift? span = some firstLater) (secondShifted : second.shift? span = some secondLater) :
    firstLater ≤ secondLater := by
  rw [le_iff, instant_of_shift? firstShifted, instant_of_shift? secondShifted]
  exact Int.add_le_add_right before _

end Time.Moment

namespace PaidRevision

variable {period : Span} {paidAt : Moment} {invoice : Invoice} {current revised : Subscription}

/-- A checkout or an upgrade ends the period no earlier than the period paid for. -/
theorem paidEnd_le (revision : PaidRevision period paidAt invoice current revised)
    (bought : invoice.purpose ≠ .seatChange) {paidEnd : Moment} (paid : paidAt.shift? period = some paidEnd) :
    paidEnd ≤ revised.periodEnd := by
  cases revision
  case renew _ _ finish shifted =>
    exact Moment.shift?_le_shift? (Moment.le_latest_right current.periodEnd paidAt) paid shifted
  case switch _ finish shifted =>
    rw [paid, Option.some.injEq] at shifted
    rw [shifted]
    exact Moment.le_latest_left finish current.periodEnd
  case seats seatChange _ => exact absurd seatChange bought
  case stale seatChange _ => exact absurd seatChange bought

end PaidRevision

section Returns

variable (newId : Uuid) (invoice : Invoice) (paidAt now : Moment) (period : Span)

/-- With no subscription read, a payment whose period ends in the calendar opens one. -/
theorem paidEffect_opening {finish : Moment} (shifted : paidAt.shift? period = some finish) :
    paidEffect newId invoice none paidAt now period = some (.insert (invoice.opening newId paidAt finish now)) := by
  simp only [paidEffect, shifted]
  rfl

/-- A revision the payment makes of the subscription read is written over it, at the next
version, when that version fits its word. -/
theorem paidEffect_of_revision {current revised : Subscription}
    (revision : PaidRevision period paidAt invoice current revised) (roomy : Arith.fitsInt64 (current.version + 1) = true) :
    paidEffect newId invoice (some current) paidAt now period =
      some (.update { revised with updatedAt := now, version := current.version + 1 } current.version) := by
  have numbered : Arith.within64 (current.version + 1) = some (current.version + 1) :=
    Arith.within64_eq_some.mpr ⟨roomy, rfl⟩
  unfold paidEffect
  simp only [bind, pure]
  -- one case per way of revising; each picks its branch of the purpose and the plan comparison
  cases revision
  case renew checkout same finish shifted =>
    simp [checkout, same, shifted, numbered]
  case switch switching finish shifted =>
    rcases switching with ⟨checkout, other⟩ | upgrade
    · simp [checkout, other, shifted, numbered]
    · simp [upgrade, shifted, numbered]
  case seats seatChange same =>
    simp [seatChange, same, numbered]
  case stale seatChange other =>
    simp [seatChange, other, numbered]

end Returns

/-- What a payment buys. With no subscription read, a payment opens one, active on the invoice's
plan and seats with nothing waiting, for one period from payment, at version 0. Otherwise it is
written over the subscription read, at the next version: a checkout of the plan in force renews
it from the later of its period's end and the payment; a checkout of another plan or an upgrade
runs from payment to the later of one period on and the end in force; both make it active on the
invoice's plan and seats with nothing waiting; extra seats on the plan in force set the seat cap
and drop a waiting decrease, and for another plan change nothing. A checkout or an upgrade ends
the period no earlier than the period paid for and the one in force. Each holds while the period
computed ends in the calendar and the next version fits its word. -/
theorem paid_effect_applies_purchase (newId : Uuid) (invoice : Invoice) (paidAt now : Moment) {period : Span}
    (forward : 0 ≤ period.seconds) :
    (∀ finish, paidAt.shift? period = some finish →
      paidEffect newId invoice none paidAt now period = some (.insert (invoice.opening newId paidAt finish now))) ∧
    ∀ current : Subscription, Arith.fitsInt64 (current.version + 1) = true →
      let written := fun revised : Subscription =>
        some (SubscriptionWrite.update { revised with updatedAt := now, version := current.version + 1 } current.version)
      let bought := fun start finish : Moment =>
        { current.clearPending with
          status := .active, plan := invoice.plan, maxSeats := invoice.seats, periodStart := start, periodEnd := finish }
      (invoice.purpose = .checkout → current.plan = invoice.plan →
        ∀ finish, (current.periodEnd.latest paidAt).shift? period = some finish →
          paidEffect newId invoice (some current) paidAt now period =
            written (bought (current.periodEnd.latest paidAt) finish)) ∧
      (invoice.purpose = .checkout ∧ current.plan ≠ invoice.plan ∨ invoice.purpose = .upgrade →
        ∀ finish, paidAt.shift? period = some finish →
          paidEffect newId invoice (some current) paidAt now period =
            written (bought paidAt (finish.latest current.periodEnd))) ∧
      (invoice.purpose = .seatChange → invoice.plan = current.plan →
        paidEffect newId invoice (some current) paidAt now period =
          written { current with maxSeats := invoice.seats, pendingMaxSeats := none }) ∧
      (invoice.purpose = .seatChange → invoice.plan ≠ current.plan →
        paidEffect newId invoice (some current) paidAt now period = written current) ∧
      (invoice.purpose ≠ .seatChange → ∀ next version,
        paidEffect newId invoice (some current) paidAt now period = some (.update next version) →
        ∀ paidEnd, paidAt.shift? period = some paidEnd →
          current.periodEnd ≤ next.periodEnd ∧ paidEnd ≤ next.periodEnd) := by
  refine ⟨fun finish shifted => paidEffect_opening newId invoice paidAt now period shifted, fun current roomy => ?_⟩
  intro written bought
  refine ⟨fun checkout same finish shifted => ?_, fun switching finish shifted => ?_,
    fun seatChange same => ?_, fun seatChange other => ?_, fun notSeats next version made paidEnd paid => ?_⟩
  · exact paidEffect_of_revision newId invoice paidAt now period (.renew checkout same finish shifted) roomy
  · exact paidEffect_of_revision newId invoice paidAt now period (.switch switching finish shifted) roomy
  · exact paidEffect_of_revision newId invoice paidAt now period (.seats seatChange same) roomy
  · exact paidEffect_of_revision newId invoice paidAt now period (.stale seatChange other) roomy
  · -- the write made is a revision, whose period ends late enough
    obtain ⟨-, revised, revision, rfl⟩ := paidEffect_update made
    have inForce : current.periodEnd ≤ revised.periodEnd := revision.periodEnd_le forward
    have paidFor : paidEnd ≤ revised.periodEnd := revision.paidEnd_le notSeats paid
    exact ⟨inForce, paidFor⟩

/-- A checkout of the basic plan paid in the middle of January. -/
def midJanuary : Moment := ⟨(1767225600 + 14 * 86400) * nanosPerSecond, 0⟩

/-- Thirty days after the January period ends. -/
def januaryRenewalEnd : Moment := ⟨(1767225600 + 60 * 86400) * nanosPerSecond, 0⟩

/-- Paying in the middle of January for the plan in force stacks the new period after the
January one. -/
theorem january_renewal_stacks :
    0 ≤ Ledger.quietStart.config.period.seconds ∧
      paidEffect Uuid.nil (Ledger.examplePending (Uuid.ofSerial 1)) (some januarySubscription) midJanuary midJanuary
          Ledger.quietStart.config.period =
        some (.update { januarySubscription with
          periodStart := januarySubscription.periodEnd, periodEnd := januaryRenewalEnd, updatedAt := midJanuary,
          version := 1 } 0) := by
  have forward : 0 ≤ Ledger.quietStart.config.period.seconds := by decide
  have renewed := ((paid_effect_applies_purchase Uuid.nil (Ledger.examplePending (Uuid.ofSerial 1)) midJanuary
    midJanuary forward).2 januarySubscription (by decide)).1 rfl rfl januaryRenewalEnd (by decide)
  exact ⟨forward, renewed⟩

/-- The last day of the calendar. -/
def lastCalendarDay : Moment := ⟨Moment.wallMax + 1 - nanosPerDay, 0⟩

/-- A payment on the last day of the calendar opens nothing: its period would end past it. -/
theorem paid_effect_fails_past_calendar :
    paidEffect Uuid.nil (Ledger.examplePending (Uuid.ofSerial 1)) none lastCalendarDay lastCalendarDay
      Ledger.quietStart.config.period = none := by
  decide

end SeatBilling
