import SeatBilling.Proofs.Webhook.DeliverySteps

/-!
# What a paid invoice buys

`paidEffect` computes the write that settles a paid invoice. With no subscription of the
company read it opens one, active, for one period from payment. With one read it revises it in
one of four ways (`PaidRevision`): a checkout of the plan in force renews it, the new period
starting when the paid one ends or at payment, whichever is later; a checkout of another plan
or an upgrade starts a period at payment that ends no earlier than the one paid; extra seats
on the plan in force take effect at once; extra seats bought for a plan no longer in force
change nothing.

The laws of the ledger read these descriptions and never open `paidEffect` again.
-/

namespace SeatBilling

open SeatBilling.Time

/-! ## Moments in order -/

namespace Time.Moment

theorem le_refl (moment : Moment) : moment ≤ moment := Int.le_refl _

theorem le_trans {first second third : Moment} (firstSecond : first ≤ second) (secondThird : second ≤ third) :
    first ≤ third :=
  Int.le_trans firstSecond secondThird

theorem lt_of_lt_of_le {first second third : Moment} (firstSecond : first < second) (secondThird : second ≤ third) :
    first < third :=
  Int.lt_of_lt_of_le firstSecond secondThird

/-- A span that is not negative moves a moment no earlier. -/
theorem le_of_shift? {moment later : Moment} {span : Span} (forward : 0 ≤ span.seconds)
    (shifted : moment.shift? span = some later) : moment ≤ later := by
  unfold shift? ofWall? at shifted
  split at shifted
  · cases shifted
    simp only [le_iff, instant, nanosPerSecond]
    omega
  · cases shifted

/-- A span that is not negative moves a moment back no later. -/
theorem le_of_unshift? {moment earlier : Moment} {span : Span} (forward : 0 ≤ span.seconds)
    (unshifted : moment.unshift? span = some earlier) : earlier ≤ moment := by
  unfold unshift? ofWall? at unshifted
  split at unshifted
  · cases unshifted
    simp only [le_iff, instant, nanosPerSecond]
    omega
  · cases unshifted

end Time.Moment

/-! ## Payments -/

/-- The first subscription of the company an invoice bills, opened by its payment at `paidAt`
for a period ending at `finish`, written at `now` under identifier `id`. -/
def Invoice.opening (invoice : Invoice) (id : Uuid) (paidAt finish now : Moment) : Subscription :=
  { id := id, company := invoice.company, plan := invoice.plan, status := .active, maxSeats := invoice.seats,
    pendingMaxSeats := none, pendingPlan := none, periodStart := paidAt, periodEnd := finish,
    createdAt := now, updatedAt := now, version := 0 }

/-- How the payment of `invoice` at `paidAt` revises the subscription `current` it settles
onto, for periods of length `period` (the time of writing and the version apart). -/
inductive PaidRevision (period : Span) (paidAt : Moment) (invoice : Invoice) (current : Subscription) :
    Subscription → Prop
  /-- A checkout of the plan in force renews it. -/
  | renew (checkout : invoice.purpose = .checkout) (same : current.plan = invoice.plan) (finish : Moment)
      (shifted : (current.periodEnd.latest paidAt).shift? period = some finish) :
      PaidRevision period paidAt invoice current
        { current.clearPending with
          status := .active, plan := invoice.plan, maxSeats := invoice.seats,
          periodStart := current.periodEnd.latest paidAt, periodEnd := finish }
  /-- A checkout of another plan, or an upgrade, starts a period at payment. -/
  | switch (switching : invoice.purpose = .checkout ∧ current.plan ≠ invoice.plan ∨ invoice.purpose = .upgrade)
      (finish : Moment) (shifted : paidAt.shift? period = some finish) :
      PaidRevision period paidAt invoice current
        { current.clearPending with
          status := .active, plan := invoice.plan, maxSeats := invoice.seats,
          periodStart := paidAt, periodEnd := finish.latest current.periodEnd }
  /-- Extra seats on the plan in force take effect, dropping a waiting decrease. -/
  | seats (seatChange : invoice.purpose = .seatChange) (same : invoice.plan = current.plan) :
      PaidRevision period paidAt invoice current { current with maxSeats := invoice.seats, pendingMaxSeats := none }
  /-- Extra seats bought for a plan no longer in force change nothing. -/
  | stale (seatChange : invoice.purpose = .seatChange) (other : invoice.plan ≠ current.plan) :
      PaidRevision period paidAt invoice current current

namespace PaidRevision

variable {period : Span} {paidAt : Moment} {invoice : Invoice} {current revised : Subscription}

theorem id_eq (revision : PaidRevision period paidAt invoice current revised) : revised.id = current.id := by
  cases revision <;> rfl

theorem company_eq (revision : PaidRevision period paidAt invoice current revised) :
    revised.company = current.company := by
  cases revision <;> rfl

/-- A payment ends the period no earlier: a renewal starts when the paid period ends or later, a
switch ends no earlier than the paid period, and extra seats keep the period. -/
theorem periodEnd_le (forward : 0 ≤ period.seconds) (revision : PaidRevision period paidAt invoice current revised) :
    current.periodEnd ≤ revised.periodEnd := by
  cases revision
  case renew _ _ finish shifted =>
    exact Moment.le_trans (Moment.le_latest_left current.periodEnd paidAt) (Moment.le_of_shift? forward shifted)
  case switch _ finish _ => exact Moment.le_latest_right finish current.periodEnd
  case seats => exact Moment.le_refl _
  case stale => exact Moment.le_refl _

/-- A checkout or an upgrade makes the subscription active; extra seats keep its status. -/
theorem status_cases (revision : PaidRevision period paidAt invoice current revised) :
    revised.status = .active ∧ (invoice.purpose = .checkout ∨ invoice.purpose = .upgrade) ∨
      revised.status = current.status ∧ invoice.purpose = .seatChange := by
  cases revision
  case renew checkout _ _ _ => exact .inl ⟨rfl, .inl checkout⟩
  case switch switching _ _ => exact .inl ⟨rfl, switching.imp And.left id⟩
  case seats seatChange _ => exact .inr ⟨rfl, seatChange⟩
  case stale seatChange _ => exact .inr ⟨rfl, seatChange⟩

end PaidRevision

section Effects

variable {newId : Uuid} {invoice : Invoice} {paidAt now : Moment} {period : Span}

/-- The last step of a settlement of a stored subscription: the revised record, stamped with the
version after the one read. -/
theorem update_stamped {current next : Subscription} {stamp : Int → Subscription} {version : Int}
    (wrote : ((Arith.within64 (current.version + 1)).bind fun counted =>
      some (SubscriptionWrite.update (stamp counted) current.version)) = some (.update next version)) :
    version = current.version ∧ next = stamp (current.version + 1) := by
  cases within : Arith.within64 (current.version + 1) with
  | none => simp [within] at wrote
  | some counted =>
    simp only [within, Option.bind_some, Option.some.injEq, SubscriptionWrite.update.injEq] at wrote
    obtain ⟨written, sameVersion⟩ := wrote
    obtain ⟨-, next⟩ := Arith.within64_eq_some.mp within
    subst next
    exact ⟨sameVersion.symm, written.symm⟩

/-- A settlement of a subscription read writes it back revised as `PaidRevision` says, at the
version after the one read. -/
theorem paidEffect_update {current next : Subscription} {version : Int}
    (made : paidEffect newId invoice (some current) paidAt now period = some (.update next version)) :
    version = current.version ∧ ∃ revised, PaidRevision period paidAt invoice current revised ∧
      next = { revised with updatedAt := now, version := current.version + 1 } := by
  unfold paidEffect at made
  simp only [bind, pure] at made
  -- one case per purpose of the invoice, and per comparison of its plan with the one in force
  split at made
  · rename_i checkout
    split at made
    · rename_i samePlan
      cases shifted : (current.periodEnd.latest paidAt).shift? period with
      | none => simp [shifted] at made
      | some finish =>
        simp only [shifted, Option.bind_some] at made
        obtain ⟨sameVersion, written⟩ := update_stamped made
        exact ⟨sameVersion, _, .renew checkout (beq_iff_eq.mp samePlan) finish shifted, written⟩
    · rename_i otherPlan
      cases shifted : paidAt.shift? period with
      | none => simp [shifted] at made
      | some finish =>
        simp only [shifted, Option.bind_some] at made
        obtain ⟨sameVersion, written⟩ := update_stamped made
        exact ⟨sameVersion, _, .switch (.inl ⟨checkout, by simpa using otherPlan⟩) finish shifted, written⟩
  · rename_i upgrade
    cases shifted : paidAt.shift? period with
    | none => simp [shifted] at made
    | some finish =>
      simp only [shifted, Option.bind_some] at made
      obtain ⟨sameVersion, written⟩ := update_stamped made
      exact ⟨sameVersion, _, .switch (.inr upgrade) finish shifted, written⟩
  · rename_i seatChange
    split at made
    · rename_i samePlan
      simp only [Option.bind_some] at made
      obtain ⟨sameVersion, written⟩ := update_stamped made
      exact ⟨sameVersion, _, .seats seatChange (beq_iff_eq.mp samePlan), written⟩
    · rename_i otherPlan
      simp only [Option.bind_some] at made
      obtain ⟨sameVersion, written⟩ := update_stamped made
      exact ⟨sameVersion, _, .stale seatChange (by simpa using otherPlan), written⟩

/-- A settlement with no subscription read opens the company's first one. -/
theorem paidEffect_insert {current : Option Subscription} {created : Subscription}
    (made : paidEffect newId invoice current paidAt now period = some (.insert created)) :
    current = none ∧ ∃ finish, paidAt.shift? period = some finish ∧
      created = invoice.opening newId paidAt finish now := by
  cases current with
  | some current =>
    obtain ⟨_, wrong, -⟩ := Webhook.paidEffect_some made
    cases wrong
  | none =>
    unfold paidEffect at made
    cases shifted : paidAt.shift? period with
    | none => simp [shifted] at made
    | some finish =>
      simp only [shifted] at made
      exact ⟨rfl, finish, rfl, (SubscriptionWrite.insert.inj (Option.some.inj made)).symm⟩

end Effects

end SeatBilling
