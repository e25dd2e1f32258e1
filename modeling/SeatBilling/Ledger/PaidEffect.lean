import SeatBilling.Ledger.Subscription
import SeatBilling.Ledger.Invoice
import SeatBilling.Arith.Checked

/-!
# What a paid invoice buys

`paidEffect` is the subscription state after an invoice is paid at `paidAt`, given the
company's subscription as read just before (if any). Prepaid time is never dropped:

- With no subscription, a new active one on the invoice's plan and seats, for one period
  from `paidAt`.
- A checkout for the current plan renews: the new period starts at the later of the
  current period's end and `paidAt`.
- A checkout for another plan, and an upgrade, start at `paidAt` and end at the later of one
  period after `paidAt` and the current period's end.
- Checkouts and upgrades make the subscription active on the invoice's plan and seats and
  drop any waiting change.
- A seat increase for the current plan sets the seat cap and drops a waiting seat decrease;
  one priced for another plan changes nothing but the update time.

Of two equal instants, "the later" is the second one named. The result has no value when a
period end leaves the calendar or the version leaves its word.
-/

namespace SeatBilling

open SeatBilling.Time

/-- The write that settles `invoice`, paid at `paidAt` with the clock at `now`; a new
subscription gets the id `newId`. -/
def paidEffect (newId : Uuid) (invoice : Invoice) (current : Option Subscription)
    (paidAt now : Moment) (period : Span) : Option SubscriptionWrite := do
  match current with
  | none =>
    let periodEnd ← paidAt.shift? period
    pure (.insert
      { id := newId, company := invoice.company, plan := invoice.plan, status := .active,
        maxSeats := invoice.seats, pendingMaxSeats := none, pendingPlan := none,
        periodStart := paidAt, periodEnd := periodEnd, createdAt := now, updatedAt := now,
        version := 0 })
  | some current =>
    let next ← match invoice.purpose with
      | .checkout => do
        let (start, finish) ←
          if current.plan == invoice.plan then do
            let start := current.periodEnd.latest paidAt
            pure (start, ← start.shift? period)
          else do
            pure (paidAt, (← paidAt.shift? period).latest current.periodEnd)
        pure { current.clearPending with
          status := .active, plan := invoice.plan,
          maxSeats := invoice.seats, periodStart := start, periodEnd := finish }
      | .upgrade => do
        let finish := (← paidAt.shift? period).latest current.periodEnd
        pure { current.clearPending with
          status := .active, plan := invoice.plan,
          maxSeats := invoice.seats, periodStart := paidAt, periodEnd := finish }
      | .seatChange =>
        if invoice.plan == current.plan then
          pure { current with maxSeats := invoice.seats, pendingMaxSeats := none }
        else pure current
    let version ← Arith.within64 (current.version + 1)
    pure (.update { next with updatedAt := now, version := version } current.version)

end SeatBilling
