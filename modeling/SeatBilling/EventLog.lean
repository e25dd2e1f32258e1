import SeatBilling.Calls

/-!
# Writing the event log

Every change of a subscription or an invoice appends an event. Writing an event never fails
the operation that produced it: a failure of the write is logged as a warning and dropped.
-/

namespace SeatBilling.EventLog

open SeatBilling.Time

/-- Appends an event of `kind` by `actor` about a company, at `at_`; a failure to write it is
logged and dropped. -/
def record (company : Uuid) (kind : EventKind) (actor : Actor) (subscription invoice : Option Uuid)
    (data : Json) (at_ : Moment) : BillingM Unit := do
  let id ← freshId
  catchFailure (Calls.appendEvent ⟨id, company, subscription, invoice, kind, actor, data, at_⟩)
    (fun failure => emit .warn "hrcore_billing::events" "Failed to log billing event"
      [("company_id", company.hyphenated), ("event_type", Log.quoted kind.name), ("error", failure.message)])

end SeatBilling.EventLog
