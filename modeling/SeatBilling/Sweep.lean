import SeatBilling.Ledger.Operations

/-!
# The sweep

One sweep runs three steps in order, each on its own:

1. expire the pending invoices older than the invoice life;
2. commit the waiting plan and seat changes whose period has ended;
3. move lapsed subscriptions to past due or expired.

A record that fails is reported and the sweep goes on. Each record of the second step, and
the whole third step, gets a bounded time; running out of it is reported as `timed out`.
Every failure is also logged, and the sweep ends with a summary record: an information when it
was clean, a warning with the counts of stuck changes and failures when it was not.
-/

namespace SeatBilling.Sweep

open SeatBilling.Time

/-- A step of the sweep. -/
inductive Step where
  | staleInvoices
  | pendingChanges
  | expiry
  deriving DecidableEq, Repr

/-- The name of a step, as a report shows it. -/
def Step.name : Step → String
  | .staleInvoices => "stale_invoices"
  | .pendingChanges => "pending_changes"
  | .expiry => "expiry"

/-- A record a step could not handle, or the whole step when there is no record. -/
structure StepFailure where
  step : Step
  record : Option Uuid
  error : String
  deriving DecidableEq, Repr

/-- A waiting change that cannot be committed: the company has more active employees than the
new seat cap allows. -/
structure StuckChange where
  subscription : Uuid
  company : Uuid
  pendingPlan : Option String
  pendingMaxSeats : Option Int
  activeEmployees : Int
  newMaxSeats : Int
  deriving DecidableEq, Repr

/-- What one sweep did. -/
structure Report where
  invoicesExpired : Nat
  changesCommitted : Nat
  stuckPending : List StuckChange
  expiry : Ledger.ExpiryCounts
  failures : List StepFailure
  deriving DecidableEq, Repr

/-- Whether the sweep met no failure and no stuck change. -/
def Report.isClean (report : Report) : Bool := report.failures.isEmpty && report.stuckPending.isEmpty

/-- The report with one more failure. -/
def Report.fail (report : Report) (step : Step) (record : Option Uuid) (error : String) : Report :=
  { report with failures := report.failures ++ [⟨step, record, error⟩] }

/-- The part of the core a sweep logs as. -/
def logTarget : String := "hrcore_billing::scheduler"

/-- Runs an action in a timed section of `limit` seconds: its value, its failure, or nothing
when it ran out of time. -/
def withinLimit {α : Type} (limit : Nat) (action : BillingM α) : BillingM (Option (Except Failure α)) :=
  tryCatch (some <$> timedSection limit (attempt action)) fun halt =>
    match halt with
    | .elapsed => pure none
    | other => throw other

/-- The first step: expire stale invoices. -/
def expireStaleInvoices (report : Report) : BillingM Report := do
  match ← attempt Invoicing.expireStale with
  | .ok sweep =>
    let report := { report with invoicesExpired := sweep.expired.length }
    return sweep.failed.foldl (fun report failed => report.fail .staleInvoices (some failed.1) failed.2) report
  | .error failure =>
    emit .error logTarget "Failed to list stale invoices" [("error", failure.message)]
    return report.fail .staleInvoices none failure.message

/-- The second step for one subscription with a due change. -/
def commitOne (limit : Nat) (report : Report) (subscription : Subscription) : BillingM Report := do
  let ids := [("subscription_id", subscription.id.hyphenated), ("company_id", subscription.company.hyphenated)]
  match ← withinLimit limit (Ledger.commitPendingChange subscription.id) with
  | some (.ok (.committed _)) => return { report with changesCommitted := report.changesCommitted + 1 }
  | some (.ok (.refused active maxSeats)) =>
    return { report with
      stuckPending := report.stuckPending ++
        [⟨subscription.id, subscription.company, subscription.pendingPlan, subscription.pendingMaxSeats,
          active, maxSeats⟩] }
  | some (.ok (.notEligible status)) =>
    emit .debug logTarget "Skipping pending change on terminal subscription" (ids ++ [("status", status.name)])
    return report
  | some (.ok _) => return report
  | some (.error failure) =>
    emit .error logTarget "Failed to commit pending subscription change"
      (ids ++ [("error", failure.message), ("transient", toString failure.isTransient)])
    return report.fail .pendingChanges (some subscription.id) failure.message
  | none =>
    emit .error logTarget "Timed out committing pending subscription change" ids
    return report.fail .pendingChanges (some subscription.id) "timed out"

/-- The second step: commit the due changes. -/
def commitPendingChanges (report : Report) : BillingM Report := do
  match ← attempt Ledger.duePendingChanges with
  | .error failure =>
    emit .error logTarget "Failed to list pending subscription changes" [("error", failure.message)]
    return report.fail .pendingChanges none failure.message
  | .ok due =>
    let limit := (← config).recordTimeout
    due.foldlM (commitOne limit) report

/-- The third step: move lapsed subscriptions on. -/
def expireLapsed (report : Report) : BillingM Report := do
  let limit := (← config).recordTimeout
  match ← withinLimit limit Ledger.expireLapsed with
  | some (.ok counts) => return { report with expiry := counts }
  | some (.error failure) =>
    emit .error logTarget "Failed to apply subscription expiry" [("error", failure.message)]
    return report.fail .expiry none failure.message
  | none =>
    emit .error logTarget "Timed out applying subscription expiry" []
    return report.fail .expiry none "timed out"

/-- Logs the summary of a sweep. -/
def logSummary (report : Report) : BillingM Unit := do
  let counts := [("invoices_expired", toString report.invoicesExpired),
    ("changes_committed", toString report.changesCommitted),
    ("subscriptions_transitioned", toString report.expiry.total)]
  if report.isClean then emit .info logTarget "Billing sweep complete" counts
  else
    emit .warn logTarget "Billing sweep complete with problems"
      (counts ++ [("stuck_pending", toString report.stuckPending.length),
        ("failures", toString report.failures.length)])

/-- Runs one sweep. -/
def run : BillingM Report := do
  let report : Report := ⟨0, 0, [], ⟨0, 0, 0⟩, []⟩
  let report ← expireStaleInvoices report
  let report ← commitPendingChanges report
  let report ← expireLapsed report
  logSummary report
  return report

end SeatBilling.Sweep
