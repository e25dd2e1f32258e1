import SeatBilling.Programs.Host
import SeatBilling.Sweep
import SeatBilling.Cron.Schedule

/-!
# The worker

The worker runs the billing sweep on a schedule. At start it opens a pool on the database in
`DATABASE_URL`, builds the billing core from the environment, and runs one sweep at once to
catch up on what lapsed while it was down, logging the sweep's report. Then it schedules the
sweep by the cron schedule in `SWEEP_CRON` (every five minutes by default) and the hourly
invariant checks, starts the scheduler and waits. Interrupted, it stops the scheduler and
exits cleanly.

A schedule that is not one stops the worker after the first sweep. Its log filter defaults
to information and above.
-/

namespace SeatBilling.Programs.Worker

/-- The part of the program the worker logs as. -/
def target : String := "hrcore_worker"

/-- The log filter the worker uses when `RUST_LOG` holds none. -/
def defaultFilter : String := "info"

/-- The sweep's schedule when `SWEEP_CRON` is unset: every five minutes. -/
def defaultSweepCron : String := "0 */5 * * * *"

/-- The name of a sweep step in the worker's log. -/
def stepName : Sweep.Step → String
  | .staleInvoices => "StaleInvoices"
  | .pendingChanges => "PendingChanges"
  | .expiry => "Expiry"

/-- Logs a sweep's report: its counts, then each stuck change as a warning and each failed
step as an error. -/
def logSweepReport (report : Sweep.Report) : ProgramM Unit := do
  log .info target "Billing sweep complete"
    [("invoices_expired", toString report.invoicesExpired),
      ("changes_committed", toString report.changesCommitted),
      ("cancelled_expired", toString report.expiry.cancelledExpired),
      ("grace_expired", toString report.expiry.graceExpired),
      ("moved_to_past_due", toString report.expiry.movedToPastDue),
      ("stuck", toString report.stuckPending.length), ("failures", toString report.failures.length)]
  report.stuckPending.forM fun stuck =>
    log .warn target "Deferred change blocked by active employee count"
      [("company_id", stuck.company.hyphenated), ("subscription_id", stuck.subscription.hyphenated),
        ("active_employees", toString stuck.activeEmployees), ("new_max_seats", toString stuck.newMaxSeats)]
  report.failures.forM fun failure =>
    log .error target "Billing sweep step failed"
      [("step", stepName failure.step), ("record_id", Log.optionalId failure.record),
        ("error", failure.error)]

/-- The worker's run up to waiting for the interrupt. -/
def main (host : Host) (env : Environment) : ProgramM OnInterrupt := do
  log .info target "Starting HRCore Worker" []
  let some url := env.get? "DATABASE_URL" | fail (unsetVariable "DATABASE_URL must be set")
  connectPool host url
  log .info target "Database pool created" []
  let config ← coreConfig env
  let report ← runCore host config Sweep.run
  logSweepReport report
  let cron := (env.get? "SWEEP_CRON").getD defaultSweepCron
  if (Cron.Schedule.parse? cron).isNone then fail (.plain "ParseSchedule")
  log .info target "Scheduled: Billing sweep" [("cron", cron)]
  log .info target "Scheduled: Billing invariant checks (hourly)" []
  log .info target "Starting job scheduler" []
  log .info target "HRCore Worker started successfully with 2 scheduled jobs" []
  return .shutDown [⟨.info, target, "Shutdown signal received, stopping scheduler", []⟩]

end SeatBilling.Programs.Worker
