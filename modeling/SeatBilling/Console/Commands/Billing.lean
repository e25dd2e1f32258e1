import SeatBilling.Console.Step

/-!
# Commands of the billing core

One command per operation of the ledger, the invoices, the callbacks, the sweep, the access
checks, the catalog, the invariants and the event log. Each reads its fields, runs the
operation and writes its value.
-/

namespace SeatBilling.Console

open SeatBilling.Time
open SeatBilling.Documents

/-! ## The ledger -/

/-- `start_trial {company, plan}`. -/
def startTrialCommand (command : Json) : Step Answer := do
  let company ← companyOf command
  let plan ← need (text command "plan")
  billing (Ledger.startTrial company plan) subscriptionJson

/-- `checkout {company, plan, seats?}`. -/
def checkoutCommand (command : Json) : Step Answer := do
  let company ← companyOf command
  let plan ← need (text command "plan")
  let seats ← need (int32? command "seats")
  billing (Ledger.checkout company plan seats) invoiceJson

/-- `upgrade {company, plan}`. -/
def upgradeCommand (command : Json) : Step Answer := do
  let company ← companyOf command
  let plan ← need (text command "plan")
  billing (Ledger.upgrade company plan) invoiceJson

/-- `downgrade {company, plan}`. -/
def downgradeCommand (command : Json) : Step Answer := do
  let company ← companyOf command
  let plan ← need (text command "plan")
  billing (Ledger.downgrade company plan) subscriptionJson

/-- `change_seats {company, seats}`. -/
def changeSeatsCommand (command : Json) : Step Answer := do
  let company ← companyOf command
  let seats ← need (int32 command "seats")
  billing (Ledger.changeSeats company seats) seatChangeJson

/-- `cancel {company}`. -/
def cancelCommand (command : Json) : Step Answer := do
  let company ← companyOf command
  billing (Ledger.cancel company) subscriptionJson

/-- `cancel_scheduled_change {company}`. -/
def cancelScheduledChangeCommand (command : Json) : Step Answer := do
  let company ← companyOf command
  billing (Ledger.cancelScheduledChange company) subscriptionJson

/-- `get_subscription {company}`. -/
def getSubscriptionCommand (command : Json) : Step Answer := do
  let company ← companyOf command
  billing (Ledger.subscriptionOf company) fun found =>
    match found with
    | some subscription => subscriptionJson subscription
    | none => some .null

/-- `get_my_subscription {company}`. -/
def getMySubscriptionCommand (command : Json) : Step Answer := do
  let company ← companyOf command
  billing (Ledger.view company) viewJson

/-- `settle {invoice, paid_at?, method?, channel?}`. -/
def settleCommand (command : Json) : Step Answer := do
  let invoice ← labelIdOf command "invoice"
  let paidAt ← need (moment? command "paid_at")
  let method ← need (text? command "method")
  let channel ← need (text? command "channel")
  let paidAt := paidAt.getD (← get).world.clock
  billing (Ledger.settle invoice ⟨paidAt, method, channel⟩) settleJson

/-- `commit_pending {subscription}`. -/
def commitPendingCommand (command : Json) : Step Answer := do
  let subscription ← labelIdOf command "subscription"
  billing (Ledger.commitPendingChange subscription) commitJson

/-- `list_due_pending`: the due subscriptions by end of period, then by label. -/
def listDuePendingCommand : Step Answer := do
  match ← runBilling Ledger.duePendingChanges with
  | .ok due =>
    let ranked ← due.mapM fun subscription => do return (← rankOf subscription.id, subscription)
    let sorted := ranked.mergeSort fun first second =>
      first.2.periodEnd < second.2.periodEnd ||
        (first.2.periodEnd.sameInstant second.2.periodEnd && first.1 ≤ second.1)
    return .ok (.arr (sorted.map fun entry => idJson entry.2.id))
  | .error (.failed failure) => return .failed failure
  | .error _ => return .panic

/-- `expire_lapsed`. -/
def expireLapsedCommand : Step Answer :=
  billingPlain Ledger.expireLapsed fun counts =>
    .obj [("counts", expiryJson counts), ("total", .int counts.total)]

/-! ## Invoices -/

/-- `create_invoice {company, subscription?, purpose?, plan?, seats?, amount?, description?}`. -/
def createInvoiceCommand (command : Json) : Step Answer := do
  let company ← companyOf command
  let subscription ← match ← need (text? command "subscription") with
    | some label => some <$> bindLabel label
    | none => pure none
  let purpose ← need (spelled InvoicePurpose.parse command "purpose" .checkout)
  let plan := (← need (text? command "plan")).getD "basic"
  let seats := (← need (int32? command "seats")).getD 5
  let amount := (← need (int64? command "amount")).getD 10000
  let description := (← need (text? command "description")).getD ""
  billing (Invoicing.create ⟨company, subscription, purpose, plan, seats, amount, description⟩) invoiceJson

/-- `mark_expired {invoice}`. -/
def markExpiredCommand (command : Json) : Step Answer := do
  let invoice ← labelIdOf command "invoice"
  billingPlain (Invoicing.markExpired invoice) Json.bool

/-- `mark_cancelled {invoice}`. -/
def markCancelledCommand (command : Json) : Step Answer := do
  let invoice ← labelIdOf command "invoice"
  billingPlain (Invoicing.markCancelled invoice) Json.bool

/-- `cancel_pending_invoice {company, invoice}`. -/
def cancelPendingInvoiceCommand (command : Json) : Step Answer := do
  let company ← companyOf command
  let invoice ← labelIdOf command "invoice"
  billing (Invoicing.cancelPending company invoice) invoiceJson

/-- `get_invoices {company}`: newest first, then the later-bound label first. -/
def getInvoicesCommand (command : Json) : Step Answer := do
  let company ← companyOf command
  match ← runBilling (Invoicing.invoicesOf company) with
  | .ok invoices =>
    discover
    let ranked ← invoices.mapM fun invoice => do return (← rankOf invoice.id, invoice)
    let sorted := ranked.mergeSort fun first second =>
      second.2.createdAt < first.2.createdAt ||
        (first.2.createdAt.sameInstant second.2.createdAt && second.1 ≤ first.1)
    return .ofWritten (listJson invoiceJson (sorted.map Prod.snd))
  | .error (.failed failure) => return .failed failure
  | .error _ => return .panic

/-- `get_invoice {company, invoice}`. -/
def getInvoiceCommand (command : Json) : Step Answer := do
  let company ← companyOf command
  let invoice ← labelIdOf command "invoice"
  billing (Invoicing.invoiceOf company invoice) invoiceJson

/-- An optional invoice. -/
def optInvoiceJson : Option Invoice → Option Json
  | some invoice => invoiceJson invoice
  | none => some .null

/-- `find_invoice {invoice}`. -/
def findInvoiceCommand (command : Json) : Step Answer := do
  let invoice ← labelIdOf command "invoice"
  billing (Invoicing.find invoice) optInvoiceJson

/-- `find_pending {company}`: refused when the company has more than one pending invoice. -/
def findPendingCommand (command : Json) : Step Answer := do
  let company ← companyOf command
  if ((← get).world.store.pendingOf company).length > 1 then
    throw "more than one pending invoice; answer would depend on hash order"
  billing (Invoicing.findPending company) optInvoiceJson

/-- `find_by_provider_id {provider_invoice_id}`. -/
def findByProviderIdCommand (command : Json) : Step Answer := do
  let providerId ← expand (← need (text command "provider_invoice_id"))
  billing (Invoicing.findByProviderId providerId) optInvoiceJson

/-- `expire_stale_invoices`: both lists by label, records without one first. -/
def expireStaleInvoicesCommand : Step Answer := do
  match ← runBilling Invoicing.expireStale with
  | .ok sweep =>
    let expired ← byRank some sweep.expired
    let failed ← byRank (fun entry => some entry.1) sweep.failed
    return .ok (.obj [("expired", .arr (expired.map idJson)),
      ("failed", .arr (failed.map fun entry => .arr [idJson entry.1, .str entry.2]))])
  | .error (.failed failure) => return .failed failure
  | .error _ => return .panic

/-! ## Callbacks -/

/-- The callback secret a command sends: the configured one when absent, none for `null`. -/
def tokenOf (command : Json) : Step (Option String) := do
  match command.field? "token" with
  | none => return some (← get).world.config.callbackToken
  | some .null => return none
  | some (.str token) => return some (← expand token)
  | some _ => throw "token must be a string or null"

/-- `webhook {token?, body}`. -/
def webhookCommand (command : Json) : Step Answer := do
  let token ← tokenOf command
  let body ← match command.field? "body" with
    | some (.str text) => expand text
    | some value => expand (value.sortKeys.render)
    | none => throw (missingField "body")
  billingPlain (Webhook.handle token body) webhookJson

/-- `verify_token {token?}`. -/
def verifyTokenCommand (command : Json) : Step Answer := do
  let token ← match command.field? "token" with
    | none => pure none
    | some .null => pure none
    | some (.str token) => pure (some token)
    | some _ => throw "token must be a string or null"
  billingPlain (Webhook.verifyToken token) fun _ => .bool true

/-! ## The sweep -/

/-- The place of a sweep step in a report. -/
def stepOrder : Sweep.Step → Nat
  | .staleInvoices => 0
  | .pendingChanges => 1
  | .expiry => 2

/-- `sweep`: failures by step, then by label; stuck changes by label; records without a label
last. -/
def sweepCommand : Step Answer := do
  match ← runBilling Sweep.run with
  | .ok report =>
    let failures ← byRankUnlabelledLast (·.record) report.failures
    let failures := failures.mergeSort fun first second => stepOrder first.step ≤ stepOrder second.step
    let stuck ← byRankUnlabelledLast (fun stuck => some stuck.subscription) report.stuckPending
    return .ok (.obj [("changes_committed", .int report.changesCommitted), ("clean", .bool report.isClean),
      ("expiry", expiryJson report.expiry), ("failures", .arr (failures.map stepFailureJson)),
      ("invoices_expired", .int report.invoicesExpired), ("stuck_pending", .arr (stuck.map stuckJson))])
  | .error (.failed failure) => return .failed failure
  | .error _ => return .panic

/-! ## Access -/

/-- The snapshot a command gives in `snapshot`, if any; a bad one is a decoding error. -/
def snapshotOf (command : Json) : Step (Except String (Option Access.Snapshot)) := do
  match present? command "snapshot" with
  | none => return .ok none
  | some value => return (Access.Snapshot.decode value).map some

/-- `get_access {company}`. -/
def getAccessCommand (command : Json) : Step Answer := do
  let company ← companyOf command
  billing (Access.accessOf company) accessJson

/-- `has_feature {company, code}`. -/
def hasFeatureCommand (command : Json) : Step Answer := do
  let company ← companyOf command
  let code ← need (text command "code")
  billingPlain (Access.hasFeature company code) Json.bool

/-- `can_add_employee {company}`. -/
def canAddEmployeeCommand (command : Json) : Step Answer := do
  let company ← companyOf command
  billingPlain (Access.canAddEmployee company) Json.bool

/-- `require_active {company, snapshot?}`. -/
def requireActiveCommand (command : Json) : Step Answer := do
  let company ← companyOf command
  match ← snapshotOf command with
  | .error message => return undecodable message
  | .ok snapshot => billingPlain (Access.requireActive company snapshot) fun _ => .bool true

/-- `require_feature {company, code, snapshot?}`. -/
def requireFeatureCommand (command : Json) : Step Answer := do
  let company ← companyOf command
  let code ← need (text command "code")
  match ← snapshotOf command with
  | .error message => return undecodable message
  | .ok snapshot => billingPlain (Access.requireFeature company code snapshot) fun _ => .bool true

/-- `require_seat_available {company}`. -/
def requireSeatAvailableCommand (command : Json) : Step Answer := do
  let company ← companyOf command
  billingPlain (Access.requireSeatAvailable company) fun _ => .bool true

/-! ## The catalog -/

/-- `list_active_plans`. -/
def listActivePlansCommand : Step Answer :=
  billingPlain Catalog.listActivePlans fun plans => .arr (plans.map planJson)

/-- `list_plans {active_only?}`. -/
def listPlansCommand (command : Json) : Step Answer := do
  let activeOnly := (← need (flag? command "active_only")).getD false
  billingPlain (Calls.listSeededPlans activeOnly) fun plans => .arr (plans.map fun plan => .str plan.id)

/-- `get_plan {plan}`. -/
def getPlanCommand (command : Json) : Step Answer := do
  let plan ← need (text command "plan")
  billingPlain (Catalog.getPlan plan) planJson

/-- `get_purchasable_plan {plan}`. -/
def getPurchasablePlanCommand (command : Json) : Step Answer := do
  let plan ← need (text command "plan")
  billingPlain (Catalog.getPurchasablePlan plan) planJson

/-- `get_features {plan}`. -/
def getFeaturesCommand (command : Json) : Step Answer := do
  let plan ← need (text command "plan")
  billingPlain (Catalog.featuresOf plan) fun features => .arr (features.map featureJson)

/-- `catalog_has_feature {plan, code}`. -/
def catalogHasFeatureCommand (command : Json) : Step Answer := do
  let plan ← need (text command "plan")
  let code ← need (text command "code")
  billingPlain (Catalog.hasFeature plan code) Json.bool

/-- `ensure_feature {code}`. -/
def ensureFeatureCommand (command : Json) : Step Answer := do
  let code ← need (text command "code")
  billingPlain (Catalog.ensureFeature code) featureJson

/-! ## Invariants and events -/

/-- The place of a check in a report. -/
def checkOrder (name : String) : Nat := (Invariants.checks.findIdx? (· == name)).getD Invariants.checks.length

/-- Breaches by check, then by company label, then by description. -/
def sortViolations (violations : List Invariants.Violation) : ConsoleM (List Invariants.Violation) := do
  let ranked ← violations.mapM fun violation => do
    let rank ← match violation.companies.head? with
      | some company => rankOf company
      | none => pure 0
    return (checkOrder violation.invariant, rank, violation)
  let sorted := ranked.mergeSort fun first second =>
    first.1 < second.1 || (first.1 == second.1 &&
      (first.2.1 < second.2.1 || (first.2.1 == second.2.1 &&
        decide (first.2.2.description ≤ second.2.2.description))))
  return sorted.map (·.2.2)

/-- `check_all`. -/
def checkAllCommand : Step Answer := do
  match ← runBilling Invariants.runAll with
  | .ok summary =>
    let violations ← sortViolations summary.violations
    return .ofWritten (summaryJson summary violations)
  | .error (.failed failure) => return .failed failure
  | .error _ => return .panic

/-- `check {name}`. -/
def checkCommand (command : Json) : Step Answer := do
  let name ← need (text command "name")
  match ← runBilling (Invariants.run name) with
  | .ok violations =>
    let violations ← sortViolations violations
    return .ok (.arr (violations.map violationJson))
  | .error (.failed failure) => return .failed failure
  | .error _ => return .panic

/-- `available_checks`. -/
def availableChecksCommand : Step Answer :=
  return .ok (.arr (Invariants.checks.map Json.str))

/-- `list_events {company}`. -/
def listEventsCommand (command : Json) : Step Answer := do
  let company ← companyOf command
  billing (Calls.listEvents company) (listJson eventJson)

end SeatBilling.Console
