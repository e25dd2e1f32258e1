import SeatBilling.Catalog.Queries

/-!
# Billing invariants

Checks that only read the store, each naming the companies it finds in breach:

- `single_pending_invoice`: a company has at most one pending invoice;
- `pending_plan_not_upgrade`: a waiting plan change is never to a higher tier (a plan that
  cannot be found is reported too);
- `paid_invoice_has_paid_at`: a paid invoice records when it was paid;
- `pending_seats_positive`: a waiting seat cap is at least one.
-/

namespace SeatBilling.Invariants

open SeatBilling.Time

/-- How grave a breach is. -/
inductive Severity where
  | critical
  | high
  | medium
  | low
  deriving DecidableEq, Repr

/-- The name of a severity, as a report shows it. -/
def Severity.name : Severity → String
  | .critical => "Critical"
  | .high => "High"
  | .medium => "Medium"
  | .low => "Low"

/-- The name of a severity, as a log line shows it. -/
def Severity.shout : Severity → String
  | .critical => "CRITICAL"
  | .high => "HIGH"
  | .medium => "MEDIUM"
  | .low => "LOW"

/-- A breach of an invariant. -/
structure Violation where
  invariant : String
  companies : List Uuid
  description : String
  context : Json
  severity : Severity
  deriving Repr

/-- The result of running every check. -/
structure Summary where
  checkedAt : Moment
  checksRun : Nat
  checksPassed : Nat
  checksFailed : Nat
  violations : List Violation
  healthy : Bool
  deriving Repr

/-- The checks, in the order they run. -/
def checks : List String :=
  ["single_pending_invoice", "pending_plan_not_upgrade", "paid_invoice_has_paid_at", "pending_seats_positive"]

/-- At most one pending invoice per company. -/
def singlePendingInvoice : BillingM (List Violation) := do
  let rows ← Calls.companiesWithMultiplePendingInvoices
  return rows.map fun (company, count) =>
    { invariant := "single_pending_invoice", companies := [company],
      description := "Company has " ++ toString count ++ " pending invoices (expected at most 1)",
      context := .obj [("pending_invoices", .int count)], severity := .critical }

/-- The breach, if any, of one subscription's waiting plan change, given how its current and
its waiting plan were looked up. -/
def planChangeProblem (current target : Except Failure Plan) : Except Failure (Option String) :=
  match current, target with
  | .ok current, .ok target =>
    if target.isHigherTierThan current then
      .ok (some ("Pending plan '" ++ target.id ++ "' is a higher tier than current plan '" ++ current.id ++ "'"))
    else .ok none
  | .error (.notFound what), _ => .ok (some what)
  | _, .error (.notFound what) => .ok (some what)
  | .error failure, _ => .error failure
  | _, .error failure => .error failure

/-- A waiting plan change is never an upgrade. -/
def pendingPlanNotUpgrade : BillingM (List Violation) := do
  let pending ← Calls.listWithPendingChanges none
  let visit (found : List Violation) (subscription : Subscription) : BillingM (List Violation) := do
    match subscription.pendingPlan with
    | none => return found
    | some pendingId =>
      let current ← attempt (Catalog.getPlan subscription.plan)
      let target ← attempt (Catalog.getPlan pendingId)
      match planChangeProblem current target with
      | .error failure => failWith failure
      | .ok none => return found
      | .ok (some description) =>
        let violation : Violation :=
          { invariant := "pending_plan_not_upgrade", companies := [subscription.company],
            description := description,
            context := .obj [("pending_plan_id", .str pendingId), ("plan_id", .str subscription.plan),
              ("subscription_id", .str subscription.id.hyphenated)],
            severity := .high }
        return found ++ [violation]
  pending.foldlM visit []

/-- A paid invoice records when it was paid. -/
def paidInvoiceHasPaidAt : BillingM (List Violation) := do
  let invoices ← Calls.paidInvoicesMissingPaidAt
  return invoices.map fun invoice =>
    { invariant := "paid_invoice_has_paid_at", companies := [invoice.company],
      description := "Paid invoice has no paid_at timestamp",
      context := .obj [("invoice_id", .str invoice.id.hyphenated),
        ("provider_invoice_id", Json.ofOptStr invoice.providerInvoiceId)],
      severity := .high }

/-- An optional number as a debugging listing shows it. -/
def debugOptionalInt : Option Int → String
  | some value => "Some(" ++ toString value ++ ")"
  | none => "None"

/-- A waiting seat cap is at least one. -/
def pendingSeatsPositive : BillingM (List Violation) := do
  let pending ← Calls.listWithPendingChanges none
  let breaches := pending.filter fun subscription =>
    match subscription.pendingMaxSeats with
    | some seats => seats < 1
    | none => false
  return breaches.map fun subscription =>
    { invariant := "pending_seats_positive", companies := [subscription.company],
      description := "Pending seat count " ++ debugOptionalInt subscription.pendingMaxSeats ++ " is not positive",
      context := .obj [("max_seats", .int subscription.maxSeats),
        ("pending_max_seats", Json.ofOptInt subscription.pendingMaxSeats),
        ("subscription_id", .str subscription.id.hyphenated)],
      severity := .medium }

/-- Runs one check by name; an unknown name finds nothing. -/
def run (name : String) : BillingM (List Violation) :=
  match name with
  | "single_pending_invoice" => singlePendingInvoice
  | "pending_plan_not_upgrade" => pendingPlanNotUpgrade
  | "paid_invoice_has_paid_at" => paidInvoiceHasPaidAt
  | "pending_seats_positive" => pendingSeatsPositive
  | _ => pure []

/-- Runs every check. -/
def runAll : BillingM Summary := do
  let violations ← checks.foldlM (fun found name => do return found ++ (← run name)) []
  let failed := (checks.filter fun name => violations.any (·.invariant == name)).length
  return {
    checkedAt := ← now, checksRun := checks.length, checksPassed := checks.length - failed,
    checksFailed := failed, violations := violations, healthy := violations.isEmpty }

end SeatBilling.Invariants
