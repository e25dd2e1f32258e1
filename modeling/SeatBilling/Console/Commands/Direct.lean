import SeatBilling.Console.Step

/-!
# Commands on the console's world and on values

Commands that move the clock, set headcounts, steer the payment provider and arm faults;
commands that seed the store without any check; and commands that apply one pure function of
the billing core to the values they are given.
-/

namespace SeatBilling.Console

open SeatBilling.Time
open SeatBilling.Documents

/-- The answer for a time. -/
def momentAnswer (moment : Moment) : Answer :=
  match momentJson moment with
  | some json => .ok json
  | none => .panic

/-- Replaces the world. -/
def changeWorld (change : World → World) : ConsoleM Unit :=
  modify fun console => { console with world := change console.world }

/-! ## The world -/

/-- The parts of the span an `advance` command gives, in the order they are added, each with
the span one of its units makes. -/
def advanceParts : List (String × (Int → Option Span)) :=
  [("days", Span.ofDays?), ("hours", Span.ofHours?), ("minutes", Span.ofMinutes?),
    ("seconds", Span.ofSeconds?)]

/-- Adds the parts a command gives to `span` in order, each read when its turn comes; `none`
as soon as a part or the sum leaves the word, before the later parts are read. -/
def addParts (command : Json) (span : Span) : List (String × (Int → Option Span)) → Step (Option Span)
  | [] => return some span
  | (key, unit) :: rest => do
    match ← need (int64? command key) with
    | none => addParts command span rest
    | some count =>
      match (unit count).bind span.add? with
      | some next => addParts command next rest
      | none => return none

/-- `advance {days?, hours?, minutes?, seconds?}`: a span that leaves the word, or a clock
that leaves the calendar, is an overflow. -/
def advanceCommand (command : Json) : Step Answer := do
  let some span ← addParts command ⟨0⟩ advanceParts | return .panic
  let some clock := (← get).world.clock.shift? span | return .panic
  changeWorld fun world => { world with clock := clock }
  return momentAnswer clock

/-- `set_time {at}`. -/
def setTimeCommand (command : Json) : Step Answer := do
  let clock ← need (moment command "at")
  changeWorld fun world => { world with clock := clock }
  return momentAnswer clock

/-- `now`. -/
def nowCommand : Step Answer := do
  return momentAnswer (← get).world.clock

/-- `set_employees {company, count}`. -/
def setEmployeesCommand (command : Json) : Step Answer := do
  let company ← companyOf command
  let count ← need (int64 command "count")
  changeWorld fun world =>
    { world with headcount := (company, count) :: world.headcount.filter (·.1 != company) }
  return .ok (.int count)

/-- `provider_fail {reason}`. -/
def providerFailCommand (command : Json) : Step Answer := do
  let reason ← need (text command "reason")
  changeWorld fun world => { world with provider := { world.provider with refusal := some reason } }
  return .ok .null

/-- `provider_recover`. -/
def providerRecoverCommand : Step Answer := do
  changeWorld fun world => { world with provider := { world.provider with refusal := none } }
  return .ok .null

/-- `provider_requests`. -/
def providerRequestsCommand : Step Answer := do
  let requests := (← get).world.provider.requests
  return .ok (.arr (requests.map fun request =>
    .obj [("amount", .int request.amount), ("company_id", idJson request.company),
      ("description", .str request.description), ("invoice_id", idJson request.invoice),
      ("ttl_seconds", .int request.ttlSeconds)]))

/-- `http_requests`: the requests the HTTP stand-in for the payment provider received. No
connection to the stand-in can be made (see `Calls.unreachable`), so it has received none. -/
def httpRequestsCommand : Step Answer := return .ok (.arr [])

/-- `fault {method, kind, times?, message?}`. -/
def faultCommand (command : Json) : Step Answer := do
  let method ← need (text command "method")
  let kind ← need (text command "kind")
  let times := (← need (int64? command "times")).getD 1
  let message := (← need (text? command "message")).getD "injected"
  changeWorld fun world => { world with faults := world.faults ++ [⟨method, FaultKind.parse kind, times, message⟩] }
  return .ok .null

/-- `clear_faults`. -/
def clearFaultsCommand : Step Answer := do
  changeWorld fun world => { world with faults := [] }
  return .ok .null

/-! ## Seeding -/

/-- Replaces the store. -/
def changeStore (change : Store → Store) : ConsoleM Unit :=
  changeWorld fun world => { world with store := change world.store }

/-- `seed_plan {plan}`. -/
def seedPlanCommand (command : Json) : Step Answer := do
  let some plan := (present? command "plan").bind decodePlan | throw "bad plan"
  changeStore (·.seedPlan plan)
  return .ok .null

/-- `seed_feature {feature}`. -/
def seedFeatureCommand (command : Json) : Step Answer := do
  let some feature := (present? command "feature").bind decodeFeature | throw "bad feature"
  changeStore (·.seedFeature feature)
  return .ok .null

/-- The fields of a record a command gives in `key`. -/
def recordFields (command : Json) (key : String) : Step Json := do
  match present? command key with
  | some fields => return fields
  | none => throw (missingField key)

/-- The fields of a record a command writes in `key`; a record left out has none. -/
def recordOf (command : Json) (key : String) : Json := (present? command key).getD (.obj [])

/-- Binds the label a record may give in `key`, if it gives one. -/
def bindGivenLabel (fields : Json) (key : String) : Step Unit := do
  match ← need (text? fields key) with
  | some label => let _ ← bindLabel label
  | none => pure ()

/-- A subscription a command writes in `key`, its labels bound as they are read, its
company's first and then its own, before its other fields; `none` when its default period
end leaves the calendar. -/
def subscriptionAt (command : Json) (key : String) : Step (Option Subscription) := do
  let fields := recordOf command key
  let _ ← companyAt fields "company"
  bindGivenLabel fields "label"
  let seed ← need (readSubscriptionSeed fields)
  seed.bind

/-- An invoice a command writes in `key`, its labels bound as they are read: its company's,
its own and its subscription's, before its other fields. -/
def invoiceAt (command : Json) (key : String) : Step Invoice := do
  let fields := recordOf command key
  let _ ← companyAt fields "company"
  let _ ← labelIdOf fields "label"
  bindGivenLabel fields "subscription"
  let seed ← need (readInvoiceSeed fields)
  seed.bind

/-- `seed_subscription {subscription}`: refused when the company has another subscription. -/
def seedSubscriptionCommand (command : Json) : Step Answer := do
  let some subscription ← subscriptionAt command "subscription" | return .panic
  if let some stored := (← get).world.store.subscriptionOf? subscription.company then
    if stored.id != subscription.id then throw "company already has another subscription"
  changeStore (·.seedSubscription subscription)
  return .ofWritten (subscriptionJson subscription)

/-- `seed_invoice {invoice}`: refused when another invoice has its provider id. -/
def seedInvoiceCommand (command : Json) : Step Answer := do
  let invoice ← invoiceAt command "invoice"
  if let some providerId := invoice.providerInvoiceId then
    if (← get).world.store.invoices.any (fun other =>
        other.id != invoice.id && other.providerInvoiceId == some providerId) then
      throw "provider_invoice_id already used"
  changeStore (·.seedInvoice invoice)
  return .ofWritten (invoiceJson invoice)

/-! ## Values -/

/-- A plan a command gives in `key`. -/
def planAt (command : Json) (key : String) : Step Plan := do
  match (present? command key).bind decodePlan with
  | some plan => return plan
  | none => throw "bad plan"

/-- `price_for {plan, seats}`. -/
def priceForCommand (command : Json) : Step Answer := do
  let plan ← planAt command "plan"
  let seats ← need (int32 command "seats")
  match plan.priceFor? seats with
  | some price => return .ok (.int price)
  | none => return .panic

/-- The name of an ordering. -/
def orderingName : Ordering → String
  | .lt => "less"
  | .eq => "equal"
  | .gt => "greater"

/-- `tier_cmp {a, b}`. -/
def tierCmpCommand (command : Json) : Step Answer := do
  let first ← planAt command "a"
  let second ← planAt command "b"
  return .ok (.obj [("a_higher", .bool (first.isHigherTierThan second)),
    ("cmp", .str (orderingName (first.tierCmp second)))])

/-- `plan_includes {plan, code}`. -/
def planIncludesCommand (command : Json) : Step Answer := do
  let plan ← planAt command "plan"
  let code ← need (text command "code")
  return .ok (.obj [("codes", .arr (plan.featureCodes.map Json.str)), ("includes", .bool (plan.includes code))])

/-- `paid_effect {invoice, current?, paid_at, now?, period_days?}`; nothing is stored. -/
def paidEffectCommand (command : Json) : Step Answer := do
  let invoice ← invoiceAt command "invoice"
  let current ← match present? command "current" with
    | some _ =>
      match ← subscriptionAt command "current" with
      | some subscription => pure (some (some subscription))
      | none => pure none
    | none => pure (some none)
  let some current := current | return .panic
  let paidAt ← need (moment command "paid_at")
  let at_ := (← need (moment? command "now")).getD paidAt
  let days := (← need (int64? command "period_days")).getD 30
  let some period := Span.ofDays? days | return .panic
  let some write := paidEffect Uuid.nil invoice current paidAt at_ period | return .panic
  let written := match write with
    | .insert subscription => subscriptionJsonWith (.str "new") subscription
    | .update subscription _ => subscriptionJson subscription
  let some written := written | return .panic
  let (kind, expected) := match write with
    | .insert _ => ("insert", Json.null)
    | .update _ version => ("update", Json.int version)
  return .ok (.obj [("expected_version", expected), ("subscription", written),
    ("version", .int write.subscription.version), ("write", .str kind)])

/-- `grants_access {subscription, now}`. -/
def grantsAccessCommand (command : Json) : Step Answer := do
  let some subscription ← subscriptionAt command "subscription" | return .panic
  let at_ ← need (moment command "now")
  return .ok (.obj [("grants_access", .bool (subscription.grantsAccess at_)),
    ("has_pending_change", .bool subscription.hasPendingChange)])

/-- The name of a snapshot's verdict. -/
def fastCheckName : Access.FastCheck → String
  | .allow => "allow"
  | .defer => "defer"

/-- `snapshot_check {snapshot, now, code?}`. -/
def snapshotCheckCommand (command : Json) : Step Answer := do
  let value ← recordFields command "snapshot"
  let at_ ← need (moment command "now")
  let code ← need (text? command "code")
  match Access.Snapshot.decode value with
  | .error message => return undecodable message
  | .ok snapshot =>
    let feature := match code with
      | some code => [("fast_check_feature", Json.str (fastCheckName (snapshot.fastCheckFeature code at_)))]
      | none => []
    return .ok (.obj ([("fast_check", .str (fastCheckName (snapshot.fastCheck at_)))] ++ feature ++
      [("snapshot", snapshot.toJson)]))

/-- `snapshot_from_subscription {subscription, features}`. -/
def snapshotFromSubscriptionCommand (command : Json) : Step Answer := do
  let some subscription ← subscriptionAt command "subscription" | return .panic
  let features ← match present? command "features" with
    | some (.arr items) =>
      match items.mapM Json.getStr? with
      | some codes => pure codes
      | none => throw "bad features"
    | some _ => throw "bad features"
    | none => pure []
  return .ok (Access.Snapshot.ofSubscription subscription features).toJson

/-- The answer for a spelling of a closed set: its spelling three ways, and whether it is
final where that applies. -/
def spellingAnswer {α : Type} (parse : String → Except UnknownName α) (name : α → String)
    (terminal : Option (α → Bool)) (value : String) : Answer :=
  match parse value with
  | .ok parsed =>
    let final := match terminal with
      | some isTerminal => [("terminal", Json.bool (isTerminal parsed))]
      | none => []
    .ok (.obj ([("display", .str (name parsed)), ("json", .str (name parsed))] ++ final ++
      [("value", .str (name parsed))]))
  | .error unknown =>
    .raised "ParseEnumError" unknown.message [("kind", .str unknown.kind), ("value", .str unknown.value)]

/-- `parse_enum {type, value}`. -/
def parseEnumCommand (command : Json) : Step Answer := do
  let kind ← need (text command "type")
  let value ← need (text command "value")
  match kind with
  | "subscription_status" =>
    return spellingAnswer SubscriptionStatus.parse SubscriptionStatus.name (some SubscriptionStatus.isTerminal) value
  | "invoice_status" =>
    return spellingAnswer InvoiceStatus.parse InvoiceStatus.name (some InvoiceStatus.isTerminal) value
  | "invoice_purpose" => return spellingAnswer InvoicePurpose.parse InvoicePurpose.name none value
  | _ => throw "unknown enum type"

/-- `event_type_parse {value}`. -/
def eventTypeParseCommand (command : Json) : Step Answer := do
  let value ← need (text command "value")
  match EventKind.parse? value with
  | some kind => return .ok (.obj [("json", .str kind.name), ("value", .str kind.name)])
  | none => return .ok .null

/-- `actor_parse {value}`. -/
def actorParseCommand (command : Json) : Step Answer := do
  let value ← need (text command "value")
  let actor := Actor.parse value
  return .ok (.obj [("json", .str actor.name), ("value", .str actor.name)])

/-- The failure a `billing_error` command describes. -/
def failureOf (command : Json) : Step Failure := do
  let kind ← need (text command "kind")
  let what := (← need (text? command "text")).getD ""
  match kind with
  | "NotFound" => return .notFound what
  | "Conflict" => return .conflict what
  | "DuplicatePendingInvoice" => return .duplicatePendingInvoice (← companyOf command)
  | "InvalidPlanChange" => return .invalidPlanChange what
  | "FeatureNotIncluded" => return .featureNotIncluded what
  | "SeatLimitExceeded" =>
    let active := (← need (int64? command "active")).getD 0
    let maxSeats := (← need (int32? command "max_seats")).getD 0
    return .seatLimitExceeded active maxSeats
  | "SubscriptionInactive" => return .subscriptionInactive what
  | "WebhookTokenInvalid" => return .webhookTokenInvalid
  | "ConcurrentModification" => return .concurrentModification what
  | "Database" => return .database what
  | "Provider" => return .providerUnavailable what
  | "ProviderRejected" => return .providerRejected what
  | "Timeout" => return .timedOut what
  | "Config" => return .config what
  | "InvalidInput" => return .invalidInput what
  | "Internal" => return .internal what
  | _ => throw "unknown error kind"

/-- `billing_error {kind, text?, company?, active?, max_seats?}`. -/
def billingErrorCommand (command : Json) : Step Answer := do
  let failure ← failureOf command
  return .ok (.obj [("kind", .str failure.kindName), ("message", .str failure.message),
    ("transient", .bool failure.isTransient)])

/-- `severity_display {severity}`. -/
def severityDisplayCommand (command : Json) : Step Answer := do
  let name := (command.field? "severity").bind Json.getStr?
  match [Invariants.Severity.critical, .high, .medium, .low].find? (some ·.name == name) with
  | some severity => return .ok (.str severity.shout)
  | none => throw "unknown severity"

end SeatBilling.Console
