import SeatBilling.Proofs.Calls
import SeatBilling.Webhook

/-!
# Callback deliveries split at their calls

A delivery of a callback looks its invoice up by the provider's id, and else by the local id
the callback echoes; then it settles the invoice (loading it, reading the company's
subscription, marking the invoice paid, recording what it did, retrying while the
subscription changes under it) or expires it (moving it, reading it back, recording it). Every
step is one call to a collaborator. `DeliveryStage` is how far one delivery has got and
`DeliveryStage.advance` runs its next step; other callers may run between two steps.

Advancing a delivery step by step is running `Webhook.process` (`ends_process`): the
stages are the callback handler cut at its calls, nothing more.
-/

namespace SeatBilling.Webhook

open SeatBilling.Time
open SeatBilling.Ledger

/-! ## Stages -/

/-- How far one delivery has got: each stage but the last names the call it makes next. A
finished delivery records whether it moved the invoice out of `pending`. -/
inductive DeliveryStage where
  | arrived (payload : Payload)
  | byLocalId (payload : Payload) (localId : Uuid)
  | settling (id : Uuid) (payload : Payload)
  | loading (id : Uuid) (payment : Payment) (retries : Nat)
  | reading (id : Uuid) (invoice : Invoice) (payment : Payment) (retries : Nat)
  | marking (id : Uuid) (invoice : Invoice) (current : Option Subscription) (write : SubscriptionWrite)
      (payment : Payment) (retries : Nat)
  | recordingPayment (id : Uuid) (invoice : Invoice) (current : Option Subscription) (write : SubscriptionWrite)
      (payment : Payment) (retries : Nat)
  | confirming (id : Uuid) (payment : Payment) (retries : Nat)
  | recordingEffect (id : Uuid) (invoice : Invoice) (current : Option Subscription) (write : SubscriptionWrite)
      (payment : Payment)
  | reloading (id : Uuid)
  | closing (id : Uuid)
  | rereading (id : Uuid) (changed : Bool)
  | recordingClose (id : Uuid) (invoice : Invoice)
  | finished (outcome : Except Halt Outcome) (settled : Bool)

/-! ## The code each stage runs -/

/-- When the payment was made: as the callback says, or now. -/
def paidAtOf (payload : Payload) : BillingM Moment :=
  match payload.paidAt with
  | some moment => pure moment
  | none => now

/-- The payment a callback reports, paid at `paidAt`. -/
def paymentOf (payload : Payload) (paidAt : Moment) : Payment :=
  ⟨paidAt, payload.paymentMethod, payload.paymentChannel⟩

/-- Whether the invoice found by a callback's local id may be the one it means: one not linked
to another provider id. -/
def linkedAlike (payload : Payload) (invoice : Invoice) : Bool :=
  match invoice.providerInvoiceId with
  | some id => id == payload.providerInvoiceId
  | none => true

/-- The start of a settlement: when the payment was made, and a first load of the invoice. -/
def beginSettling (id : Uuid) (payload : Payload) : BillingM Moment := do
  let paidAt ← paidAtOf payload
  let _ ← loadInvoice id
  pure paidAt

/-- A settling attempt's read of the company's subscription, and the write it computes. -/
def drawWrite (invoice : Invoice) (payment : Payment) : BillingM (Option Subscription × SubscriptionWrite) := do
  let current ← subscriptionOf invoice.company
  let newId ← if current.isNone then freshId else pure Uuid.nil
  let settings ← config
  let write ← orOverflow (paidEffect newId invoice current payment.paidAt (← now) settings.period)
  pure (current, write)

/-- The event that records a paid invoice. -/
def recordPayment (id : Uuid) (payment : Payment) (write : SubscriptionWrite) : BillingM Unit :=
  EventLog.record write.subscription.company .invoicePaid .provider (some write.subscription.id) (some id)
    (.obj [("payment_channel", Json.ofOptStr payment.channel), ("payment_method", Json.ofOptStr payment.method)])
    payment.paidAt

/-- The event and the log record of an invoice the provider expired. -/
def recordExpiry (id : Uuid) (invoice : Invoice) : BillingM Unit := do
  let kind : EventKind := if InvoiceStatus.expired == .expired then .invoiceExpired else .invoiceCancelled
  EventLog.record invoice.company kind .provider none (some id) (.obj []) (← now)
  emit .info "hrcore_billing::invoices" "Invoice closed"
    [("invoice_id", id.hyphenated), ("company_id", invoice.company.hyphenated),
      ("status", Log.quoted InvoiceStatus.expired.name)]

namespace DeliveryStage

/-- What a delivery does once its lookup found `invoice`. -/
def onInvoice (payload : Payload) (invoice : Invoice) : DeliveryStage :=
  if !invoice.isPending then finished (.ok (.alreadyProcessed invoice.id)) false
  else
    match Event.parse payload.eventType with
    | .paid => settling invoice.id payload
    | .expired => closing invoice.id
    | .other => finished (.ok .ignored) false

/-- What a delivery does after its lookup by the provider's id. -/
def onProviderLookup (payload : Payload) : Option Invoice → DeliveryStage
  | some invoice => onInvoice payload invoice
  | none =>
    match payload.externalId.bind Uuid.parse? with
    | none => finished (.ok .unknownInvoice) false
    | some localId => byLocalId payload localId

/-- What a delivery does after its lookup by the local id. -/
def onLocalLookup (payload : Payload) (found : Option Invoice) : DeliveryStage :=
  match found.filter (linkedAlike payload) with
  | none => finished (.ok .unknownInvoice) false
  | some invoice => onInvoice payload invoice

/-- What a failed attempt to mark the invoice paid leads to: another attempt while retries are
left and the subscription changed under it, and the failure otherwise. -/
def retryOrFail (id : Uuid) (payment : Payment) : Nat → Failure → DeliveryStage
  | retries + 1, .concurrentModification _ => loading id payment retries
  | _, failure => finished (.error (.failed failure)) false

/-- Runs one call: what it gives leads to the next stage, and a halt ends the delivery. -/
def after {β : Type} (call : BillingM β) (next : β → DeliveryStage) (settled : Bool) (world : World) :
    DeliveryStage × World :=
  match call.run.run world with
  | (.ok value, later) => (next value, later)
  | (.error halt, later) => (finished (.error halt) settled, later)

/-- Runs the next call of a delivery. -/
def advance (world : World) : DeliveryStage → DeliveryStage × World
  | arrived payload =>
    if Event.parse payload.eventType == .other then (finished (.ok .ignored) false, world)
    else after (Invoicing.findByProviderId payload.providerInvoiceId) (onProviderLookup payload) false world
  | byLocalId payload localId => after (Invoicing.find localId) (onLocalLookup payload) false world
  | settling id payload =>
    after (beginSettling id payload) (fun paidAt => loading id (paymentOf payload paidAt) (settleAttempts - 1))
      false world
  | loading id payment retries =>
    after (loadInvoice id)
      (fun invoice => if !invoice.isPending then finished (.ok (.alreadyProcessed invoice.id)) false
        else reading id invoice payment retries) false world
  | reading id invoice payment retries =>
    after (drawWrite invoice payment) (fun drawn => marking id invoice drawn.1 drawn.2 payment retries) false world
  | marking id invoice current write payment retries =>
    after (attempt (Calls.settleInvoice id payment write))
      (fun result => match result with
        | .ok true => recordingPayment id invoice current write payment retries
        | .ok false => confirming id payment retries
        | .error failure => retryOrFail id payment retries failure) false world
  | recordingPayment id invoice current write payment retries =>
    after (attempt (recordPayment id payment write))
      (fun result => match result with
        | .ok () => recordingEffect id invoice current write payment
        | .error failure => retryOrFail id payment retries failure) true world
  | confirming id payment retries =>
    after (attempt (Invoicing.require id))
      (fun result => match result with
        | .ok _ => reloading id
        | .error failure => retryOrFail id payment retries failure) false world
  | recordingEffect id invoice current write payment =>
    after (recordPaidEffect invoice current write.subscription payment.paidAt)
      (fun _ => finished (.ok (.applied id)) true) true world
  | reloading id => after (loadInvoice id) (fun invoice => finished (.ok (.alreadyProcessed invoice.id)) false) false world
  | closing id => after (Calls.transitionInvoice id .expired none) (rereading id) false world
  | rereading id changed =>
    after (Invoicing.require id)
      (fun invoice => if changed then recordingClose id invoice else finished (.ok (.alreadyProcessed id)) false)
      changed world
  | recordingClose id invoice => after (recordExpiry id invoice) (fun _ => finished (.ok (.expired id)) true) true world
  | finished outcome settled => (finished outcome settled, world)

/-- Runs the next `count` calls of a delivery. -/
def advanceTimes : Nat → DeliveryStage → World → DeliveryStage × World
  | 0, stage, world => (stage, world)
  | count + 1, stage, world => advanceTimes count (stage.advance world).1 (stage.advance world).2

/-- How a delivery ended, once it has. -/
def outcome? : DeliveryStage → Option (Except Halt Outcome)
  | finished outcome _ => some outcome
  | _ => none

/-- Whether a finished delivery moved its invoice out of `pending`. -/
def settledFlag : DeliveryStage → Bool
  | finished _ settled => settled
  | _ => false

end DeliveryStage

/-! ## The code the stages cut up

The handler's code between two calls, named so that each stage can say what it has left to
run; each equation below is the handler's own code regrouped. -/

/-- What the handler answers for a settlement of invoice `id`. -/
def reported (id : Uuid) : SettleOutcome → BillingM Outcome
  | .applied _ => pure (.applied id)
  | .alreadyProcessed settled => pure (.alreadyProcessed settled.id)

/-- What the handler answers for an expiry of invoice `id` that did or did not move it. -/
def expiryReported (id : Uuid) (changed : Bool) : BillingM Outcome :=
  if changed then pure (.expired id) else pure (.alreadyProcessed id)

/-- The handler once its lookup found `invoice`. -/
def lookedUp (payload : Payload) (invoice : Invoice) : BillingM Outcome :=
  if !invoice.isPending then pure (.alreadyProcessed invoice.id)
  else
    match Event.parse payload.eventType with
    | .paid => paidAtOf payload >>= fun paidAt => settle invoice.id (paymentOf payload paidAt) >>= reported invoice.id
    | .expired => Invoicing.markExpired invoice.id >>= expiryReported invoice.id
    | .other => pure .ignored

/-- What the handler answers once its lookups found `invoice`, or nothing. -/
def answered (payload : Payload) : Option Invoice → BillingM Outcome
  | some invoice => lookedUp payload invoice
  | none => pure .unknownInvoice

/-- The lookup by the local id, once the lookup by the provider's id found nothing. -/
def lookupLocally (payload : Payload) : BillingM (Option Invoice) :=
  match payload.externalId.bind Uuid.parse? with
  | none => pure none
  | some localId => Invoicing.find localId >>= fun found => pure (found.filter (linkedAlike payload))

/-- What a settling attempt does with the outcome of marking the invoice paid. -/
def afterMarking (id : Uuid) (invoice : Invoice) (current : Option Subscription) (write : SubscriptionWrite)
    (payment : Payment) (onFailure : Failure → BillingM SettleOutcome) : Except Failure Bool → BillingM SettleOutcome
  | .ok true => recordPaidEffect invoice current write.subscription payment.paidAt >>= fun _ =>
    pure (.applied write.subscription)
  | .ok false => loadInvoice id >>= fun reloaded => pure (.alreadyProcessed reloaded)
  | .error failure => onFailure failure

/-- A settling attempt once it found the invoice pending. -/
def settleFrom (id : Uuid) (invoice : Invoice) (payment : Payment) (onFailure : Failure → BillingM SettleOutcome) :
    BillingM SettleOutcome :=
  drawWrite invoice payment >>= fun drawn =>
    attempt (Invoicing.markPaid id payment drawn.2) >>= afterMarking id invoice drawn.1 drawn.2 payment onFailure

/-- What a failure to mark the invoice paid leads to, with `retries` attempts left. -/
def onFailureOf (id : Uuid) (payment : Payment) : Nat → Failure → BillingM SettleOutcome
  | 0 => failWith
  | retries + 1 => fun failure =>
    match failure with
    | .concurrentModification _ => settleWithin id payment retries
    | other => failWith other

/-- An expiry once the transition gave `changed`: the invoice read back, and the expiry recorded
if the transition moved it. -/
def expireFrom (id : Uuid) (changed : Bool) : BillingM Bool :=
  Invoicing.require id >>= fun invoice => (if changed then recordExpiry id invoice else pure ()) >>= fun _ => pure changed

theorem lookup_eq (payload : Payload) :
    lookup payload = Invoicing.findByProviderId payload.providerInvoiceId >>= fun found => match found with
      | some invoice => pure (some invoice)
      | none => lookupLocally payload := by
  unfold lookup
  refine bind_congr fun found => ?_
  cases found with
  | none =>
    dsimp only
    unfold lookupLocally
    cases payload.externalId.bind Uuid.parse? <;> rfl
  | some invoice => rfl

theorem process_eq (payload : Payload) :
    process payload =
      if Event.parse payload.eventType == .other then pure .ignored
      else lookup payload >>= answered payload := by
  unfold process
  dsimp only
  by_cases other : (Event.parse payload.eventType == .other) = true
  · rw [if_pos other, if_pos other]
  · rw [if_neg other, if_neg other]
    refine bind_congr fun found => ?_
    cases found with
    | none => rfl
    | some invoice =>
      dsimp only [answered]
      unfold lookedUp
      by_cases settled : (!invoice.isPending) = true
      · rw [if_pos settled, if_pos settled]
      · rw [if_neg settled, if_neg settled]
        cases event : Event.parse payload.eventType with
        | paid =>
          dsimp only
          -- the payment time is read before the settlement, from the callback or the clock
          cases paid : payload.paidAt with
          | none =>
            simp only [paidAtOf, paid]
            refine bind_congr fun paidAt => bind_congr fun result => ?_
            cases result <;> rfl
          | some moment =>
            simp only [paidAtOf, paid]
            refine bind_congr fun paidAt => bind_congr fun result => ?_
            cases result <;> rfl
        | expired => rfl
        | other => rfl

theorem settleWithin_eq (id : Uuid) (payment : Payment) (retries : Nat) :
    settleWithin id payment retries = settleOnce id payment (onFailureOf id payment retries) := by
  cases retries with
  | zero => rfl
  | succ retries =>
    show settleOnce id payment _ = settleOnce id payment _
    congr 1

theorem settleOnce_eq (id : Uuid) (payment : Payment) (onFailure : Failure → BillingM SettleOutcome) :
    settleOnce id payment onFailure = loadInvoice id >>= fun invoice =>
      if !invoice.isPending then pure (.alreadyProcessed invoice) else settleFrom id invoice payment onFailure := by
  unfold settleOnce settleFrom drawWrite
  refine bind_congr fun invoice => ?_
  by_cases settled : (!invoice.isPending) = true
  · rw [if_pos settled, if_pos settled]
  · rw [if_neg settled, if_neg settled]
    simp only [bind_assoc, pure_bind]
    refine bind_congr fun current => ?_
    -- a new subscription's identifier is drawn only when the company has none
    split
    · simp only [bind_assoc]
      refine bind_congr fun newId => bind_congr fun settings => bind_congr fun at_ => bind_congr fun write =>
        bind_congr fun result => ?_
      rcases result with failure | (_ | _) <;> rfl
    · simp only [bind_assoc, pure_bind]
      refine bind_congr fun settings => bind_congr fun at_ => bind_congr fun write => bind_congr fun result => ?_
      rcases result with failure | (_ | _) <;> rfl

theorem markPaid_eq (id : Uuid) (payment : Payment) (write : SubscriptionWrite) :
    Invoicing.markPaid id payment write = Calls.settleInvoice id payment write >>= fun settled =>
      if settled then recordPayment id payment write >>= fun _ => pure true
      else Invoicing.require id >>= fun _ => pure false := rfl

theorem markExpired_eq (id : Uuid) :
    Invoicing.markExpired id = Calls.transitionInvoice id .expired none >>= expireFrom id := by
  unfold Invoicing.markExpired Invoicing.close expireFrom recordExpiry
  refine bind_congr fun changed => bind_congr fun invoice => ?_
  cases changed with
  | false => simp only [Bool.false_eq_true, if_false, pure_bind]
  | true => simp only [if_true, bind_assoc]

section Fragments

variable (world : World)

theorem run_bind_congr {α β : Type} (first : BillingM α) {second third : α → BillingM β}
    (same : ∀ value later, (second value).run.run later = (third value).run.run later) :
    (first >>= second).run.run world = (first >>= third).run.run world := by
  simp only [run_bind]
  rcases first.run.run world with ⟨_ | value, middle⟩
  · rfl
  · exact same value middle

theorem run_bind_assoc {α β γ : Type} (first : BillingM α) (second : α → BillingM β) (third : β → BillingM γ) :
    ((first >>= second) >>= third).run.run world = (first >>= fun value => second value >>= third).run.run world := by
  simp only [run_bind]
  rcases first.run.run world with ⟨_ | value, middle⟩ <;> rfl

theorem run_attempt {α : Type} (action : BillingM α) :
    (attempt action).run.run world =
      match action.run.run world with
      | (.ok value, later) => (.ok (.ok value), later)
      | (.error (.failed failure), later) => (.ok (.error failure), later)
      | (.error halt, later) => (.error halt, later) := by
  unfold attempt
  rw [run_catchFailure]
  have mapped : (Except.ok <$> action : BillingM (Except Failure α)).run.run world =
      match action.run.run world with
      | (.ok value, later) => (.ok (.ok value), later)
      | (.error halt, later) => (.error halt, later) := by
    simp only [Functor.map, ExceptT.map, ExceptT.run, ExceptT.mk, StateT.run, bind, StateT.bind]
    rcases action world with ⟨_ | _, later⟩ <;> rfl
  rw [mapped]
  rcases action.run.run world with ⟨halt | value, later⟩
  · cases halt <;> rfl
  · rfl

/-- Catching the failures of an action followed by a value is catching those of the action. -/
theorem run_attempt_then {α β γ : Type} (first : BillingM α) (value : β) (next : Except Failure β → BillingM γ) :
    (attempt (first >>= fun _ => pure value) >>= next).run.run world =
      (attempt first >>= fun result => match result with
        | .ok _ => next (.ok value)
        | .error failure => next (.error failure)).run.run world := by
  rw [run_bind, run_attempt, run_bind, run_bind, run_attempt]
  rcases first.run.run world with ⟨halt | _, later⟩
  · cases halt <;> rfl
  · rfl

/-- Catching the failures of two actions in a row is catching those of the first, then those of
the second. -/
theorem run_attempt_bind {α β γ : Type} (first : BillingM α) (second : α → BillingM β)
    (next : Except Failure β → BillingM γ) :
    (attempt (first >>= second) >>= next).run.run world =
      (attempt first >>= fun result => match result with
        | .ok value => attempt (second value) >>= next
        | .error failure => next (.error failure)).run.run world := by
  rw [run_bind, run_attempt, run_bind, run_bind, run_attempt]
  rcases first.run.run world with ⟨halt | value, later⟩
  · cases halt <;> rfl
  · dsimp only
    rw [run_bind, run_attempt]

end Fragments

/-! ## The stages run the handler -/

open DeliveryStage

/-- Within `count` calls the delivery has finished as `action` ends, in the world `action` leaves. -/
def Ends (count : Nat) (stage : DeliveryStage) (action : BillingM Outcome) : Prop :=
  ∀ world, (advanceTimes count stage world).1.outcome? = some (action.run.run world).1 ∧
    (advanceTimes count stage world).2 = (action.run.run world).2

theorem advanceTimes_finished (count : Nat) (outcome : Except Halt Outcome) (settled : Bool) (world : World) :
    advanceTimes count (finished outcome settled) world = (finished outcome settled, world) := by
  induction count with
  | zero => rfl
  | succ count inductionHypothesis => exact inductionHypothesis

theorem advanceTimes_add (count extra : Nat) (stage : DeliveryStage) (world : World) :
    advanceTimes (count + extra) stage world =
      advanceTimes extra (advanceTimes count stage world).1 (advanceTimes count stage world).2 := by
  induction count generalizing stage world with
  | zero => rw [Nat.zero_add]; rfl
  | succ count inductionHypothesis =>
    rw [Nat.add_right_comm]
    exact inductionHypothesis _ _

namespace Ends

variable {count : Nat} {stage : DeliveryStage} {action : BillingM Outcome}

theorem finished {outcome : Except Halt Outcome} {settled : Bool}
    (ends : ∀ world, action.run.run world = (outcome, world)) : Ends count (.finished outcome settled) action := by
  intro world
  rw [advanceTimes_finished, ends]
  exact ⟨rfl, rfl⟩

theorem congr {other : BillingM Outcome} (same : ∀ world, action.run.run world = other.run.run world)
    (ends : Ends count stage action) : Ends count stage other := by
  intro world
  rw [← same]
  exact ends world

/-- More calls than a delivery needs change nothing once it has finished. -/
theorem mono {larger : Nat} (ends : Ends count stage action) (more : count ≤ larger) : Ends larger stage action := by
  intro world
  obtain ⟨extra, rfl⟩ := Nat.exists_eq_add_of_le more
  obtain ⟨ended, left⟩ := ends world
  have isFinished : (advanceTimes count stage world).1 =
      .finished (action.run.run world).1 (advanceTimes count stage world).1.settledFlag := by
    cases reached : (advanceTimes count stage world).1 <;> simp_all [outcome?, settledFlag]
  rw [advanceTimes_add, isFinished, advanceTimes_finished, left]
  exact ⟨rfl, rfl⟩

/-- A stage whose call is followed by what the next stages run ends like the call followed by
that. -/
theorem step {β : Type} {call : BillingM β} {next : β → DeliveryStage} {settled : Bool}
    {rest : β → BillingM Outcome} (steps : ∀ world, stage.advance world = after call next settled world)
    (later : ∀ value, Ends count (next value) (rest value)) : Ends (count + 1) stage (call >>= rest) := by
  intro world
  simp only [advanceTimes, steps, after, run_bind]
  rcases call.run.run world with ⟨halt | value, middle⟩
  · rw [advanceTimes_finished]
    exact ⟨rfl, rfl⟩
  · exact later value middle

end Ends

section Settling

variable (id : Uuid) (payment : Payment)

theorem ends_recordingEffect (invoice : Invoice) (current : Option Subscription) (write : SubscriptionWrite)
    (onFailure : Failure → BillingM SettleOutcome) :
    Ends 1 (recordingEffect id invoice current write payment)
      (afterMarking id invoice current write payment onFailure (.ok true) >>= reported id) :=
  Ends.congr (fun world => (run_bind_assoc world _ _ _).symm)
    (Ends.step (fun _ => rfl) fun _ => Ends.finished fun _ => rfl)

theorem ends_reloading (invoice : Invoice) (current : Option Subscription) (write : SubscriptionWrite)
    (onFailure : Failure → BillingM SettleOutcome) :
    Ends 1 (reloading id) (afterMarking id invoice current write payment onFailure (.ok false) >>= reported id) :=
  Ends.congr (fun world => (run_bind_assoc world _ _ _).symm)
    (Ends.step (fun _ => rfl) fun _ => Ends.finished fun _ => rfl)

variable {retries : Nat}
  (retry : ∀ failure, Ends (4 * retries + 1) (retryOrFail id payment retries failure)
    (onFailureOf id payment retries failure >>= reported id))
include retry

theorem ends_confirming (invoice : Invoice) (current : Option Subscription) (write : SubscriptionWrite) :
    Ends (4 * retries + 2) (confirming id payment retries)
      ((attempt (Invoicing.require id >>= fun _ => pure false) >>=
        afterMarking id invoice current write payment (onFailureOf id payment retries)) >>= reported id) := by
  have stepped : Ends (4 * retries + 1 + 1) (confirming id payment retries)
      (attempt (Invoicing.require id) >>= fun result => match result with
        | .ok _ => afterMarking id invoice current write payment (onFailureOf id payment retries) (.ok false) >>=
          reported id
        | .error failure => onFailureOf id payment retries failure >>= reported id) := by
    refine Ends.step (fun _ => rfl) fun result => ?_
    cases result with
    | ok _ => exact (ends_reloading id payment invoice current write _).mono (by omega)
    | error failure => exact retry failure
  refine Ends.congr (fun world => ?_) stepped
  rw [run_bind_assoc, run_attempt_then]
  refine run_bind_congr world _ fun result later => ?_
  cases result <;> rfl

theorem ends_recordingPayment (invoice : Invoice) (current : Option Subscription) (write : SubscriptionWrite) :
    Ends (4 * retries + 2) (recordingPayment id invoice current write payment retries)
      ((attempt (recordPayment id payment write >>= fun _ => pure true) >>=
        afterMarking id invoice current write payment (onFailureOf id payment retries)) >>= reported id) := by
  have stepped : Ends (4 * retries + 1 + 1) (recordingPayment id invoice current write payment retries)
      (attempt (recordPayment id payment write) >>= fun result => match result with
        | .ok _ => afterMarking id invoice current write payment (onFailureOf id payment retries) (.ok true) >>=
          reported id
        | .error failure => onFailureOf id payment retries failure >>= reported id) := by
    refine Ends.step (fun _ => rfl) fun result => ?_
    cases result with
    | ok _ => exact (ends_recordingEffect id payment invoice current write _).mono (by omega)
    | error failure => exact retry failure
  refine Ends.congr (fun world => ?_) stepped
  rw [run_bind_assoc, run_attempt_then]
  refine run_bind_congr world _ fun result later => ?_
  cases result <;> rfl

theorem ends_marking (invoice : Invoice) (current : Option Subscription) (write : SubscriptionWrite) :
    Ends (4 * retries + 3) (marking id invoice current write payment retries)
      ((attempt (Invoicing.markPaid id payment write) >>=
        afterMarking id invoice current write payment (onFailureOf id payment retries)) >>= reported id) := by
  have stepped : Ends (4 * retries + 2 + 1) (marking id invoice current write payment retries)
      (attempt (Calls.settleInvoice id payment write) >>= fun result => match result with
        | .ok true => (attempt (recordPayment id payment write >>= fun _ => pure true) >>=
            afterMarking id invoice current write payment (onFailureOf id payment retries)) >>= reported id
        | .ok false => (attempt (Invoicing.require id >>= fun _ => pure false) >>=
            afterMarking id invoice current write payment (onFailureOf id payment retries)) >>= reported id
        | .error failure => onFailureOf id payment retries failure >>= reported id) := by
    refine Ends.step (fun _ => rfl) fun result => ?_
    rcases result with failure | (_ | _)
    · exact (retry failure).mono (by omega)
    · exact ends_confirming id payment retry invoice current write
    · exact ends_recordingPayment id payment retry invoice current write
  refine Ends.congr (fun world => ?_) stepped
  -- marking the invoice paid is the settlement call followed by its event or its re-read
  rw [markPaid_eq, run_bind_assoc, run_attempt_bind]
  refine run_bind_congr world _ fun result later => ?_
  rcases result with failure | (_ | _)
  · rfl
  · simp only [Bool.false_eq_true, if_false]
    rw [run_bind_assoc]
  · simp only [if_true]
    rw [run_bind_assoc]

theorem ends_reading (invoice : Invoice) :
    Ends (4 * retries + 4) (reading id invoice payment retries)
      (settleFrom id invoice payment (onFailureOf id payment retries) >>= reported id) :=
  Ends.congr (fun world => (run_bind_assoc world _ _ _).symm)
    (Ends.step (fun _ => rfl) fun drawn => ends_marking id payment retry invoice drawn.1 drawn.2)

theorem ends_loadingWith :
    Ends (4 * retries + 5) (loading id payment retries) (settleWithin id payment retries >>= reported id) := by
  have stepped : Ends (4 * retries + 4 + 1) (loading id payment retries)
      (loadInvoice id >>= fun invoice =>
        (if !invoice.isPending then pure (.alreadyProcessed invoice) else
          settleFrom id invoice payment (onFailureOf id payment retries)) >>= reported id) := by
    refine Ends.step (fun _ => rfl) fun invoice => ?_
    by_cases settled : (!invoice.isPending) = true
    · simp only [settled, if_true]
      exact Ends.finished fun _ => rfl
    · simp only [settled, Bool.false_eq_true, if_false]
      exact ends_reading id payment retry invoice
  refine Ends.congr (fun world => ?_) stepped
  rw [settleWithin_eq, settleOnce_eq, run_bind_assoc]

end Settling

/-- A settlement with `retries` attempts left ends within `4 * retries + 5` calls, like
`settleWithin`. -/
theorem ends_loading (id : Uuid) (payment : Payment) :
    ∀ retries, Ends (4 * retries + 5) (loading id payment retries) (settleWithin id payment retries >>= reported id)
  | 0 => ends_loadingWith id payment fun _ => Ends.finished fun _ => rfl
  | retries + 1 => ends_loadingWith id payment fun failure => by
    cases failure with
    | concurrentModification reason => exact ends_loading id payment retries
    | _ => exact Ends.finished fun _ => rfl

theorem ends_settling (id : Uuid) (payload : Payload) :
    Ends 14 (settling id payload)
      (paidAtOf payload >>= fun paidAt => settle id (paymentOf payload paidAt) >>= reported id) := by
  have stepped : Ends (4 * 2 + 5 + 1) (settling id payload)
      (beginSettling id payload >>= fun paidAt => settleWithin id (paymentOf payload paidAt) 2 >>= reported id) :=
    Ends.step (fun _ => rfl) fun paidAt => ends_loading id (paymentOf payload paidAt) 2
  refine Ends.congr (fun world => ?_) stepped
  -- both load the invoice once before the attempts, and only the payment time is kept
  rw [beginSettling, run_bind_assoc]
  refine run_bind_congr world _ fun paidAt later => ?_
  rw [run_bind_assoc, settle, run_bind_assoc]
  exact run_bind_congr later _ fun _ _ => rfl

section Closing

variable (id : Uuid)

theorem ends_rereading (changed : Bool) :
    Ends 2 (rereading id changed) (expireFrom id changed >>= expiryReported id) := by
  refine Ends.congr (fun world => (run_bind_assoc world _ _ _).symm) (Ends.step (fun _ => rfl) fun invoice => ?_)
  cases changed with
  | false => exact Ends.finished fun _ => rfl
  | true =>
    have recorded : Ends (0 + 1) (recordingClose id invoice)
        (recordExpiry id invoice >>= fun _ => pure true >>= expiryReported id) :=
      Ends.step (fun _ => rfl) fun _ => Ends.finished fun _ => rfl
    exact Ends.congr (fun world => (run_bind_assoc world _ _ _).symm) recorded

theorem ends_closing :
    Ends 3 (closing id) (Invoicing.markExpired id >>= expiryReported id) := by
  refine Ends.congr (fun world => ?_) (Ends.step (fun _ => rfl) (ends_rereading id))
  rw [markExpired_eq, run_bind_assoc]

end Closing

theorem ends_onInvoice (payload : Payload) (invoice : Invoice) :
    Ends 14 (onInvoice payload invoice) (lookedUp payload invoice) := by
  unfold onInvoice lookedUp
  by_cases settled : (!invoice.isPending) = true
  · simp only [settled, if_true]
    exact Ends.finished fun _ => rfl
  · simp only [settled, Bool.false_eq_true, if_false]
    cases Event.parse payload.eventType with
    | paid => exact ends_settling invoice.id payload
    | expired => exact (ends_closing invoice.id).mono (by omega)
    | other => exact Ends.finished fun _ => rfl

theorem ends_byLocalId (payload : Payload) (localId : Uuid) :
    Ends 15 (byLocalId payload localId)
      (Invoicing.find localId >>= fun found => answered payload (found.filter (linkedAlike payload))) := by
  refine Ends.step (fun _ => rfl) fun found => ?_
  unfold onLocalLookup
  cases found.filter (linkedAlike payload) with
  | none => exact Ends.finished fun _ => rfl
  | some invoice => exact ends_onInvoice payload invoice

/-- Sixteen calls are enough for a delivery, and advancing one is running the handler. -/
theorem ends_process (payload : Payload) : Ends 16 (arrived payload) (process payload) := by
  rw [process_eq]
  by_cases other : (Event.parse payload.eventType == .other) = true
  · rw [if_pos other]
    intro world
    simp only [advanceTimes, advance, if_pos other]
    exact ⟨rfl, rfl⟩
  · rw [if_neg other]
    have stepped : Ends (15 + 1) (arrived payload)
        (Invoicing.findByProviderId payload.providerInvoiceId >>= fun found =>
          (match found with
            | some invoice => pure (some invoice)
            | none => lookupLocally payload) >>= answered payload) := by
      refine Ends.step (fun world => show _ = after _ (onProviderLookup payload) false world by
        simp only [advance, if_neg other]) fun found => ?_
      cases found with
      | some invoice => exact (ends_onInvoice payload invoice).mono (by omega)
      | none =>
        unfold onProviderLookup lookupLocally
        cases payload.externalId.bind Uuid.parse? with
        | none => exact Ends.finished fun _ => rfl
        | some localId =>
          exact Ends.congr (fun world => (run_bind_assoc world _ _ _).symm) (ends_byLocalId payload localId)
    refine Ends.congr (fun world => ?_) stepped
    rw [lookup_eq, run_bind_assoc]

end SeatBilling.Webhook
