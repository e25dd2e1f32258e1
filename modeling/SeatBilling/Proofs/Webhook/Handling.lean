import SeatBilling.Proofs.Webhook.SettlesOnce
import SeatBilling.Proofs.Access.FastPath

/-!
# One callback, end to end

The handler of a payment callback decides in a fixed order: the secret first, before the body is
read; then the body, which must decode; then the event, which must be a payment or an expiry in
any letter case; then the invoice, which its lookup must find still pending. Each refusal
answers without touching the records, so a callback changes them only when every check passes
(`handle_changes_records_only_if`). That holds in every world, whatever the backend and the
armed faults, since the lookups only read (`KeepsRecords`).

The lookup prefers the invoice linked to the provider's id the callback gives and falls back to
the local id it echoes only for an invoice linked to no provider id (`named_eq_some_iff`). Where
the lookups answer from memory, a payment then runs exactly the settlement of the invoice and an
expiry exactly the marking of it as expired.
-/

namespace SeatBilling

/-! ## Actions that keep the records -/

/-- The action leaves the records in memory as they were, whatever it ends with. -/
def KeepsRecords {α : Type} (action : BillingM α) : Prop :=
  ∀ world, (action.run.run world).2.store = world.store

namespace KeepsRecords

variable {α β : Type}

theorem pure (value : α) : KeepsRecords (Pure.pure value : BillingM α) := fun _ => rfl

theorem bind {first : BillingM α} {next : α → BillingM β} (keeps : KeepsRecords first)
    (rest : ∀ value, KeepsRecords (next value)) : KeepsRecords (first >>= next) := by
  intro world
  rw [run_bind]
  rcases ran : first.run.run world with ⟨halt | value, middle⟩
  · have kept := keeps world
    rw [ran] at kept
    exact kept
  · have kept := keeps world
    rw [ran] at kept
    exact (rest value middle).trans kept

theorem readStore (view : Store → α) : KeepsRecords (Calls.readStore view) := fun _ => rfl

theorem onDatabase (connection : Option Database.Connection) (step : SqlStore.StoreM α) :
    KeepsRecords (Calls.onDatabase connection step) := by
  intro world
  unfold Calls.onDatabase
  simp only [run_bind, run_get]
  split
  · rfl
  · rcases step.run.run ⟨world.server, connection⟩ with ⟨result, link⟩
    simp only [run_bind, run_set]
    cases result <;> rfl

theorem backed {onMemory : BillingM α} (memory : KeepsRecords onMemory) (step : SqlStore.StoreM α) :
    KeepsRecords (Calls.backed onMemory step) := by
  unfold Calls.backed
  refine bind (fun _ => rfl) fun world => ?_
  cases world.backend with
  | memory => exact memory
  | database connection => exact onDatabase connection step

/-- A guarded call keeps the records when its work does: whatever fault it takes, it does its
work, halts, or gives an answer, on a world with the same records. -/
theorem guarded {call : Call} {onStale onSkip onMissing : Option α} {work : BillingM α}
    (keeps : KeepsRecords work) : KeepsRecords (SeatBilling.guarded call onStale onSkip onMissing work) := by
  intro world
  obtain ⟨faults, timeLeft, worked | ⟨halt, halted⟩ | ⟨value, -, answered⟩⟩ :=
    guarded_outcomes world call onStale onSkip onMissing work
  · rw [worked]
    exact keeps _
  · rw [halted]
  · rw [answered]

/-- A lookup of a store record keeps the records, on either backend. -/
theorem readCall (call : Call) (onStale onSkip onMissing : Option α) (view : Store → α) (step : SqlStore.StoreM α) :
    KeepsRecords (SeatBilling.guarded call onStale onSkip onMissing (Calls.backed (Calls.readStore view) step)) :=
  guarded (backed (readStore view) step)

end KeepsRecords

namespace Webhook

open SeatBilling.Ledger

theorem lookup_keepsRecords (payload : Payload) : KeepsRecords (lookup payload) := by
  rw [lookup_eq]
  refine .bind (.readCall _ _ _ _ _ _) fun found => ?_
  cases found with
  | some invoice => exact .pure _
  | none =>
    unfold lookupLocally
    cases payload.externalId.bind Uuid.parse? with
    | none => exact .pure _
    | some localId => exact .bind (.readCall _ _ _ _ _ _) fun _ => .pure _

/-! ## The secret, the body and the event -/

/-- A callback's secret is accepted: one is configured, and the one given is the same text. -/
def Accepts (config : Config) (token : Option String) : Prop :=
  config.callbackToken ≠ "" ∧ token.getD "" = config.callbackToken

instance (config : Config) (token : Option String) : Decidable (Accepts config token) :=
  inferInstanceAs (Decidable (_ ∧ _))

theorem verifyToken_run (world : World) (token : Option String) :
    (verifyToken token).run.run world =
      if Accepts world.config token then (.ok (), world) else (.error (.failed .webhookTokenInvalid), world) := by
  simp only [verifyToken, run_bind, run_config]
  by_cases accepted : Accepts world.config token
  · have passes : (world.config.callbackToken.isEmpty || token.getD "" != world.config.callbackToken) = false := by
      obtain ⟨configured, same⟩ := accepted
      simp [configured, same]
    rw [if_pos accepted, passes]
    rfl
  · -- an empty configured secret refuses every callback, and so does a different one
    have refuses : (world.config.callbackToken.isEmpty || token.getD "" != world.config.callbackToken) = true := by
      by_cases configured : world.config.callbackToken = ""
      · simp [configured]
      · have differs : token.getD "" ≠ world.config.callbackToken := fun same => accepted ⟨configured, same⟩
        simp [differs]
    rw [if_neg accepted, refuses]
    rfl

/-- A refused secret ends the callback before its body is read, whatever the body. -/
theorem handle_run_refused {world : World} {token : Option String} (refused : ¬ Accepts world.config token)
    (body : String) : (handle token body).run.run world = (.error (.failed .webhookTokenInvalid), world) := by
  simp only [handle, run_bind, verifyToken_run, refused, ↓reduceIte]

theorem handle_run_accepted {world : World} {token : Option String} (accepted : Accepts world.config token)
    (body : String) :
    (handle token body).run.run world =
      match payloadRecord.decode body with
      | .ok payload => (process payload).run.run world
      | .error problem => (.error (.failed (.invalidInput ("Malformed webhook body: " ++ problem.message))), world) := by
  simp only [handle, run_bind, verifyToken_run, accepted, ↓reduceIte]
  cases payloadRecord.decode body <;> rfl

/-- The events a callback acts on, named in any letter case. -/
theorem Event.parse_ne_other_iff (eventType : String) :
    Event.parse eventType ≠ .other ↔
      eventType.map Char.toLower ∈ ["paid", "settled", "invoice.paid", "expired", "failed", "invoice.expired"] := by
  unfold Event.parse
  split <;> simp_all

theorem process_run_other {payload : Payload} (other : Event.parse payload.eventType = .other) (world : World) :
    (process payload).run.run world = (.ok .ignored, world) := by
  rw [process_eq, other]
  rfl

theorem process_run_known {payload : Payload} (known : Event.parse payload.eventType ≠ .other) (world : World) :
    (process payload).run.run world =
      match (lookup payload).run.run world with
      | (.ok found, after) => (answered payload found).run.run after
      | (.error halt, after) => (.error halt, after) := by
  have acted : (Event.parse payload.eventType == .other) = false := by simpa using known
  simp only [process_eq, acted, Bool.false_eq_true, ↓reduceIte]
  rw [run_bind]
  rcases (lookup payload).run.run world with ⟨_ | _, after⟩ <;> rfl

/-! ## Which invoice a callback names -/

/-- The invoice a callback names: the one linked to the provider's id it gives, or, when no
invoice is linked to that id, the one under the local id it echoes, if that one is linked to no
provider id at all. -/
theorem named_eq_some_iff {payload : Payload} {store : Store} {invoice : Invoice} :
    named payload store = some invoice ↔
      store.invoiceByProviderId? payload.providerInvoiceId = some invoice ∨
        store.invoiceByProviderId? payload.providerInvoiceId = none ∧
          ∃ localId, payload.externalId.bind Uuid.parse? = some localId ∧ store.invoice? localId = some invoice ∧
            invoice.providerInvoiceId = none := by
  unfold named
  cases byProvider : store.invoiceByProviderId? payload.providerInvoiceId with
  | some linked => simp
  | none =>
    simp only [reduceCtorEq, false_or, true_and, Option.filter_eq_some_iff, Option.bind_eq_some_iff]
    constructor
    · rintro ⟨⟨localId, parsed, stored⟩, alike⟩
      refine ⟨localId, parsed, stored, ?_⟩
      -- an invoice linked to the callback's provider id would have been found by it
      cases linked : invoice.providerInvoiceId with
      | none => rfl
      | some id =>
        have sameId : id = payload.providerInvoiceId := by
          simpa [linkedAlike, linked] using alike
        have member := List.mem_of_find?_eq_some stored
        have missed := List.find?_eq_none.mp byProvider invoice member
        simp [linked, sameId] at missed
    · rintro ⟨localId, parsed, stored, unlinked⟩
      exact ⟨⟨localId, parsed, stored⟩, by simp [linkedAlike, unlinked]⟩

/-- A callback never names an invoice linked to another provider id. -/
theorem named_linkedAlike {payload : Payload} {store : Store} {invoice : Invoice}
    (found : named payload store = some invoice) :
    invoice.providerInvoiceId = none ∨ invoice.providerInvoiceId = some payload.providerInvoiceId := by
  rcases named_eq_some_iff.mp found with byProvider | ⟨-, -, -, -, unlinked⟩
  · have linked := List.find?_some byProvider
    exact .inr (by simpa using linked)
  · exact .inl unlinked

/-- The invoice lookups of a callback answer from the records in memory: no fault is armed for
them. -/
structure LookupsAnswer (world : World) : Prop where
  inMemory : world.backend = .memory
  byProviderId : ∀ fault ∈ world.faults, fault.method ≠ Call.getInvoiceByProviderId.name
  byLocalId : ∀ fault ∈ world.faults, fault.method ≠ Call.getInvoice.name

theorem lookup_run_answered {world : World} (answers : LookupsAnswer world) (payload : Payload) :
    (lookup payload).run.run world = (.ok (named payload world.store), world) := by
  rw [lookup_eq, run_bind]
  simp only [Invoicing.findByProviderId, Calls.getInvoiceByProviderId, guarded_run_of_unarmed answers.byProviderId,
    Calls.backed_run answers.inMemory, Calls.readStore_run]
  unfold named
  cases world.store.invoiceByProviderId? payload.providerInvoiceId with
  | some invoice => rfl
  | none =>
    dsimp only
    unfold lookupLocally
    cases payload.externalId.bind Uuid.parse? with
    | none => rfl
    | some localId =>
      simp only [run_bind, Invoicing.find, Calls.getInvoice, guarded_run_of_unarmed answers.byLocalId,
        Calls.backed_run answers.inMemory, Calls.readStore_run]
      rfl

/-! ## What the handler answers once the invoice is looked up -/

section Answered

variable (payload : Payload) (world : World)

theorem answered_run_none : (answered payload none).run.run world = (.ok .unknownInvoice, world) := rfl

theorem answered_run_closed {invoice : Invoice} (closed : invoice.isPending = false) :
    (answered payload (some invoice)).run.run world = (.ok (.alreadyProcessed invoice.id), world) := by
  simp only [answered, lookedUp, closed, Bool.not_false, ↓reduceIte]
  rfl

/-- A payment settles the invoice as a settlement does, paid when the callback says or now. -/
theorem answered_run_paid {invoice : Invoice} (pending : invoice.isPending = true)
    (paid : Event.parse payload.eventType = .paid) :
    (answered payload (some invoice)).run.run world =
      match (settle invoice.id ⟨payload.paidAt.getD world.clock, payload.paymentMethod, payload.paymentChannel⟩).run.run
          world with
      | (.ok (.applied _), after) => (.ok (.applied invoice.id), after)
      | (.ok (.alreadyProcessed settled), after) => (.ok (.alreadyProcessed settled.id), after)
      | (.error halt, after) => (.error halt, after) := by
  have paidAt : (paidAtOf payload).run.run world = (.ok (payload.paidAt.getD world.clock), world) := by
    unfold paidAtOf
    cases payload.paidAt <;> rfl
  simp only [answered, lookedUp, pending, Bool.not_true, Bool.false_eq_true, ↓reduceIte, paid, run_bind, paidAt,
    paymentOf]
  rcases (settle invoice.id ⟨payload.paidAt.getD world.clock, payload.paymentMethod, payload.paymentChannel⟩).run.run
    world with ⟨_ | (_ | _), after⟩ <;> rfl

/-- An expiry moves the invoice as marking it expired does. -/
theorem answered_run_expired {invoice : Invoice} (pending : invoice.isPending = true)
    (expired : Event.parse payload.eventType = .expired) :
    (answered payload (some invoice)).run.run world =
      match (Invoicing.markExpired invoice.id).run.run world with
      | (.ok changed, after) => (.ok (if changed then .expired invoice.id else .alreadyProcessed invoice.id), after)
      | (.error halt, after) => (.error halt, after) := by
  simp only [answered, lookedUp, pending, Bool.not_true, Bool.false_eq_true, ↓reduceIte, expired, run_bind]
  rcases (Invoicing.markExpired invoice.id).run.run world with ⟨_ | (_ | _), after⟩ <;> rfl

end Answered

/-! ## One delivery -/

/-- A callback changes the records only when its secret is accepted, its body decodes, it
reports a payment or an expiry, and its lookup finds a pending invoice. -/
theorem handle_changes_records_only_if {token : Option String} {body : String} {world after : World}
    {outcome : Except Halt Outcome} (ran : (handle token body).run.run world = (outcome, after))
    (changed : after.store ≠ world.store) :
    Accepts world.config token ∧ ∃ payload, payloadRecord.decode body = .ok payload ∧
      Event.parse payload.eventType ≠ .other ∧
      ∃ invoice looked, (lookup payload).run.run world = (.ok (some invoice), looked) ∧ invoice.isPending = true := by
  by_cases accepted : Accepts world.config token
  · rw [handle_run_accepted accepted] at ran
    cases decoded : payloadRecord.decode body with
    | error problem =>
      rw [decoded] at ran
      cases ran
      exact absurd rfl changed
    | ok payload =>
      rw [decoded] at ran
      dsimp only at ran
      by_cases other : Event.parse payload.eventType = .other
      · rw [process_run_other other] at ran
        cases ran
        exact absurd rfl changed
      · rw [process_run_known other] at ran
        -- the lookup reads only; what follows it changes nothing unless the invoice is pending
        have kept := lookup_keepsRecords payload world
        rcases looked : (lookup payload).run.run world with ⟨halt | found, middle⟩
        · rw [looked] at ran kept
          cases ran
          exact absurd kept changed
        · rw [looked] at ran kept
          dsimp only at ran
          cases found with
          | none =>
            rw [answered_run_none] at ran
            cases ran
            exact absurd kept changed
          | some invoice =>
            cases pending : invoice.isPending
            · rw [answered_run_closed payload middle pending] at ran
              cases ran
              exact absurd kept changed
            · exact ⟨accepted, payload, rfl, other, invoice, middle, looked, pending⟩
  · rw [handle_run_refused accepted] at ran
    cases ran
    exact absurd rfl changed

/-- Where the lookups answer from memory, an accepted callback of a known event answers as its
named invoice calls for. -/
theorem handle_run_answered {world : World} (answers : LookupsAnswer world) {token : Option String}
    (accepted : Accepts world.config token) {body : String} {payload : Payload}
    (decoded : payloadRecord.decode body = .ok payload) (known : Event.parse payload.eventType ≠ .other) :
    (handle token body).run.run world = (answered payload (named payload world.store)).run.run world := by
  rw [handle_run_accepted accepted, decoded]
  dsimp only
  rw [process_run_known known, lookup_run_answered answers]

end Webhook

open Webhook Ledger in
/-- One callback delivery, end to end. For every configured secret, given secret, body and
world:

* a secret that is not configured, or differs from the given one, is refused before the body is
  read, and nothing changes;
* a body that does not decode is refused as invalid input, and nothing changes;
* an event other than a payment or an expiry, in any letter case, is ignored;
* the records change only when all of these pass and the lookup finds a pending invoice;
* the lookup finds the invoice linked to the callback's provider id, or, when none is, the one
  under the local id it echoes if that one is linked to no provider id: never an invoice linked
  to another provider id;
* where the lookups answer from memory, an unknown invoice or one no longer pending is
  acknowledged and nothing changes, a payment runs exactly the settlement of the invoice (paid
  when the callback says, or now), and an expiry exactly the marking of it as expired. -/
theorem callback_delivery_end_to_end (token : Option String) (body : String) :
    (∀ world, ¬ Accepts world.config token →
        (handle token body).run.run world = (.error (.failed .webhookTokenInvalid), world)) ∧
      (∀ world problem, Accepts world.config token → payloadRecord.decode body = .error problem →
        (handle token body).run.run world =
          (.error (.failed (.invalidInput ("Malformed webhook body: " ++ problem.message))), world)) ∧
      (∀ eventType, Event.parse eventType ≠ .other ↔
        eventType.map Char.toLower ∈ ["paid", "settled", "invoice.paid", "expired", "failed", "invoice.expired"]) ∧
      (∀ world payload, Accepts world.config token → payloadRecord.decode body = .ok payload →
        Event.parse payload.eventType = .other → (handle token body).run.run world = (.ok .ignored, world)) ∧
      (∀ world outcome after, (handle token body).run.run world = (outcome, after) → after.store ≠ world.store →
        Accepts world.config token ∧ ∃ payload, payloadRecord.decode body = .ok payload ∧
          Event.parse payload.eventType ≠ .other ∧
          ∃ invoice looked, (lookup payload).run.run world = (.ok (some invoice), looked) ∧ invoice.isPending = true) ∧
      (∀ payload store invoice, named payload store = some invoice ↔
        store.invoiceByProviderId? payload.providerInvoiceId = some invoice ∨
          store.invoiceByProviderId? payload.providerInvoiceId = none ∧
            ∃ localId, payload.externalId.bind Uuid.parse? = some localId ∧ store.invoice? localId = some invoice ∧
              invoice.providerInvoiceId = none) ∧
      ∀ world payload, LookupsAnswer world → Accepts world.config token → payloadRecord.decode body = .ok payload →
        Event.parse payload.eventType ≠ .other →
        (lookup payload).run.run world = (.ok (named payload world.store), world) ∧
        (named payload world.store = none → (handle token body).run.run world = (.ok .unknownInvoice, world)) ∧
        ∀ invoice, named payload world.store = some invoice →
          (invoice.providerInvoiceId = none ∨ invoice.providerInvoiceId = some payload.providerInvoiceId) ∧
          (invoice.isPending = false →
            (handle token body).run.run world = (.ok (.alreadyProcessed invoice.id), world)) ∧
          (invoice.isPending = true → Event.parse payload.eventType = .paid →
            (handle token body).run.run world =
              match (settle invoice.id ⟨payload.paidAt.getD world.clock, payload.paymentMethod,
                  payload.paymentChannel⟩).run.run world with
              | (.ok (.applied _), after) => (.ok (.applied invoice.id), after)
              | (.ok (.alreadyProcessed settled), after) => (.ok (.alreadyProcessed settled.id), after)
              | (.error halt, after) => (.error halt, after)) ∧
          (invoice.isPending = true → Event.parse payload.eventType = .expired →
            (handle token body).run.run world =
              match (Invoicing.markExpired invoice.id).run.run world with
              | (.ok changed, after) =>
                (.ok (if changed then .expired invoice.id else .alreadyProcessed invoice.id), after)
              | (.error halt, after) => (.error halt, after)) := by
  refine ⟨fun world refused => handle_run_refused refused body, fun world problem accepted decoded => ?_,
    Event.parse_ne_other_iff, fun world payload accepted decoded other => ?_,
    fun world outcome after ran changed => handle_changes_records_only_if ran changed,
    fun payload store invoice => named_eq_some_iff,
    fun world payload answers accepted decoded known => ⟨lookup_run_answered answers payload, fun unnamed => ?_,
      fun invoice found => ⟨named_linkedAlike found, fun closed => ?_, fun pending paid => ?_,
        fun pending expired => ?_⟩⟩⟩
  · rw [handle_run_accepted accepted, decoded]
  · rw [handle_run_accepted accepted, decoded]
    exact process_run_other other world
  · rw [handle_run_answered answers accepted decoded known, unnamed, answered_run_none]
  · rw [handle_run_answered answers accepted decoded known, found, answered_run_closed payload world closed]
  · rw [handle_run_answered answers accepted decoded known, found, answered_run_paid payload world pending paid]
  · rw [handle_run_answered answers accepted decoded known, found, answered_run_expired payload world pending expired]

/-- A payment callback for `linkedInvoice` in the provider's own field names, its event in mixed
case. -/
def mixedCasePaymentBody : String :=
  "\x7b\"id\": \"inv_1\", \"status\": \"Invoice.Paid\", \"payment_method\": \"card\"\x7d"

/-- The payment callback accepted with the configured secret settles the invoice it names as a
settlement does; with another secret it is refused and nothing changes. -/
theorem mixed_case_payment_settles_linked_invoice :
    Webhook.LookupsAnswer Webhook.linkedStart ∧ Webhook.Accepts Webhook.linkedStart.config (some "test-callback-token") ∧
      Webhook.payloadRecord.decode mixedCasePaymentBody = .ok ⟨"inv_1", none, "Invoice.Paid", none, some "card", none⟩ ∧
      Webhook.named ⟨"inv_1", none, "Invoice.Paid", none, some "card", none⟩ Webhook.linkedStart.store =
        some Webhook.linkedInvoice ∧
      (Webhook.handle (some "test-callback-token") mixedCasePaymentBody).run.run Webhook.linkedStart =
        (match (Ledger.settle Webhook.linkedInvoice.id ⟨Webhook.linkedStart.clock, some "card", none⟩).run.run
            Webhook.linkedStart with
        | (.ok (.applied _), after) => (.ok (.applied Webhook.linkedInvoice.id), after)
        | (.ok (.alreadyProcessed settled), after) => (.ok (.alreadyProcessed settled.id), after)
        | (.error halt, after) => (.error halt, after)) ∧
      (Webhook.handle (some "another-token") mixedCasePaymentBody).run.run Webhook.linkedStart =
        (.error (.failed .webhookTokenInvalid), Webhook.linkedStart) := by
  have answers : Webhook.LookupsAnswer Webhook.linkedStart := ⟨rfl, nofun, nofun⟩
  have accepted : Webhook.Accepts Webhook.linkedStart.config (some "test-callback-token") := by decide
  have refused : ¬ Webhook.Accepts Webhook.linkedStart.config (some "another-token") := by decide
  have decoded : Webhook.payloadRecord.decode mixedCasePaymentBody =
      .ok ⟨"inv_1", none, "Invoice.Paid", none, some "card", none⟩ := by decide +kernel
  have found : Webhook.named ⟨"inv_1", none, "Invoice.Paid", none, some "card", none⟩ Webhook.linkedStart.store =
      some Webhook.linkedInvoice := by decide +kernel
  have delivery := callback_delivery_end_to_end (some "test-callback-token") mixedCasePaymentBody
  have settles := ((delivery.2.2.2.2.2.2 Webhook.linkedStart _ answers accepted decoded (by decide +kernel)).2.2
    Webhook.linkedInvoice found).2.2.1 rfl (by decide +kernel)
  exact ⟨answers, accepted, decoded, found, settles,
    (callback_delivery_end_to_end (some "another-token") mixedCasePaymentBody).1 Webhook.linkedStart refused⟩

end SeatBilling
