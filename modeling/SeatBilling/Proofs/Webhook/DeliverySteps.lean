import SeatBilling.Proofs.Webhook.DeliveryStages
import SeatBilling.Proofs.Store.ClosedInvoices
import SeatBilling.Proofs.Store.Versions
import SeatBilling.Proofs.Store.PendingInvoices

/-!
# One call of a delivery

What one call of a callback delivery does in an honest world, for a delivery whose callback
names the invoice `invoice`. The delivery changes the records once at most: the call that
moves the invoice out of `pending`, by settling or by expiring it, is its only write of an
invoice or a subscription, and the calls after that one only record events. Every other call
reads.

A settlement goes through only while the store still holds the subscription the delivery
read for the company, or still holds none, so what it writes is what `paidEffect` computes
from the subscription stored right before it.

`Fits` says what a delivery knows at each stage and `advance_stepped` is the one-step lemma.
-/

namespace SeatBilling.Webhook

open SeatBilling.Time
open SeatBilling.Ledger
open SeatBilling.Store
open DeliveryStage

/-! ## What a settlement buys -/

/-- What a settlement buys depends on what the invoice bills, and on nothing else of it. -/
theorem paidEffect_eq_of_terms {loaded invoice : Invoice} (same : loaded.terms = invoice.terms) (newId : Uuid)
    (current : Option Subscription) (paidAt now : Moment) (period : Span) :
    paidEffect newId loaded current paidAt now period = paidEffect newId invoice current paidAt now period := by
  simp only [Invoice.terms, Prod.mk.injEq] at same
  obtain ⟨company, purpose, plan, seats, -⟩ := same
  unfold paidEffect
  rw [company, purpose, plan, seats]

/-- With no subscription read, a settlement creates the company's first one, at version 0. -/
theorem paidEffect_none {newId : Uuid} {invoice : Invoice} {paidAt now : Moment} {period : Span}
    {write : SubscriptionWrite} (made : paidEffect newId invoice none paidAt now period = some write) :
    ∃ subscription, write = .insert subscription ∧ subscription.company = invoice.company ∧
      subscription.version = 0 := by
  unfold paidEffect at made
  cases shifted : paidAt.shift? period with
  | none => simp [shifted] at made
  | some periodEnd =>
    simp only [shifted] at made
    exact ⟨_, (Option.some.inj made).symm, rfl, rfl⟩

/-- The last step of a settlement of a stored subscription: the next record, stamped with the
version after the one read. -/
theorem update_written {current : Subscription} {write : SubscriptionWrite} {stamp : Int → Subscription}
    (wrote : ((Arith.within64 (current.version + 1)).bind fun version =>
      some (SubscriptionWrite.update (stamp version) current.version)) = some write)
    (sameId : ∀ version, (stamp version).id = current.id) (stamped : ∀ version, (stamp version).version = version) :
    ∃ subscription, write = .update subscription current.version ∧ subscription.id = current.id ∧
      subscription.version = current.version + 1 := by
  cases within : Arith.within64 (current.version + 1) with
  | none => simp [within] at wrote
  | some version =>
    simp only [within, Option.bind_some, Option.some.injEq] at wrote
    refine ⟨_, wrote.symm, sameId version, ?_⟩
    rw [stamped, (Arith.within64_eq_some.mp within).2]

/-- With a subscription read, a settlement updates that record, at the version after it. -/
theorem paidEffect_some {newId : Uuid} {invoice : Invoice} {current : Subscription} {paidAt now : Moment}
    {period : Span} {write : SubscriptionWrite}
    (made : paidEffect newId invoice (some current) paidAt now period = some write) :
    ∃ subscription, write = .update subscription current.version ∧ subscription.id = current.id ∧
      subscription.version = current.version + 1 := by
  unfold paidEffect at made
  simp only [bind, pure] at made
  -- each purpose makes the next record from the one read, keeping its identifier
  split at made
  · split at made <;>
    · obtain ⟨_, -, wrote⟩ := Option.bind_eq_some_iff.mp made
      simp only [Option.bind_some] at wrote
      exact update_written wrote (fun _ => rfl) (fun _ => rfl)
  · obtain ⟨_, -, wrote⟩ := Option.bind_eq_some_iff.mp made
    simp only [Option.bind_some] at wrote
    exact update_written wrote (fun _ => rfl) (fun _ => rfl)
  · split at made <;>
    · simp only [Option.bind_some] at made
      exact update_written made (fun _ => rfl) (fun _ => rfl)

/-! ## The invoice a callback names -/

/-- The invoice a callback names in a store: the one linked to the provider's id it gives, or
else the one under the local id it echoes, if that one is linked to no other provider id. -/
def named (payload : Payload) (store : Store) : Option Invoice :=
  match store.invoiceByProviderId? payload.providerInvoiceId with
  | some invoice => some invoice
  | none => ((payload.externalId.bind Uuid.parse?).bind store.invoice?).filter (linkedAlike payload)

/-- Whether a callback names the invoice under `id` in a store. -/
def Names (payload : Payload) (id : Uuid) (store : Store) : Prop :=
  (named payload store).map Invoice.id = some id

/-- Whether the invoice under `id` is still pending in a store. -/
def Open (id : Uuid) (store : Store) : Prop :=
  ∃ invoice, store.invoice? id = some invoice ∧ invoice.isPending = true

/-- The store holds a later state of `invoice` under its identifier. -/
def Tracks (invoice : Invoice) (store : Store) : Prop :=
  ∃ current, store.invoice? invoice.id = some current ∧ InvoiceStep invoice current

/-- A store whose invoice under `id` is not pending has none that is. -/
theorem not_open_of_found {id : Uuid} {store : Store} {invoice : Invoice} (found : store.invoice? id = some invoice)
    (closed : invoice.isPending = false) : ¬ Open id store := by
  rintro ⟨other, foundOther, pending⟩
  rw [found, Option.some.injEq] at foundOther
  subst foundOther
  rw [closed] at pending
  cases pending

/-! ## What a delivery knows at each stage -/

/-- Whether a delivery has moved its invoice out of `pending`. -/
def DeliveryStage.committed : DeliveryStage → Bool
  | recordingPayment .. => true
  | recordingEffect .. => true
  | rereading _ changed => changed
  | recordingClose .. => true
  | finished _ settled => settled
  | _ => false

/-- What a settling attempt read of the company's subscription, as the store still bears it
out: no subscription, or one the store still holds or has moved past. -/
def Current (company : Uuid) (store : Store) : Option Subscription → Prop
  | none => True
  | some read => NotBehind read store ∧ read.company = company

/-- The company's subscription as a store holds it: none of the company's, or that very
record under its identifier. -/
def StoredBefore (company : Uuid) (store : Store) : Option Subscription → Prop
  | none => store.subscriptionOf? company = none
  | some current => store.subscription? current.id = some current ∧ current.company = company

/-- A settlement of `invoice` from `before` to `after`: it wrote what `paidEffect` computes from
the company's subscription as `before` holds it, and `after` holds the subscription written. -/
def SettledFrom (invoice : Invoice) (period : Span) (before after : Store) : Prop :=
  ∃ current write newId paidAt now, StoredBefore invoice.company before current ∧
    paidEffect newId invoice current paidAt now period = some write ∧
    after.subscription? write.subscription.id = some write.subscription

/-- What a delivery of `payload` knows at each stage, when its callback names `invoice` and
the subscription period is `period`: the invoice it works on is `invoice`, a settlement comes
from a paid-type callback, a write drawn for it is what `paidEffect` computes from the
subscription read, which the store still bears out while the invoice is pending, and a
delivery that ended without moving the invoice found it already processed or halted. -/
def Fits (invoice : Invoice) (period : Span) (payload : Payload) (store : Store) : DeliveryStage → Prop
  | arrived arriving => arriving = payload
  | byLocalId arriving localId => arriving = payload ∧ localId = invoice.id
  | settling id _ => id = invoice.id ∧ Event.parse payload.eventType = .paid
  | loading id _ _ => id = invoice.id ∧ Event.parse payload.eventType = .paid
  | reading id loaded _ _ =>
    id = invoice.id ∧ Event.parse payload.eventType = .paid ∧ loaded.terms = invoice.terms
  | marking id _ current write payment _ =>
    id = invoice.id ∧ Event.parse payload.eventType = .paid ∧
      (∃ newId now, paidEffect newId invoice current payment.paidAt now period = some write) ∧
      (Open invoice.id store → Current invoice.company store current)
  | recordingPayment id .. => id = invoice.id
  | confirming id _ _ => id = invoice.id ∧ Event.parse payload.eventType = .paid
  | recordingEffect id .. => id = invoice.id
  | reloading id => id = invoice.id
  | closing id => id = invoice.id ∧ Event.parse payload.eventType = .expired
  | rereading id _ => id = invoice.id
  | recordingClose id _ => id = invoice.id
  | finished outcome settled =>
    settled = false → outcome = .ok (.alreadyProcessed invoice.id) ∨ ∃ halt, outcome = .error halt

/-- What one call of a delivery did to the records, between the committed flags before and
after it. -/
inductive Effect (invoice : Invoice) (period : Span) (payload : Payload) (before after : Store) :
    Bool → Bool → Prop
  /-- Nothing written. -/
  | quiet (committed : Bool) (same : after = before) : Effect invoice period payload before after committed committed
  /-- The delivery's one change: a write moves the invoice out of `pending`, a settlement for a
  paid-type callback and for any other a write that leaves the subscriptions alone. -/
  | commit (opened : Open invoice.id before) (closed : ¬ Open invoice.id after)
      (written : ∃ write : Write, after = write.apply before ∧ write.FreshInvoice before)
      (bought : Event.parse payload.eventType = .paid → SettledFrom invoice period before after)
      (kept : Event.parse payload.eventType ≠ .paid → after.subscriptions = before.subscriptions) :
      Effect invoice period payload before after false true
  /-- Events recorded once the invoice has moved. -/
  | record (subscriptions : after.subscriptions = before.subscriptions) (invoices : after.invoices = before.invoices) :
      Effect invoice period payload before after true true

/-- One call of a delivery at `stage` on `world`, leading to `moved`: the world stays honest and
configured alike, the next stage fits the records it leaves, and the call had one of the
effects above. -/
structure Stepped (invoice : Invoice) (payload : Payload) (world : World) (stage : DeliveryStage)
    (moved : DeliveryStage × World) : Prop where
  honest : Honest moved.2
  config : moved.2.config = world.config
  fits : Fits invoice world.config.period payload moved.2.store moved.1
  effect : Effect invoice world.config.period payload world.store moved.2.store stage.committed moved.1.committed

/-! ## The calls a delivery makes -/

section Calls

variable {settings : Config}

theorem findByProviderId_reads (providerId : String) :
    Reads settings (Invoicing.findByProviderId providerId) fun store found =>
      found = store.invoiceByProviderId? providerId :=
  Reads.readCall _ _ _ _ _ _

theorem find_reads (id : Uuid) : Reads settings (Invoicing.find id) fun store found => found = store.invoice? id :=
  Reads.readCall _ _ _ _ _ _

/-- Loading an invoice gives the one stored under its identifier. -/
theorem loadInvoice_reads (id : Uuid) :
    Reads settings (loadInvoice id) fun store invoice => store.invoice? id = some invoice := by
  unfold loadInvoice
  refine Reads.bind (Reads.readCall _ _ _ _ _ _) fun found => ?_
  cases found with
  | some invoice =>
    exact (Reads.pure invoice).mono fun _ _ same read => by rw [same, ← read]
  | none => exact (Reads.failWith _).mono fun _ _ never => never.elim

theorem require_reads (id : Uuid) :
    Reads settings (Invoicing.require id) fun store invoice => store.invoice? id = some invoice := by
  unfold Invoicing.require
  refine Reads.bind (Reads.readCall _ _ _ _ _ _) fun found => ?_
  cases found with
  | some invoice =>
    exact (Reads.pure invoice).mono fun _ _ same read => by rw [same, ← read]
  | none => exact (Reads.failWith _).mono fun _ _ never => never.elim

/-- A read whose failures are caught is still a read; a value it gives came from the read. -/
theorem Reads.attempt {α : Type} {action : BillingM α} {gives : Store → α → Prop}
    (reads : Reads settings action gives) :
    Reads settings (SeatBilling.attempt action) fun store result => ∀ value, result = .ok value → gives store value := by
  intro world honest sameConfig
  obtain ⟨later, sameStore, laterConfig, given⟩ := reads world honest sameConfig
  rw [run_attempt]
  rcases ran : action.run.run world with ⟨halt | value, after⟩
  · rw [ran] at later sameStore laterConfig
    cases halt with
    | failed failure =>
      exact ⟨later, sameStore, laterConfig, fun _ ok _ same => by rw [← Except.ok.inj ok] at same; cases same⟩
    | elapsed => exact ⟨later, sameStore, laterConfig, fun _ ended => nomatch ended⟩
    | overflow => exact ⟨later, sameStore, laterConfig, fun _ ended => nomatch ended⟩
  · rw [ran] at later sameStore laterConfig given
    refine ⟨later, sameStore, laterConfig, fun _ ok inner same => ?_⟩
    rw [← Except.ok.inj ok, Except.ok.injEq] at same
    rw [← same]
    exact given value rfl

theorem beginSettling_reads (id : Uuid) (payload : Payload) :
    Reads settings (beginSettling id payload) fun _ _ => True := by
  have timed : Reads settings (paidAtOf payload) fun _ _ => True := by
    unfold paidAtOf
    cases payload.paidAt with
    | some moment => exact (Reads.pure moment).mono fun _ _ _ => trivial
    | none => exact Reads.now
  unfold beginSettling
  exact Reads.bind timed fun paidAt =>
    Reads.bind ((loadInvoice_reads id).mono fun _ _ _ => trivial) fun _ =>
      (Reads.pure paidAt).mono fun _ _ _ _ _ => trivial

/-- A company's subscription read from keyed records is one the store holds, under its
identifier, and is the company's. -/
theorem current_of_read {store : Store} (keyed : store.Keyed) {company : Uuid} {current : Option Subscription}
    (read : current = store.subscriptionOf? company) : Current company store current := by
  cases current with
  | none => trivial
  | some found =>
    have lookup : store.subscriptionOf? company = some found := read.symm
    have sameCompany : found.company = company := by simpa using List.find?_some lookup
    exact ⟨NotBehind.of_found (keyed.subscription?_of_mem (List.mem_of_find?_eq_some lookup)), sameCompany⟩

theorem drawWrite_eq (invoice : Invoice) (payment : Payment) :
    drawWrite invoice payment = subscriptionOf invoice.company >>= fun current =>
      (if current.isNone then freshId else pure Uuid.nil) >>= fun newId => config >>= fun settings =>
        now >>= fun at_ => orOverflow (paidEffect newId invoice current payment.paidAt at_ settings.period) >>=
          fun write => pure (current, write) := by
  unfold drawWrite
  refine bind_congr fun current => ?_
  by_cases fresh : current.isNone = true
  · simp only [fresh, if_true]
  · simp only [fresh, Bool.false_eq_true, if_false]

/-- A settling attempt reads the company's subscription and draws what `paidEffect` computes
from it. -/
theorem drawWrite_reads (invoice : Invoice) (payment : Payment) :
    Reads settings (drawWrite invoice payment) fun store drawn =>
      drawn.1 = store.subscriptionOf? invoice.company ∧
        ∃ newId now, paidEffect newId invoice drawn.1 payment.paidAt now settings.period = some drawn.2 := by
  rw [drawWrite_eq]
  refine Reads.bind (Reads.readCall _ _ _ _ _ _) fun current => ?_
  have drawn : Reads settings (if current.isNone then freshId else pure Uuid.nil) fun _ _ => True := by
    split
    · exact Reads.freshId
    · exact (Reads.pure _).mono fun _ _ _ => trivial
  refine Reads.bind drawn fun newId => Reads.bind Reads.config fun chosen => Reads.bind Reads.now fun at_ =>
    Reads.bind (Reads.orOverflow _) fun write => (Reads.pure (current, write)).mono ?_
  intro store result same made _ sameSettings _ read
  rw [same]
  exact ⟨read, newId, at_, sameSettings ▸ made⟩

theorem recordPayment_records (id : Uuid) (payment : Payment) (write : SubscriptionWrite) :
    OnlyRecords settings (recordPayment id payment write) :=
  OnlyRecords.record _ _ _ _ _ _ _

theorem recordPaidEffect_records (invoice : Invoice) (previous : Option Subscription) (subscription : Subscription)
    (paidAt : Moment) : OnlyRecords settings (recordPaidEffect invoice previous subscription paidAt) :=
  OnlyRecords.record _ _ _ _ _ _ _

theorem recordExpiry_records (id : Uuid) (invoice : Invoice) : OnlyRecords settings (recordExpiry id invoice) :=
  OnlyRecords.bind OnlyRecords.now fun _ =>
    OnlyRecords.bind (OnlyRecords.record _ _ _ _ _ _ _) fun _ => OnlyRecords.emit _ _ _ _

end Calls

/-! ## One call -/

section Steps

variable {invoice : Invoice} {payload : Payload} {world : World}

/-- A call that leaves the records as they were, in an honest world, to a stage that fits them
with the same committed flag. -/
theorem stepped_quiet {stage next : DeliveryStage} {later : World} (honest : Honest later)
    (sameStore : later.store = world.store) (sameConfig : later.config = world.config)
    (fits : Fits invoice world.config.period payload world.store next) (flag : next.committed = stage.committed) :
    Stepped invoice payload world stage (next, later) := by
  refine ⟨honest, sameConfig, ?_, ?_⟩
  · rw [sameStore]
    exact fits
  · dsimp only
    rw [sameStore, flag]
    exact .quiet _ rfl

/-- A delivery that ends with a halt ends without a new change of the records. -/
theorem fits_halted (halt : Halt) (settled : Bool) (period : Span) (store : Store) :
    Fits invoice period payload store (finished (.error halt) settled) :=
  fun _ => .inr ⟨halt, rfl⟩

/-- A stage whose call only reads goes to the stage the value read leads to, or ends with the
halt, on the same records. -/
theorem stepped_of_reads {β : Type} {stage : DeliveryStage} {call : BillingM β} {next : β → DeliveryStage}
    {settled : Bool} {gives : Store → β → Prop} (honest : Honest world)
    (steps : stage.advance world = after call next settled world) (reads : Reads world.config call gives)
    (flag : settled = stage.committed)
    (leads : ∀ value, gives world.store value →
      Fits invoice world.config.period payload world.store (next value) ∧ (next value).committed = stage.committed) :
    Stepped invoice payload world stage (stage.advance world) := by
  obtain ⟨later, sameStore, laterConfig, given⟩ := reads world honest rfl
  rw [steps]
  unfold after
  rcases ran : call.run.run world with ⟨halt | value, moved⟩
  · rw [ran] at later sameStore laterConfig
    exact stepped_quiet later sameStore laterConfig (fits_halted halt settled _ _) flag
  · rw [ran] at later sameStore laterConfig given
    obtain ⟨fits, sameFlag⟩ := leads value (given value rfl)
    exact stepped_quiet later sameStore laterConfig fits sameFlag

/-- A stage past the change whose call only records events goes on past the change. -/
theorem stepped_of_records {β : Type} {stage : DeliveryStage} {call : BillingM β} {next : β → DeliveryStage}
    (honest : Honest world) (steps : stage.advance world = after call next true world)
    (records : OnlyRecords world.config call) (flag : stage.committed = true)
    (leads : ∀ value store, Fits invoice world.config.period payload store (next value) ∧ (next value).committed = true) :
    Stepped invoice payload world stage (stage.advance world) := by
  obtain ⟨later, laterConfig, sameSubscriptions, sameInvoices, -⟩ := records world honest rfl
  rw [steps]
  unfold after
  rcases ran : call.run.run world with ⟨halt | value, moved⟩
  · rw [ran] at later laterConfig sameSubscriptions sameInvoices
    refine ⟨later, laterConfig, fits_halted halt true _ _, ?_⟩
    dsimp only
    rw [flag]
    exact .record sameSubscriptions sameInvoices
  · rw [ran] at later laterConfig sameSubscriptions sameInvoices
    obtain ⟨fits, committedNext⟩ := leads value moved.store
    refine ⟨later, laterConfig, fits, ?_⟩
    dsimp only
    rw [flag, committedNext]
    exact .record sameSubscriptions sameInvoices

/-- Catching the failures of a call that has none changes nothing. -/
theorem after_attempt {β : Type} (action : BillingM β) (next : Except Failure β → DeliveryStage) (settled : Bool)
    (unfailed : ∀ failure, (action.run.run world).1 ≠ .error (.failed failure)) :
    after (attempt action) next settled world = after action (fun value => next (.ok value)) settled world := by
  unfold after
  rw [run_attempt]
  rcases ran : action.run.run world with ⟨halt | value, later⟩
  · rw [ran] at unfailed
    cases halt with
    | failed failure => exact absurd rfl (unfailed failure)
    | elapsed => rfl
    | overflow => rfl
  · rfl

/-- A delivery whose lookup found the invoice its callback names goes on with it. -/
theorem fits_onInvoice {period : Span} {store : Store} {found : Invoice} (same : found.id = invoice.id)
    (typed : Event.parse payload.eventType ≠ .other) :
    Fits invoice period payload store (onInvoice payload found) ∧ (onInvoice payload found).committed = false := by
  unfold onInvoice
  by_cases settled : (!found.isPending) = true
  · rw [if_pos settled]
    exact ⟨fun _ => .inl (by rw [same]), rfl⟩
  · rw [if_neg settled]
    cases event : Event.parse payload.eventType with
    | paid => exact ⟨⟨same, event⟩, rfl⟩
    | expired => exact ⟨⟨same, event⟩, rfl⟩
    | other => exact absurd event typed

/-- A failed attempt to mark a paid-type delivery's invoice leads to another attempt or to the
failure. -/
theorem fits_retryOrFail {period : Span} {store : Store} {id : Uuid} {payment : Payment}
    (same : id = invoice.id) (paid : Event.parse payload.eventType = .paid) (retries : Nat) (failure : Failure) :
    Fits invoice period payload store (retryOrFail id payment retries failure) ∧
      (retryOrFail id payment retries failure).committed = false := by
  unfold retryOrFail
  split
  · exact ⟨⟨same, paid⟩, rfl⟩
  · exact ⟨fits_halted _ false _ _, rfl⟩

/-! ### The lookups -/

/-- The lookup by the provider's id finds the invoice the callback names, or finds nothing and
goes on to the local id, which then names it. -/
theorem stepped_arrived (honest : Honest world) (typed : Event.parse payload.eventType ≠ .other)
    (names : Names payload invoice.id world.store) :
    Stepped invoice payload world (arrived payload) ((arrived payload).advance world) := by
  have steps : (arrived payload).advance world =
      after (Invoicing.findByProviderId payload.providerInvoiceId) (onProviderLookup payload) false world := by
    show (if Event.parse payload.eventType == .other then _ else _) = _
    rw [if_neg (by simpa using typed)]
  refine stepped_of_reads honest steps (findByProviderId_reads _) rfl fun found read => ?_
  unfold Names named at names
  rw [← read] at names
  cases found with
  | some found => exact fits_onInvoice (by simpa using names) typed
  | none =>
    unfold onProviderLookup
    cases local_ : payload.externalId.bind Uuid.parse? with
    | none =>
      rw [local_] at names
      cases names
    | some localId =>
      rw [local_] at names
      -- the callback names the invoice stored under its local id, which is `invoice`'s
      obtain ⟨kept, keptFound, keptId⟩ := Option.map_eq_some_iff.mp names
      have stored := (Option.filter_eq_some_iff.mp keptFound).1
      exact ⟨⟨rfl, (invoice?_id stored).symm.trans keptId⟩, rfl⟩

/-- The invoice a callback names, once the provider's id found nothing, is the one stored under
the local id, when that one is linked to no other provider id. -/
theorem named_local {store : Store} (keyed : store.Keyed) {id : Uuid} (names : Names payload id store) :
    ∃ kept, (store.invoice? id).filter (linkedAlike payload) = some kept ∧ kept.id = id := by
  unfold Names named at names
  cases byProvider : store.invoiceByProviderId? payload.providerInvoiceId with
  | some linked =>
    rw [byProvider] at names
    have sameId : linked.id = id := by simpa using names
    have linkedTo : linked.providerInvoiceId = some payload.providerInvoiceId := by
      simpa using List.find?_some byProvider
    have stored := keyed.invoice?_of_mem (List.mem_of_find?_eq_some byProvider)
    rw [sameId] at stored
    refine ⟨linked, ?_, sameId⟩
    rw [stored, Option.filter_eq_some_iff]
    refine ⟨rfl, ?_⟩
    unfold linkedAlike
    rw [linkedTo]
    exact beq_self_eq_true _
  | none =>
    rw [byProvider] at names
    obtain ⟨kept, keptFound, keptId⟩ := Option.map_eq_some_iff.mp names
    cases local_ : payload.externalId.bind Uuid.parse? with
    | none =>
      rw [local_] at keptFound
      cases keptFound
    | some localId =>
      rw [local_] at keptFound
      have sameLocal : localId = id := (invoice?_id (Option.filter_eq_some_iff.mp keptFound).1).symm.trans keptId
      rw [← sameLocal]
      exact ⟨kept, keptFound, keptId.trans sameLocal.symm⟩

theorem stepped_byLocalId (honest : Honest world) (keyed : world.store.Keyed)
    (typed : Event.parse payload.eventType ≠ .other) (names : Names payload invoice.id world.store) {localId : Uuid}
    (same : localId = invoice.id) :
    Stepped invoice payload world (byLocalId payload localId) ((byLocalId payload localId).advance world) := by
  refine stepped_of_reads honest rfl (find_reads localId) rfl fun found read => ?_
  obtain ⟨kept, keptFound, keptId⟩ := named_local keyed names
  show Fits _ _ _ _ (onLocalLookup payload found) ∧ (onLocalLookup payload found).committed = false
  unfold onLocalLookup
  rw [read, same, keptFound]
  exact fits_onInvoice keptId typed

/-! ### Settling -/

theorem stepped_settling (honest : Honest world) {id : Uuid} {arriving : Payload}
    (fits : Fits invoice world.config.period payload world.store (settling id arriving)) :
    Stepped invoice payload world (settling id arriving) ((settling id arriving).advance world) :=
  stepped_of_reads honest rfl (beginSettling_reads id arriving) rfl fun _ _ => ⟨fits, rfl⟩

/-- An attempt loads the invoice: one that has left `pending` ends the delivery, and a pending
one is the state of `invoice` the store holds, which bills what `invoice` bills. -/
theorem stepped_loading (honest : Honest world) (tracks : Tracks invoice world.store) {id : Uuid}
    {payment : Payment} {retries : Nat}
    (fits : Fits invoice world.config.period payload world.store (loading id payment retries)) :
    Stepped invoice payload world (loading id payment retries) ((loading id payment retries).advance world) := by
  obtain ⟨same, paid⟩ := fits
  refine stepped_of_reads honest rfl (loadInvoice_reads id) rfl fun loaded found => ?_
  by_cases settled : (!loaded.isPending) = true
  · simp only [settled, if_true]
    exact ⟨fun _ => .inl (by rw [invoice?_id found, same]), rfl⟩
  · simp only [settled, Bool.false_eq_true, if_false]
    obtain ⟨current, tracked, step⟩ := tracks
    rw [same, tracked, Option.some.injEq] at found
    subst found
    exact ⟨⟨same, paid, step.terms⟩, rfl⟩

theorem stepped_reading (honest : Honest world) (keyed : world.store.Keyed) {id : Uuid} {loaded : Invoice}
    {payment : Payment} {retries : Nat}
    (fits : Fits invoice world.config.period payload world.store (reading id loaded payment retries)) :
    Stepped invoice payload world (reading id loaded payment retries)
      ((reading id loaded payment retries).advance world) := by
  obtain ⟨same, paid, terms⟩ := fits
  refine stepped_of_reads honest rfl (drawWrite_reads loaded payment) rfl fun drawn ⟨read, newId, at_, made⟩ => ?_
  have sameCompany : loaded.company = invoice.company := congrArg (·.1) terms
  rw [sameCompany] at read
  refine ⟨⟨same, paid, ⟨newId, at_, ?_⟩, fun _ => current_of_read keyed read⟩, rfl⟩
  rw [← paidEffect_eq_of_terms terms]
  exact made

theorem stepped_confirming (honest : Honest world) {id : Uuid} {payment : Payment} {retries : Nat}
    (fits : Fits invoice world.config.period payload world.store (confirming id payment retries)) :
    Stepped invoice payload world (confirming id payment retries) ((confirming id payment retries).advance world) := by
  obtain ⟨same, paid⟩ := fits
  refine stepped_of_reads honest rfl (Reads.attempt (require_reads id)) rfl fun result _ => ?_
  cases result with
  | ok _ => exact ⟨same, rfl⟩
  | error failure => exact fits_retryOrFail same paid retries failure

theorem stepped_reloading (honest : Honest world) {id : Uuid}
    (fits : Fits invoice world.config.period payload world.store (reloading id)) :
    Stepped invoice payload world (reloading id) ((reloading id).advance world) :=
  stepped_of_reads honest rfl (loadInvoice_reads id) rfl fun _ found =>
    ⟨fun _ => .inl (by rw [invoice?_id found, fits]), rfl⟩

theorem stepped_recordingPayment (honest : Honest world) {id : Uuid} {loaded : Invoice}
    {current : Option Subscription} {write : SubscriptionWrite} {payment : Payment} {retries : Nat}
    (fits : Fits invoice world.config.period payload world.store
      (recordingPayment id loaded current write payment retries)) :
    Stepped invoice payload world (recordingPayment id loaded current write payment retries)
      ((recordingPayment id loaded current write payment retries).advance world) := by
  have records : OnlyRecords world.config (recordPayment id payment write) := recordPayment_records id payment write
  have steps : (recordingPayment id loaded current write payment retries).advance world =
      after (recordPayment id payment write) (fun _ => recordingEffect id loaded current write payment) true world :=
    after_attempt _ _ _ (records world honest rfl).2.2.2.2
  exact stepped_of_records honest steps records rfl fun _ _ => ⟨fits, rfl⟩

theorem stepped_recordingEffect (honest : Honest world) {id : Uuid} {loaded : Invoice}
    {current : Option Subscription} {write : SubscriptionWrite} {payment : Payment} :
    Stepped invoice payload world (recordingEffect id loaded current write payment)
      ((recordingEffect id loaded current write payment).advance world) :=
  stepped_of_records honest rfl (recordPaidEffect_records _ _ _ _) rfl fun _ _ => ⟨fun never => (nomatch never), rfl⟩

section Attempts

variable {β : Type} {action : BillingM β} {next : Except Failure β → DeliveryStage} {settled : Bool} {later : World}

theorem after_attempt_ok {value : β} (ran : action.run.run world = (.ok value, later)) :
    after (attempt action) next settled world = (next (.ok value), later) := by
  unfold after
  rw [run_attempt, ran]

/-- A failure of a call whose failures are caught is a value for the next stage. -/
theorem after_attempt_failed {failure : Failure} (ran : action.run.run world = (.error (.failed failure), later)) :
    after (attempt action) next settled world = (next (.error failure), later) := by
  unfold after
  rw [run_attempt, ran]

/-- Any other halt ends the delivery. -/
theorem after_attempt_halt {halt : Halt} (ran : action.run.run world = (.error halt, later))
    (notFailure : ∀ failure, halt ≠ .failed failure) :
    after (attempt action) next settled world = (finished (.error halt) settled, later) := by
  unfold after
  rw [run_attempt, ran]
  cases halt with
  | failed failure => exact absurd rfl (notFailure failure)
  | elapsed => rfl
  | overflow => rfl

end Attempts

/-- A settlement leaves the invoice it settles paid. -/
theorem invoice?_paidBy {store : Store} {subscriptions : List Subscription} {id : Uuid} {payment : Payment}
    {subscription : Uuid} {invoice : Invoice} (found : store.invoice? id = some invoice) :
    ({ store with
        invoices := store.invoices.map (paidBy id payment subscription)
        subscriptions := subscriptions } : Store).invoice? id =
      some { invoice.applyPayment payment with subscription := some subscription } := by
  have mapped := find?_map_of_keep Invoice.id (paidBy_id id payment subscription) store.invoices id
  unfold invoice? at found ⊢
  rw [mapped, found, Option.map_some]
  simp [paidBy, invoice?_id found]

/-- An expiry leaves the invoice it moves expired. -/
theorem invoice?_replacing {store : Store} {id : Uuid} {invoice result : Invoice}
    (found : store.invoice? id = some invoice) (moving : moved .expired none invoice = some result) :
    ({ store with invoices := store.invoices.map (replacing id result) } : Store).invoice? id = some result ∧
      result.isPending = false := by
  have resultId : result.id = id := (moved_id moving).trans (invoice?_id found)
  refine ⟨?_, ?_⟩
  · rw [invoice?_map (replacing_id resultId), found, Option.map_some]
    simp [replacing, invoice?_id found]
  · simp only [moved, Option.some.injEq] at moving
    rw [← moving]
    rfl

/-- A settlement that went through was drawn from the subscription the store held right before
it, and the store then holds the subscription written. -/
theorem settledFrom_of_settles {store : Store} {payment : Payment} {current : Option Subscription}
    {write : SubscriptionWrite} {stored : Subscription} {invoices : List Invoice} {period : Span}
    (drawn : ∃ newId now, paidEffect newId invoice current payment.paidAt now period = some write)
    (bearsOut : Current invoice.company store current) (settles : store.Settles write stored) :
    SettledFrom invoice period store
      { store with
        invoices := invoices
        subscriptions := upsert (fun new old => new.id == old.id) stored store.subscriptions } := by
  obtain ⟨newId, at_, made⟩ := drawn
  cases current with
  | none =>
    -- a first subscription: the company had none right before
    obtain ⟨subscription, rfl, company, version⟩ := paidEffect_none made
    obtain ⟨noneBefore, rfl⟩ := settles
    refine ⟨none, .insert subscription, newId, payment.paidAt, at_, ?_, made, ?_⟩
    · show store.subscriptionOf? invoice.company = none
      rw [← company]
      exact noneBefore
    · simp only [SubscriptionWrite.subscription]
      rw [subscription?_settled, if_pos rfl, ← version]
  | some read =>
    -- an update: the version checked is the one read, so the record replaced is the one read
    obtain ⟨subscription, rfl, sameId, version⟩ := paidEffect_some made
    obtain ⟨checked, rfl⟩ := settles
    obtain ⟨behind, company⟩ := bearsOut
    rw [sameId] at checked
    obtain ⟨held, foundHeld, heldVersion⟩ := Option.map_eq_some_iff.mp checked
    have sameHeld := behind.eq_of_version foundHeld heldVersion
    rw [sameHeld] at foundHeld
    refine ⟨some read, .update subscription read.version, newId, payment.paidAt, at_, ⟨foundHeld, company⟩, made, ?_⟩
    simp only [SubscriptionWrite.subscription]
    rw [subscription?_settled, if_pos rfl, ← version]

/-- Marking the invoice paid finds it out of `pending`, or fails or halts, and writes nothing;
or it settles the invoice: the delivery's one change. -/
theorem stepped_marking (honest : Honest world) {id : Uuid} {loaded : Invoice} {current : Option Subscription}
    {write : SubscriptionWrite} {payment : Payment} {retries : Nat}
    (fits : Fits invoice world.config.period payload world.store (marking id loaded current write payment retries)) :
    Stepped invoice payload world (marking id loaded current write payment retries)
      ((marking id loaded current write payment retries).advance world) := by
  obtain ⟨same, paid, drawn, bearsOut⟩ := fits
  -- the settlement's result picks the next stage: record the payment, confirm, or retry
  obtain ⟨next, steps, onSettled, onKept, onFailure⟩ : ∃ next : Except Failure Bool → DeliveryStage,
      (marking id loaded current write payment retries).advance world =
        after (attempt (Calls.settleInvoice id payment write)) next false world ∧
      next (.ok true) = recordingPayment id loaded current write payment retries ∧
      next (.ok false) = confirming id payment retries ∧
      ∀ failure, next (.error failure) = retryOrFail id payment retries failure :=
    ⟨_, rfl, rfl, rfl, fun _ => rfl⟩
  rw [steps]
  -- a halt leaves the records as they were: a failure leads to a retry, another halt ends it
  have stops : ∀ halt {later : World}, Honest later → later.store = world.store → later.config = world.config →
      (Calls.settleInvoice id payment write).run.run world = (.error halt, later) →
      Stepped invoice payload world (marking id loaded current write payment retries)
        (after (attempt (Calls.settleInvoice id payment write)) next false world) := by
    intro halt later honestLater sameStore sameConfig ran
    cases halt with
    | failed failure =>
      rw [after_attempt_failed ran, onFailure]
      obtain ⟨fits, flag⟩ := fits_retryOrFail same paid retries failure
      exact stepped_quiet honestLater sameStore sameConfig fits flag
    | elapsed =>
      rw [after_attempt_halt ran (fun _ wrong => by cases wrong)]
      exact stepped_quiet honestLater sameStore sameConfig (fits_halted _ _ _ _) rfl
    | overflow =>
      rw [after_attempt_halt ran (fun _ wrong => by cases wrong)]
      exact stepped_quiet honestLater sameStore sameConfig (fits_halted _ _ _ _) rfl
  obtain ⟨faults, timeLeft, later, worked | ⟨halt, halted⟩⟩ :=
    Calls.haltingCall_honest honest .settleInvoice (some false) none none
      (fun store => store.settleInvoice id payment write) (SqlStore.settleInvoice id write)
  · rcases settleInvoice_cases world.store id payment write with
      ⟨refused, -⟩ | ⟨halt, fails⟩ | ⟨found, stored, lookup, pending, settles, settled⟩
    · rw [refused] at worked
      have ran : (Calls.settleInvoice id payment write).run.run world =
          (.ok false, { world with faults := faults, timeLeft := timeLeft, store := world.store }) := worked
      rw [after_attempt_ok ran, onKept]
      exact stepped_quiet ⟨later.inMemory, later.faults⟩ rfl rfl ⟨same, paid⟩ rfl
    · rw [fails] at worked
      exact stops halt later rfl rfl worked
    · rw [settled] at worked
      have ran : (Calls.settleInvoice id payment write).run.run world =
          (.ok true, { world with
            faults := faults, timeLeft := timeLeft
            store := { world.store with
              invoices := world.store.invoices.map (paidBy id payment stored.id)
              subscriptions := upsert (fun new old => new.id == old.id) stored world.store.subscriptions } }) :=
        worked
      rw [after_attempt_ok ran, onSettled]
      rw [same] at lookup
      have opened : Open invoice.id world.store := ⟨found, lookup, pending⟩
      refine ⟨⟨later.inMemory, later.faults⟩, rfl, same, .commit opened ?_ ?_ (fun _ => ?_) (absurd paid)⟩
      · rw [same]
        exact not_open_of_found (invoice?_paidBy lookup) (by simp [Invoice.applyPayment, Invoice.isPending])
      · refine ⟨.settleInvoice id payment write, ?_, trivial⟩
        show _ = world.store.afterStep (world.store.settleInvoice id payment write)
        rw [settled]
        rfl
      · exact settledFrom_of_settles drawn (bearsOut opened) settles
  · exact stops halt later rfl rfl halted

/-! ### Expiring -/

/-- Expiring the invoice finds it out of `pending`, or halts, and writes nothing; or it moves the
invoice to `expired`: the delivery's one change, which leaves the subscriptions alone. -/
theorem stepped_closing (honest : Honest world) {id : Uuid}
    (fits : Fits invoice world.config.period payload world.store (closing id)) :
    Stepped invoice payload world (closing id) ((closing id).advance world) := by
  obtain ⟨same, expired⟩ := fits
  have steps : (closing id).advance world =
      after (Calls.transitionInvoice id .expired none) (rereading id) false world := rfl
  rw [steps]
  unfold after
  obtain ⟨faults, timeLeft, later, worked | ⟨halt, halted⟩⟩ :=
    Calls.stepCall_honest honest .transitionInvoice (some false) none none
      (fun store => store.transitionInvoice id .expired none) (SqlStore.transitionInvoice .expired none)
  · rcases transitionInvoice_cases world.store id .expired none with
      ⟨refused, -⟩ | ⟨failure, fails⟩ | ⟨found, result, lookup, pending, moving, transitioned⟩
    · rw [refused] at worked
      rw [show (Calls.transitionInvoice id .expired none).run.run world = _ from worked]
      exact stepped_quiet ⟨later.inMemory, later.faults⟩ rfl rfl same rfl
    · rw [fails] at worked
      rw [show (Calls.transitionInvoice id .expired none).run.run world = _ from worked]
      exact stepped_quiet later rfl rfl (fits_halted _ _ _ _) rfl
    · rw [transitioned] at worked
      rw [show (Calls.transitionInvoice id .expired none).run.run world = _ from worked]
      rw [same] at lookup
      obtain ⟨movedNow, closedNow⟩ := invoice?_replacing lookup moving
      rw [← same] at movedNow
      have unpaid : Event.parse payload.eventType ≠ .paid := by
        rw [expired]
        decide
      refine ⟨⟨later.inMemory, later.faults⟩, rfl, same,
        .commit ⟨found, lookup, pending⟩ ?_ ?_ (fun paid => absurd paid unpaid) fun _ => rfl⟩
      · rw [← same]
        exact not_open_of_found movedNow closedNow
      · refine ⟨.transitionInvoice id .expired none, ?_, trivial⟩
        show _ = world.store.afterStep (world.store.transitionInvoice id .expired none)
        rw [transitioned]
        rfl
  · rw [show (Calls.transitionInvoice id .expired none).run.run world = _ from halted]
    exact stepped_quiet later rfl rfl (fits_halted _ _ _ _) rfl

theorem stepped_rereading (honest : Honest world) {id : Uuid} {changed : Bool}
    (fits : Fits invoice world.config.period payload world.store (rereading id changed)) :
    Stepped invoice payload world (rereading id changed) ((rereading id changed).advance world) := by
  refine stepped_of_reads honest rfl (require_reads id) rfl fun _ _ => ?_
  cases changed with
  | false => exact ⟨fun _ => .inl (by rw [fits]), rfl⟩
  | true => exact ⟨fits, rfl⟩

theorem stepped_recordingClose (honest : Honest world) {id : Uuid} {loaded : Invoice} :
    Stepped invoice payload world (recordingClose id loaded) ((recordingClose id loaded).advance world) :=
  stepped_of_records honest rfl (recordExpiry_records _ _) rfl fun _ _ => ⟨fun never => (nomatch never), rfl⟩

theorem stepped_finished {outcome : Except Halt Outcome} {settled : Bool}
    (honest : Honest world) (fits : Fits invoice world.config.period payload world.store (finished outcome settled)) :
    Stepped invoice payload world (finished outcome settled) ((finished outcome settled).advance world) :=
  stepped_quiet honest rfl rfl fits rfl

/-- One call of a delivery whose callback names `invoice`, in an honest world with keyed records
that hold a later state of `invoice`: the world stays honest and configured alike, the next
stage fits the records left, and the call wrote nothing, made the delivery's one change or
recorded events after it. -/
theorem advance_stepped (honest : Honest world) (keyed : world.store.Keyed) (tracks : Tracks invoice world.store)
    (typed : Event.parse payload.eventType ≠ .other) (names : Names payload invoice.id world.store)
    {stage : DeliveryStage} (fits : Fits invoice world.config.period payload world.store stage) :
    Stepped invoice payload world stage (stage.advance world) := by
  cases stage with
  | arrived arriving =>
    subst fits
    exact stepped_arrived honest typed names
  | byLocalId arriving localId =>
    obtain ⟨rfl, same⟩ := fits
    exact stepped_byLocalId honest keyed typed names same
  | settling id arriving => exact stepped_settling honest fits
  | loading id payment retries => exact stepped_loading honest tracks fits
  | reading id loaded payment retries => exact stepped_reading honest keyed fits
  | marking id loaded current write payment retries => exact stepped_marking honest fits
  | recordingPayment id loaded current write payment retries => exact stepped_recordingPayment honest fits
  | confirming id payment retries => exact stepped_confirming honest fits
  | recordingEffect id loaded current write payment => exact stepped_recordingEffect honest
  | reloading id => exact stepped_reloading honest fits
  | closing id => exact stepped_closing honest fits
  | rereading id changed => exact stepped_rereading honest fits
  | recordingClose id loaded => exact stepped_recordingClose honest
  | finished outcome settled => exact stepped_finished honest fits

end Steps

end SeatBilling.Webhook
