import SeatBilling.Invoicing

/-!
# Running the core's actions

An action of the billing core runs on a world and ends with a value or a halt, and the world
it leaves. The first lemmas here open the monad: a sequence of actions runs the first and,
when it succeeds, the rest on the world it left.

The others say what the collaborator calls do in a steady world, where no fault is armed and
the records are kept in memory: each call then does its plain work, a store call as one step
on the store and the provider's call as one request recorded by the local provider.
-/

namespace SeatBilling

open SeatBilling.Time

/-! ## The monad -/

section Monad

variable {α β : Type} (world : World)

theorem run_bind (action : BillingM α) (next : α → BillingM β) :
    (action >>= next).run.run world =
      match action.run.run world with
      | (.ok value, after) => (next value).run.run after
      | (.error halt, after) => (.error halt, after) := by
  simp only [ExceptT.run_bind, StateT.run_bind]
  rcases action.run.run world with ⟨_ | _, after⟩ <;> rfl

@[simp] theorem run_pure (value : α) : (pure value : BillingM α).run.run world = (.ok value, world) := rfl

@[simp] theorem run_get : (get : BillingM World).run.run world = (.ok world, world) := rfl

@[simp] theorem run_set (other : World) : (set other : BillingM Unit).run.run world = (.ok (), other) := rfl

@[simp] theorem run_failWith (failure : Failure) :
    (failWith failure : BillingM α).run.run world = (.error (.failed failure), world) := rfl

@[simp] theorem run_freshId :
    freshId.run.run world = (.ok (Uuid.ofSerial world.serial), { world with serial := world.serial + 1 }) := rfl

@[simp] theorem run_now : now.run.run world = (.ok world.clock, world) := rfl

@[simp] theorem run_config : config.run.run world = (.ok world.config, world) := rfl

theorem run_orOverflow_some (value : α) :
    (orOverflow (some value)).run.run world = (.ok value, world) := rfl

theorem run_orOverflow_none : (orOverflow none : BillingM α).run.run world = (.error .overflow, world) := rfl

/-- A caught failure runs the handler on the world the action left; other halts go on. -/
theorem run_catchFailure (action : BillingM α) (handler : Failure → BillingM α) :
    (catchFailure action handler).run.run world =
      match action.run.run world with
      | (.error (.failed failure), after) => (handler failure).run.run after
      | outcome => outcome := by
  unfold catchFailure
  simp only [tryCatch, tryCatchThe, MonadExceptOf.tryCatch, ExceptT.tryCatch, ExceptT.run, ExceptT.mk,
    StateT.run, bind, StateT.bind]
  rcases action world with ⟨_ | _, after⟩
  · rename_i halt
    cases halt <;> rfl
  · rfl

end Monad

/-- A provider behind an HTTP address is never reached: every try fails to send, and the
request ends with that failure, having only written logs. -/
theorem Calls.createInvoice_unreachable_run (client : Provider.HttpClient) (request : ProviderRequest)
    (world : World) :
    ∃ logs, (client.createInvoice (fun post => pure (Calls.unreachable post.url))
        (fun level => emit level "hrcore_billing::provider") request).run.run world =
      (.ok (.error (.providerUnavailable ("error sending request for url (" ++ client.endpoint ++ ")"))),
        { world with logs := logs }) :=
  ⟨_, rfl⟩

/-! ## Collaborator calls in a steady world -/

/-- Nothing is armed to fail, and the records are kept in memory. -/
structure Steady (world : World) : Prop where
  noFaults : world.faults = []
  inMemory : world.backend = .memory

namespace Calls

variable {world : World}

theorem guarded_run {α : Type} (noFaults : world.faults = []) (call : Call) (onStale onSkip onMissing : Option α)
    (work : BillingM α) :
    (guarded call onStale onSkip onMissing work).run.run world = work.run.run world := by
  have unchanged : { world with faults := (takeFault call world.faults).2 } = world := by
    cases world
    simp_all [takeFault]
  have nothingTaken : (takeFault call world.faults).1 = none := by simp [noFaults, takeFault]
  simp only [guarded, run_bind, run_get, run_set, unchanged, nothingTaken]

theorem backed_run {α : Type} (inMemory : world.backend = .memory) (onMemory : BillingM α)
    (onDatabase : SqlStore.StoreM α) : (backed onMemory onDatabase).run.run world = onMemory.run.run world := by
  simp only [backed, run_bind, run_get, inMemory]

theorem readStore_run {α : Type} (view : Store → α) :
    (readStore view).run.run world = (.ok (view world.store), world) := rfl

theorem stepStore_run {α : Type} (step : Store → Except Failure (α × Store)) :
    (stepStore step).run.run world =
      match step world.store with
      | .ok (value, store) => (.ok value, { world with store := store })
      | .error failure => (.error (.failed failure), world) := by
  unfold stepStore
  simp only [run_bind, run_get]
  cases step world.store with
  | ok result => rfl
  | error failure => rfl

section Steady

variable (steady : Steady world)
include steady

theorem findPendingInvoice_run (company : Uuid) :
    (findPendingInvoice company).run.run world = (.ok (world.store.findPendingInvoice company), world) := by
  rw [findPendingInvoice, guarded_run steady.noFaults, backed_run steady.inMemory, readStore_run]

theorem countPendingInvoices_run (company : Uuid) :
    (countPendingInvoices company).run.run world =
      (.ok ((world.store.pendingOf company).length : Int), world) := by
  rw [countPendingInvoices, guarded_run steady.noFaults, backed_run steady.inMemory, readStore_run]

theorem insertInvoice_run (invoice : Invoice) :
    (insertInvoice invoice).run.run world =
      match world.store.insertInvoice invoice with
      | .ok store => (.ok (), { world with store := store })
      | .error failure => (.error (.failed failure), world) := by
  rw [insertInvoice, guarded_run steady.noFaults, backed_run steady.inMemory, stepStore_run]
  cases world.store.insertInvoice invoice <;> rfl

theorem attachProviderInvoice_run (id : Uuid) (providerId url : String) (expiresAt : Option Moment) :
    (attachProviderInvoice id providerId url expiresAt).run.run world =
      match world.store.attachProviderInvoice id providerId url expiresAt with
      | .ok store => (.ok (), { world with store := store })
      | .error failure => (.error (.failed failure), world) := by
  rw [attachProviderInvoice, guarded_run steady.noFaults, backed_run steady.inMemory, stepStore_run]
  cases world.store.attachProviderInvoice id providerId url expiresAt <;> rfl

theorem appendEvent_run (event : Event) :
    (appendEvent event).run.run world = (.ok (), { world with store := world.store.appendEvent event }) := by
  rw [appendEvent, guarded_run steady.noFaults, backed_run steady.inMemory, stepStore_run]

/-- The local provider that is not told to refuse records the request and answers with the
id it makes from the local invoice's id. -/
theorem createProviderInvoice_run (local_ : world.provider.endpoint = none)
    (willing : world.provider.refusal = none) (request : ProviderRequest) :
    (createProviderInvoice request).run.run world =
      (.ok ⟨providerIdFor request.invoice, "https://pay.example.test/" ++ providerIdFor request.invoice, none⟩,
        { world with provider := { world.provider with requests := world.provider.requests ++ [request] } }) := by
  rw [createProviderInvoice, guarded_run steady.noFaults]
  simp only [run_bind, run_get, local_, willing, run_set, run_pure]

end Steady

/-- A provider the settings name is asked through the client built from the settings, which
posts every invoice to the invoices address of the configured base; no connection can be made
there, so the request fails naming that address, having only written logs. -/
theorem createProviderInvoice_configured (noFaults : world.faults = [])
    (configured : world.provider = configuredProvider world.config) (request : ProviderRequest) :
    ((hostedClient world.config (invoicesEndpoint world.config.providerUrl)).post request).url =
        invoicesEndpoint world.config.providerUrl ∧
      ∃ logs, (createProviderInvoice request).run.run world =
        (.error (.failed (.providerUnavailable
          ("error sending request for url (" ++ invoicesEndpoint world.config.providerUrl ++ ")"))),
          { world with logs := logs }) := by
  refine ⟨rfl, ?_⟩
  obtain ⟨logs, ran⟩ :=
    createInvoice_unreachable_run (hostedClient world.config (invoicesEndpoint world.config.providerUrl)) request world
  refine ⟨logs, ?_⟩
  have endpoint : world.provider.endpoint = some (invoicesEndpoint world.config.providerUrl) := by
    rw [configured]
    rfl
  rw [createProviderInvoice, guarded_run noFaults]
  simp only [run_bind, run_get, endpoint]
  rw [ran]
  rfl

end Calls

/-! ## Collaborator calls in an honest world

An honest world keeps its records in memory, and each fault armed in it makes its call fail,
take long or do its work: none makes a call report something it did not do. A call there
either does its plain work, on the world with its fault used up and its time spent, or halts
and leaves the records as they were. -/

/-- Whether an armed fault only makes its call fail, take long or do its work. -/
def Fault.Honest (fault : Fault) : Prop :=
  fault.kind ≠ .stale ∧ fault.kind ≠ .skip ∧ fault.kind ≠ .missing

/-- The records are kept in memory and every armed fault is honest. -/
structure Honest (world : World) : Prop where
  inMemory : world.backend = .memory
  faults : ∀ fault ∈ world.faults, fault.Honest

/-- A fault a call takes is one of those armed. -/
theorem takeFault_taken (call : Call) :
    ∀ {faults : List Fault} {fault : Fault}, (takeFault call faults).1 = some fault → fault ∈ faults := by
  intro faults
  induction faults with
  | nil =>
    intro fault taken
    cases taken
  | cons first rest inductionHypothesis =>
    intro fault taken
    unfold takeFault at taken
    split at taken
    · cases taken
      exact List.mem_cons_self
    · exact List.mem_cons_of_mem first (inductionHypothesis taken)

/-- A fault a call takes is armed for that call. -/
theorem takeFault_method (call : Call) :
    ∀ {faults : List Fault} {fault : Fault}, (takeFault call faults).1 = some fault → fault.method = call.name := by
  intro faults
  induction faults with
  | nil =>
    intro fault taken
    cases taken
  | cons first rest inductionHypothesis =>
    intro fault taken
    unfold takeFault at taken
    split at taken
    · rename_i armed
      cases taken
      exact beq_iff_eq.mp (Bool.and_eq_true _ _ ▸ armed).1
    · exact inductionHypothesis taken

/-- The faults left after a call are those armed, with one count used up: each is armed for
the same call and of the same kind as one of those. -/
theorem takeFault_left (call : Call) :
    ∀ {faults : List Fault}, ∀ fault ∈ (takeFault call faults).2,
      ∃ armed ∈ faults, fault.method = armed.method ∧ fault.kind = armed.kind := by
  intro faults
  induction faults with
  | nil =>
    intro fault member
    cases member
  | cons first rest inductionHypothesis =>
    intro fault member
    unfold takeFault at member
    split at member
    · rcases List.mem_cons.mp member with isFirst | inRest
      · refine ⟨first, List.mem_cons_self, ?_⟩
        rw [isFirst]
        split <;> exact ⟨rfl, rfl⟩
      · exact ⟨fault, List.mem_cons_of_mem first inRest, rfl, rfl⟩
    · rcases List.mem_cons.mp member with isFirst | inRest
      · exact ⟨first, List.mem_cons_self, by rw [isFirst], by rw [isFirst]⟩
      · obtain ⟨armed, armedMember, sameMethod, sameKind⟩ := inductionHypothesis fault inRest
        exact ⟨armed, List.mem_cons_of_mem first armedMember, sameMethod, sameKind⟩

theorem Honest.spend {world : World} (honest : Honest world) (call : Call) (timeLeft : Option Nat) :
    Honest { world with faults := (takeFault call world.faults).2, timeLeft := timeLeft } := by
  refine ⟨honest.inMemory, fun fault member => ?_⟩
  obtain ⟨armed, armedMember, -, sameKind⟩ := takeFault_left call fault member
  have armedHonest := honest.faults armed armedMember
  unfold Fault.Honest
  rw [sameKind]
  exact armedHonest

/-- A fault whose kind makes no failure is one that delays its call, answers for it, or lets it through. -/
theorem Fault.failure_eq_none {fault : Fault} (none : fault.failure = none) :
    fault.kind = .slow ∨ fault.kind = .stale ∨ fault.kind = .skip ∨ fault.kind = .missing ∨ fault.kind = .pass := by
  unfold Fault.failure at none
  cases kind : fault.kind <;> simp_all

section Honest

variable {world : World}

/-- In an honest world a guarded call uses up its fault and then does its work or halts; a
failure that ends it is the failure of a fault armed for the call. -/
theorem guarded_cases {α : Type} (honest : Honest world) (call : Call) (onStale onSkip onMissing : Option α)
    (work : BillingM α) :
    ∃ timeLeft,
      (guarded call onStale onSkip onMissing work).run.run world =
          work.run.run { world with faults := (takeFault call world.faults).2, timeLeft := timeLeft } ∨
        ∃ halt, (guarded call onStale onSkip onMissing work).run.run world =
            (.error halt, { world with faults := (takeFault call world.faults).2, timeLeft := timeLeft }) ∧
          ∀ failure, halt = .failed failure →
            ∃ fault ∈ world.faults, fault.method = call.name ∧ fault.failure = some failure := by
  unfold guarded
  simp only [run_bind, run_get, run_set]
  cases taken : (takeFault call world.faults).1 with
  | none => exact ⟨world.timeLeft, .inl rfl⟩
  | some fault =>
    dsimp only
    cases failing : fault.failure with
    | some failure =>
      refine ⟨world.timeLeft, .inr ⟨.failed failure, rfl, fun other same => ?_⟩⟩
      cases same
      exact ⟨fault, takeFault_taken call taken, takeFault_method call taken, failing⟩
    | none =>
      have faultHonest := honest.faults fault (takeFault_taken call taken)
      rcases Fault.failure_eq_none failing with slow | stale | skip | missing | pass
      · -- a slow call spends an hour of the running section, or ends it
        simp only [slow, slowCall, run_bind, run_get]
        cases left : world.timeLeft with
        | none => exact ⟨world.timeLeft, .inl (by rw [left]; rfl)⟩
        | some seconds =>
          by_cases short : seconds < slowCallSeconds
          · exact ⟨some seconds, .inr ⟨.elapsed, by simp [short]; rfl, fun _ never => nomatch never⟩⟩
          · exact ⟨some (seconds - slowCallSeconds), .inl (by simp [short]; rfl)⟩
      · exact absurd stale faultHonest.1
      · exact absurd skip faultHonest.2.1
      · exact absurd missing faultHonest.2.2
      · simp only [pass]
        exact ⟨world.timeLeft, .inl rfl⟩

/-- In an honest world a guarded call does its work, on the world with its fault used up and
its time spent, or halts there. -/
theorem guarded_honest {α : Type} (honest : Honest world) (call : Call) (onStale onSkip onMissing : Option α)
    (work : BillingM α) :
    ∃ faults timeLeft, Honest { world with faults := faults, timeLeft := timeLeft } ∧
      ((guarded call onStale onSkip onMissing work).run.run world =
          work.run.run { world with faults := faults, timeLeft := timeLeft } ∨
        ∃ halt, (guarded call onStale onSkip onMissing work).run.run world =
          (.error halt, { world with faults := faults, timeLeft := timeLeft })) := by
  obtain ⟨timeLeft, worked | ⟨halt, halted, -⟩⟩ := guarded_cases honest call onStale onSkip onMissing work
  · exact ⟨_, timeLeft, honest.spend call timeLeft, .inl worked⟩
  · exact ⟨_, timeLeft, honest.spend call timeLeft, .inr ⟨halt, halted⟩⟩

end Honest

namespace Calls

section Honest

variable {world : World}

/-- A read of the store in an honest world gives what the store holds, or halts. -/
theorem readCall_honest {α : Type} (honest : Honest world) (call : Call) (onStale onSkip onMissing : Option α)
    (view : Store → α) (onDatabase : SqlStore.StoreM α) :
    ∃ faults timeLeft, Honest { world with faults := faults, timeLeft := timeLeft } ∧
      ((guarded call onStale onSkip onMissing (backed (readStore view) onDatabase)).run.run world =
          (.ok (view world.store), { world with faults := faults, timeLeft := timeLeft }) ∨
        ∃ halt, (guarded call onStale onSkip onMissing (backed (readStore view) onDatabase)).run.run world =
          (.error halt, { world with faults := faults, timeLeft := timeLeft })) := by
  obtain ⟨faults, timeLeft, later, worked | halted⟩ := guarded_honest honest call onStale onSkip onMissing
    (backed (readStore view) onDatabase)
  · refine ⟨faults, timeLeft, later, .inl ?_⟩
    rw [worked, Calls.backed_run later.inMemory, Calls.readStore_run]
  · exact ⟨faults, timeLeft, later, .inr halted⟩

/-- A store step in an honest world is taken on the store as it is, or the call halts. -/
theorem stepCall_honest {α : Type} (honest : Honest world) (call : Call) (onStale onSkip onMissing : Option α)
    (step : Store → Except Failure (α × Store)) (onDatabase : SqlStore.StoreM α) :
    ∃ faults timeLeft, Honest { world with faults := faults, timeLeft := timeLeft } ∧
      ((guarded call onStale onSkip onMissing (backed (stepStore step) onDatabase)).run.run world =
          (match step world.store with
            | .ok (value, store) => (.ok value, { world with faults := faults, timeLeft := timeLeft, store := store })
            | .error failure => (.error (.failed failure), { world with faults := faults, timeLeft := timeLeft })) ∨
        ∃ halt, (guarded call onStale onSkip onMissing (backed (stepStore step) onDatabase)).run.run world =
          (.error halt, { world with faults := faults, timeLeft := timeLeft })) := by
  obtain ⟨faults, timeLeft, later, worked | halted⟩ := guarded_honest honest call onStale onSkip onMissing
    (backed (stepStore step) onDatabase)
  · refine ⟨faults, timeLeft, later, .inl ?_⟩
    rw [worked, Calls.backed_run later.inMemory, Calls.stepStore_run]
  · exact ⟨faults, timeLeft, later, .inr halted⟩

theorem haltingStep_run {α : Type} (step : Store → Except Halt (α × Store)) :
    (haltingStep step).run.run world =
      match step world.store with
      | .ok (value, store) => (.ok value, { world with store := store })
      | .error halt => (.error halt, world) := by
  unfold haltingStep
  simp only [run_bind, run_get]
  cases step world.store with
  | ok result => rfl
  | error halt => rfl

/-- A store step that may halt, in an honest world, is taken on the store as it is, or the call
halts. -/
theorem haltingCall_honest {α : Type} (honest : Honest world) (call : Call) (onStale onSkip onMissing : Option α)
    (step : Store → Except Halt (α × Store)) (onDatabase : SqlStore.StoreM α) :
    ∃ faults timeLeft, Honest { world with faults := faults, timeLeft := timeLeft } ∧
      ((guarded call onStale onSkip onMissing (backed (haltingStep step) onDatabase)).run.run world =
          (match step world.store with
            | .ok (value, store) => (.ok value, { world with faults := faults, timeLeft := timeLeft, store := store })
            | .error halt => (.error halt, { world with faults := faults, timeLeft := timeLeft })) ∨
        ∃ halt, (guarded call onStale onSkip onMissing (backed (haltingStep step) onDatabase)).run.run world =
          (.error halt, { world with faults := faults, timeLeft := timeLeft })) := by
  obtain ⟨faults, timeLeft, later, worked | halted⟩ := guarded_honest honest call onStale onSkip onMissing
    (backed (haltingStep step) onDatabase)
  · refine ⟨faults, timeLeft, later, .inl ?_⟩
    rw [worked, Calls.backed_run later.inMemory, haltingStep_run]
  · exact ⟨faults, timeLeft, later, .inr halted⟩

end Honest

end Calls

theorem Steady.update {world : World} (steady : Steady world) (store : Store) (serial : Nat)
    (provider : ProviderState) : Steady { world with store := store, serial := serial, provider := provider } :=
  ⟨steady.noFaults, steady.inMemory⟩

/-- An event written in a steady world takes the next identifier and is appended to the log. -/
theorem EventLog.record_run {world : World} (steady : Steady world) (company : Uuid) (kind : EventKind)
    (actor : Actor) (subscription invoice : Option Uuid) (data : Json) (at_ : Moment) :
    (EventLog.record company kind actor subscription invoice data at_).run.run world =
      (.ok (), { world with
        serial := world.serial + 1
        store := world.store.appendEvent
          ⟨Uuid.ofSerial world.serial, company, subscription, invoice, kind, actor, data, at_⟩ }) := by
  have drawn : Steady { world with serial := world.serial + 1 } :=
    steady.update world.store (world.serial + 1) world.provider
  simp only [EventLog.record, run_bind, run_freshId]
  rw [run_catchFailure, Calls.appendEvent_run drawn]

/-! ## Actions that only read, and actions that only record

In an honest world a read of the records leaves them as they were, and the events the core
records never touch a subscription or an invoice. `Reads` and `OnlyRecords` say so of whole
actions; each is built from its parts by the lemmas after it, so that an action's lemma
follows its code. The configuration is fixed along the way. -/

/-- In an honest world configured by `settings`, the action ends in an honest world with the
same records and configuration, and a value it gives is one `gives` allows of the records. -/
def Reads {α : Type} (settings : Config) (action : BillingM α) (gives : Store → α → Prop) : Prop :=
  ∀ world, Honest world → world.config = settings →
    Honest (action.run.run world).2 ∧ (action.run.run world).2.store = world.store ∧
      (action.run.run world).2.config = settings ∧
      ∀ value, (action.run.run world).1 = .ok value → gives world.store value

/-- In an honest world configured by `settings`, the action ends in an honest world with the
same configuration, subscriptions and invoices, and no collaborator's failure ends it. -/
def OnlyRecords {α : Type} (settings : Config) (action : BillingM α) : Prop :=
  ∀ world, Honest world → world.config = settings →
    Honest (action.run.run world).2 ∧ (action.run.run world).2.config = settings ∧
      (action.run.run world).2.store.subscriptions = world.store.subscriptions ∧
      (action.run.run world).2.store.invoices = world.store.invoices ∧
      ∀ failure, (action.run.run world).1 ≠ .error (.failed failure)

namespace Reads

variable {α β : Type} {settings : Config}

theorem pure (value : α) : Reads settings (Pure.pure value) fun _ result => result = value :=
  fun _ honest sameConfig => ⟨honest, rfl, sameConfig, fun _ given => (Except.ok.inj given).symm⟩

theorem failWith (failure : Failure) : Reads settings (SeatBilling.failWith failure : BillingM α) fun _ _ => False :=
  fun _ honest sameConfig => ⟨honest, rfl, sameConfig, fun _ given => nomatch given⟩

theorem now : Reads settings SeatBilling.now fun _ _ => True :=
  fun _ honest sameConfig => ⟨honest, rfl, sameConfig, fun _ _ => trivial⟩

theorem config : Reads settings SeatBilling.config fun _ value => value = settings :=
  fun _ honest sameConfig => ⟨honest, rfl, sameConfig, fun _ given => (Except.ok.inj given).symm.trans sameConfig⟩

theorem freshId : Reads settings SeatBilling.freshId fun _ _ => True :=
  fun _ honest sameConfig => ⟨⟨honest.inMemory, honest.faults⟩, rfl, sameConfig, fun _ _ => trivial⟩

theorem orOverflow (value : Option α) : Reads settings (SeatBilling.orOverflow value) fun _ result => value = some result := by
  intro world honest sameConfig
  cases value with
  | some value => exact ⟨honest, rfl, sameConfig, fun _ given => congrArg some (Except.ok.inj given)⟩
  | none => exact ⟨honest, rfl, sameConfig, fun _ given => nomatch given⟩

theorem mono {action : BillingM α} {gives weaker : Store → α → Prop} (reads : Reads settings action gives)
    (weakens : ∀ store value, gives store value → weaker store value) : Reads settings action weaker := by
  intro world honest sameConfig
  obtain ⟨later, sameStore, laterConfig, given⟩ := reads world honest sameConfig
  exact ⟨later, sameStore, laterConfig, fun value ok => weakens _ value (given value ok)⟩

/-- A read followed by reads is a read: what the second allows may rest on what the first gave. -/
theorem bind {first : BillingM α} {next : α → BillingM β} {gives : Store → α → Prop}
    {then_ : Store → β → Prop} (reads : Reads settings first gives)
    (rest : ∀ value, Reads settings (next value) fun store result => gives store value → then_ store result) :
    Reads settings (first >>= next) then_ := by
  intro world honest sameConfig
  obtain ⟨middle, sameStore, middleConfig, given⟩ := reads world honest sameConfig
  rw [run_bind]
  rcases ran : first.run.run world with ⟨halt | value, after⟩
  · rw [ran] at middle sameStore middleConfig
    exact ⟨middle, sameStore, middleConfig, fun _ ended => nomatch ended⟩
  · rw [ran] at middle sameStore middleConfig given
    obtain ⟨last, lastStore, lastConfig, thenGiven⟩ := rest value after middle middleConfig
    refine ⟨last, lastStore.trans sameStore, lastConfig, fun result ok => ?_⟩
    have fromFirst := given value rfl
    rw [← sameStore] at fromFirst
    have fromRest := thenGiven result ok fromFirst
    rw [sameStore] at fromRest
    exact fromRest

/-- A read of the store in an honest world gives what the store holds. -/
theorem readCall (call : Call) (onStale onSkip onMissing : Option α) (view : Store → α)
    (onDatabase : SqlStore.StoreM α) :
    Reads settings (guarded call onStale onSkip onMissing (Calls.backed (Calls.readStore view) onDatabase))
      fun store value => value = view store := by
  intro world honest sameConfig
  obtain ⟨faults, timeLeft, later, read | ⟨halt, halted⟩⟩ :=
    Calls.readCall_honest honest call onStale onSkip onMissing view onDatabase
  · rw [read]
    exact ⟨later, rfl, sameConfig, fun _ given => (Except.ok.inj given).symm⟩
  · rw [halted]
    exact ⟨later, rfl, sameConfig, fun _ given => nomatch given⟩

end Reads

namespace OnlyRecords

variable {α β : Type} {settings : Config}

theorem pure (value : α) : OnlyRecords settings (Pure.pure value) :=
  fun _ honest sameConfig => ⟨honest, sameConfig, rfl, rfl, fun _ given => nomatch given⟩

theorem now : OnlyRecords settings SeatBilling.now :=
  fun _ honest sameConfig => ⟨honest, sameConfig, rfl, rfl, fun _ given => nomatch given⟩

theorem emit (level : Log.Level) (target message : String) (fields : List (String × String)) :
    OnlyRecords settings (SeatBilling.emit level target message fields) :=
  fun _ honest sameConfig => ⟨⟨honest.inMemory, honest.faults⟩, sameConfig, rfl, rfl, fun _ given => nomatch given⟩

theorem bind {first : BillingM α} {next : α → BillingM β} (records : OnlyRecords settings first)
    (rest : ∀ value, OnlyRecords settings (next value)) : OnlyRecords settings (first >>= next) := by
  intro world honest sameConfig
  obtain ⟨middle, middleConfig, middleSubscriptions, middleInvoices, unfailed⟩ := records world honest sameConfig
  rw [run_bind]
  rcases ran : first.run.run world with ⟨halt | value, after⟩
  · rw [ran] at middle middleConfig middleSubscriptions middleInvoices unfailed
    dsimp only
    refine ⟨middle, middleConfig, middleSubscriptions, middleInvoices, fun failure ended => unfailed failure ?_⟩
    cases ended
    rfl
  · rw [ran] at middle middleConfig middleSubscriptions middleInvoices
    obtain ⟨last, lastConfig, lastSubscriptions, lastInvoices, lastUnfailed⟩ := rest value after middle middleConfig
    exact ⟨last, lastConfig, lastSubscriptions.trans middleSubscriptions, lastInvoices.trans middleInvoices,
      lastUnfailed⟩

/-- An event is appended to the log, or its failure is logged: either way nothing else of the
records changes, and only a halt can end the write. -/
theorem record (company : Uuid) (kind : EventKind) (actor : Actor) (subscription invoice : Option Uuid)
    (data : Json) (at_ : Moment) :
    OnlyRecords settings (EventLog.record company kind actor subscription invoice data at_) := by
  intro world honest sameConfig
  have drawn : Honest { world with serial := world.serial + 1 } := ⟨honest.inMemory, honest.faults⟩
  simp only [EventLog.record, run_bind, run_freshId]
  rw [run_catchFailure]
  obtain ⟨faults, timeLeft, later, appended | ⟨halt, halted⟩⟩ :=
    Calls.stepCall_honest drawn .appendEvent none (some ()) none
      (fun store => .ok ((), store.appendEvent ⟨Uuid.ofSerial world.serial, company, subscription, invoice, kind, actor,
        data, at_⟩)) SqlStore.appendEvent
  · rw [Calls.appendEvent, appended]
    dsimp only
    exact ⟨⟨later.inMemory, later.faults⟩, sameConfig, rfl, rfl, fun _ given => nomatch given⟩
  · rw [Calls.appendEvent, halted]
    dsimp only
    cases halt with
    | failed failure =>
      exact emit .warn "hrcore_billing::events" "Failed to log billing event" _ _ later sameConfig
    | elapsed => exact ⟨later, sameConfig, rfl, rfl, fun _ given => nomatch given⟩
    | overflow => exact ⟨later, sameConfig, rfl, rfl, fun _ given => nomatch given⟩

end OnlyRecords

end SeatBilling
