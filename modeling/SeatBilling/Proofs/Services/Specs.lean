import SeatBilling.Proofs.Calls

/-!
# Specifications of the core's actions

An operation of the services is a sequence of collaborator calls, any of which may fail. What
it does when one fails is read off a specification: from a world whose facts (configuration,
records, next identifier) satisfy a precondition, the operation ends with a value and facts
satisfying one postcondition, or with a collaborator's failure and facts satisfying another.
A time-out or an overflow may end it anywhere.

The worlds are honest, and may spare some calls: no armed fault makes those fail. A
specification is built along the code with `Spec.bind` from the specifications of the calls
given here, so that an operation's proof follows its text.
-/

namespace SeatBilling

open SeatBilling.Time

/-- What the operations of the services read and write of a world, apart from the
collaborators' own state: the configuration, the records and the serial number of the next
fresh identifier. -/
structure Facts where
  config : Config
  store : Store
  serial : Nat

def World.facts (world : World) : Facts := ⟨world.config, world.store, world.serial⟩

/-- The world is honest, and no fault armed in it makes a call of `spared` fail. -/
structure Spares (spared : List Call) (world : World) : Prop where
  honest : Honest world
  spares : ∀ fault ∈ world.faults, ∀ call ∈ spared, fault.method = call.name → fault.failure = none

namespace Spares

variable {spared : List Call} {world : World}

/-- Using up a fault keeps what the faults spare: a fault keeps its call and its kind. -/
theorem spend (spares : Spares spared world) (call : Call) (timeLeft : Option Nat) :
    Spares spared { world with faults := (takeFault call world.faults).2, timeLeft := timeLeft } := by
  refine ⟨spares.honest.spend call timeLeft, fun fault member spared sparedMember sameMethod => ?_⟩
  obtain ⟨armed, armedMember, armedMethod, armedKind⟩ := takeFault_left call fault member
  have armedSpared := spares.spares armed armedMember spared sparedMember (armedMethod ▸ sameMethod)
  unfold Fault.failure
  rw [armedKind]
  rcases Fault.failure_eq_none armedSpared with kind | kind | kind | kind | kind <;> rw [kind]

/-- A call that a fault made fail is not spared. -/
theorem unspared (spares : Spares spared world) {call : Call} {failure : Failure}
    (failed : ∃ fault ∈ world.faults, fault.method = call.name ∧ fault.failure = some failure) : call ∉ spared := by
  obtain ⟨fault, member, sameMethod, failing⟩ := failed
  intro sparedMember
  rw [spares.spares fault member call sparedMember sameMethod] at failing
  cases failing

end Spares

/-- From a world that spares the calls of `spared` and whose facts satisfy `pre`, the action
ends in a world that spares them too, with `post` holding of the value it gives and the facts
it leaves, or `failed` of the facts it leaves when a collaborator's failure ends it. -/
def Spec {α : Type} (spared : List Call) (pre : Facts → Prop) (action : BillingM α)
    (post : α → Facts → Prop) (failed : Facts → Prop) : Prop :=
  ∀ world, Spares spared world → pre world.facts →
    Spares spared (action.run.run world).2 ∧
      (∀ value, (action.run.run world).1 = .ok value → post value (action.run.run world).2.facts) ∧
      ∀ failure, (action.run.run world).1 = .error (.failed failure) → failed (action.run.run world).2.facts

namespace Spec

variable {α β : Type} {spared : List Call} {pre : Facts → Prop} {post : α → Facts → Prop}
  {failed : Facts → Prop}

/-! ## Structural rules -/

theorem mono {action : BillingM α} {pre' : Facts → Prop} {post' : α → Facts → Prop} {failed' : Facts → Prop}
    (spec : Spec spared pre action post failed) (stronger : ∀ facts, pre' facts → pre facts)
    (weaker : ∀ value facts, post value facts → post' value facts)
    (weakerFailed : ∀ facts, failed facts → failed' facts) : Spec spared pre' action post' failed' := by
  intro world spares holds
  obtain ⟨sparesAfter, given, ended⟩ := spec world spares (stronger _ holds)
  exact ⟨sparesAfter, fun value ok => weaker _ _ (given value ok),
    fun failure stopped => weakerFailed _ (ended failure stopped)⟩

/-- A specification may start from each of the facts its precondition allows. -/
theorem of_facts {action : BillingM α} (each : ∀ facts, pre facts → Spec spared (· = facts) action post failed) :
    Spec spared pre action post failed :=
  fun world spares holds => each world.facts holds world spares rfl

/-- A sequence meets its specification when its first action leads to facts from which the
rest meets it. -/
theorem bind {first : BillingM α} {next : α → BillingM β} {mid : α → Facts → Prop} {post : β → Facts → Prop}
    (spec : Spec spared pre first mid failed) (rest : ∀ value, Spec spared (mid value) (next value) post failed) :
    Spec spared pre (first >>= next) post failed := by
  intro world spares holds
  obtain ⟨middle, given, ended⟩ := spec world spares holds
  rw [run_bind]
  rcases ran : first.run.run world with ⟨halt | value, after⟩
  · rw [ran] at middle ended
    dsimp only
    exact ⟨middle, nofun, fun failure stopped => ended failure (by cases stopped; rfl)⟩
  · rw [ran] at middle given
    exact rest value after middle (given value rfl)

/-- A failure caught hands the facts it left to the handler. -/
theorem catchFailure {action : BillingM α} {handler : Failure → BillingM α} {mid : Facts → Prop}
    (spec : Spec spared pre action post mid) (handles : ∀ failure, Spec spared mid (handler failure) post failed) :
    Spec spared pre (SeatBilling.catchFailure action handler) post failed := by
  intro world spares holds
  obtain ⟨middle, given, ended⟩ := spec world spares holds
  rw [run_catchFailure]
  rcases ran : action.run.run world with ⟨halt | value, after⟩
  · rw [ran] at middle ended
    cases halt with
    | failed failure => exact handles failure after middle (ended failure rfl)
    | elapsed => exact ⟨middle, nofun, nofun⟩
    | overflow => exact ⟨middle, nofun, nofun⟩
  · rw [ran] at middle given
    exact ⟨middle, given, nofun⟩

theorem run_map {γ : Type} (world : World) (change : α → γ) (action : BillingM α) :
    (change <$> action).run.run world =
      match action.run.run world with
      | (.ok value, after) => (.ok (change value), after)
      | (.error halt, after) => (.error halt, after) := by
  rw [map_eq_pure_bind, run_bind]
  rcases action.run.run world with ⟨_ | _, after⟩ <;> rfl

/-- An attempt gives the action's failure as a value, so that no failure ends it. -/
theorem attempt {action : BillingM α} {mid : Facts → Prop} (spec : Spec spared pre action post mid) :
    Spec spared pre (SeatBilling.attempt action)
      (fun result facts => match result with
        | .ok value => post value facts
        | .error _ => mid facts) failed := by
  intro world spares holds
  obtain ⟨middle, given, ended⟩ := spec world spares holds
  unfold SeatBilling.attempt
  rw [run_catchFailure, run_map]
  rcases ran : action.run.run world with ⟨halt | value, after⟩
  · rw [ran] at middle ended
    cases halt with
    | failed failure => exact ⟨middle, fun _ given => by cases given; exact ended failure rfl, nofun⟩
    | elapsed => exact ⟨middle, nofun, nofun⟩
    | overflow => exact ⟨middle, nofun, nofun⟩
  · rw [ran] at middle given
    exact ⟨middle, fun _ result => by cases result; exact given value rfl, nofun⟩

/-- A failure, and what would have followed it: the facts stay as they were. -/
theorem failWith_bind {post : β → Facts → Prop} (failure : Failure) (next : α → BillingM β)
    (leaves : ∀ facts, pre facts → failed facts) : Spec spared pre (SeatBilling.failWith failure >>= next) post failed :=
  fun _ spares holds => ⟨spares, nofun, fun _ _ => leaves _ holds⟩

/-! ## Actions on the world itself -/

theorem pure (value : α) : Spec spared pre (Pure.pure value) (fun result facts => result = value ∧ pre facts) failed :=
  fun _ spares holds => ⟨spares, fun _ given => ⟨(Except.ok.inj given).symm, holds⟩, nofun⟩

theorem failWith (failure : Failure) : Spec spared pre (SeatBilling.failWith failure : BillingM α) post pre :=
  fun _ spares holds => ⟨spares, nofun, fun _ _ => holds⟩

theorem now : Spec spared pre SeatBilling.now (fun _ facts => pre facts) failed :=
  fun _ spares holds => ⟨spares, fun _ _ => holds, nofun⟩

theorem config : Spec spared pre SeatBilling.config (fun value facts => pre facts ∧ value = facts.config) failed :=
  fun _ spares holds => ⟨spares, fun _ given => ⟨holds, (Except.ok.inj given).symm⟩, nofun⟩

theorem freshId (facts : Facts) :
    Spec spared (· = facts) SeatBilling.freshId
      (fun value after => value = Uuid.ofSerial facts.serial ∧ after = { facts with serial := facts.serial + 1 })
      failed := by
  rintro world spares rfl
  exact ⟨⟨⟨spares.honest.inMemory, spares.honest.faults⟩, spares.spares⟩,
    fun _ given => ⟨(Except.ok.inj given).symm, rfl⟩, nofun⟩

theorem orOverflow (value : Option α) :
    Spec spared pre (SeatBilling.orOverflow value) (fun result facts => pre facts ∧ value = some result) failed := by
  intro world spares holds
  cases value with
  | some value => exact ⟨spares, fun _ given => ⟨holds, congrArg some (Except.ok.inj given)⟩, nofun⟩
  | none => exact ⟨spares, nofun, nofun⟩

theorem emit (level : Log.Level) (target message : String) (fields : List (String × String)) :
    Spec spared pre (SeatBilling.emit level target message fields) (fun _ facts => pre facts) failed :=
  fun _ spares holds => ⟨⟨⟨spares.honest.inMemory, spares.honest.faults⟩, spares.spares⟩, fun _ _ => holds,
    nofun⟩

/-! ## Collaborator calls

A guarded call uses up a fault and then does its work, or halts. A failure that ends it comes
from a fault armed for it, or from its work: so a spared call fails only as its work does. -/

/-- A guarded call meets a specification when its work does, and when a fault that makes an
unspared call fail leaves facts that the failure postcondition allows. -/
theorem guarded {call : Call} {onStale onSkip onMissing : Option α} {work : BillingM α}
    (spec : Spec spared pre work post failed) (faulted : ∀ facts, pre facts → call ∉ spared → failed facts) :
    Spec spared pre (SeatBilling.guarded call onStale onSkip onMissing work) post failed := by
  intro world spares holds
  obtain ⟨timeLeft, worked | ⟨halt, halted, origin⟩⟩ := guarded_cases spares.honest call onStale onSkip onMissing work
  · rw [worked]
    exact spec _ (spares.spend call timeLeft) holds
  · rw [halted]
    exact ⟨spares.spend call timeLeft, nofun,
      fun failure stopped => faulted _ holds (spares.unspared (origin failure (Except.error.inj stopped)))⟩

/-- An honest world keeps its records in memory. -/
theorem backed {inMemory : BillingM α} {onDatabase : SqlStore.StoreM α} (spec : Spec spared pre inMemory post failed) :
    Spec spared pre (Calls.backed inMemory onDatabase) post failed := by
  intro world spares holds
  rw [Calls.backed_run spares.honest.inMemory]
  exact spec world spares holds

theorem readStore (view : Store → α) :
    Spec spared pre (Calls.readStore view) (fun value facts => pre facts ∧ value = view facts.store) failed :=
  fun _ spares holds => ⟨spares, fun _ given => ⟨holds, (Except.ok.inj given).symm⟩, nofun⟩

theorem stepStore (facts : Facts) (step : Store → Except Failure (α × Store)) :
    Spec spared (· = facts) (Calls.stepStore step)
      (fun value after => step facts.store = .ok (value, after.store) ∧ after = { facts with store := after.store })
      (fun after => after = facts ∧ ∃ failure, step facts.store = .error failure) := by
  rintro world spares rfl
  rw [Calls.stepStore_run]
  cases stepped : step world.store with
  | ok result => exact ⟨⟨⟨spares.honest.inMemory, spares.honest.faults⟩, spares.spares⟩,
      fun _ given => ⟨by cases given; exact stepped, rfl⟩, nofun⟩
  | error failure => exact ⟨spares, nofun, fun _ _ => ⟨rfl, failure, stepped⟩⟩

theorem haltingStep (facts : Facts) (step : Store → Except Halt (α × Store)) :
    Spec spared (· = facts) (Calls.haltingStep step)
      (fun value after => step facts.store = .ok (value, after.store) ∧ after = { facts with store := after.store })
      (fun after => after = facts ∧ ∃ failure, step facts.store = .error (.failed failure)) := by
  rintro world spares rfl
  rw [Calls.haltingStep_run]
  cases stepped : step world.store with
  | ok result => exact ⟨⟨⟨spares.honest.inMemory, spares.honest.faults⟩, spares.spares⟩,
      fun _ given => ⟨by cases given; exact stepped, rfl⟩, nofun⟩
  | error halt => exact ⟨spares, nofun, fun failure stopped => ⟨rfl, failure, by cases stopped; exact stepped⟩⟩

/-- A read of the store gives what the store holds and leaves the facts as they were; a fault
ends it only if it is not spared. -/
theorem readCall (call : Call) (onStale onSkip onMissing : Option α) (view : Store → α)
    (onDatabase : SqlStore.StoreM α) :
    Spec spared pre (SeatBilling.guarded call onStale onSkip onMissing (Calls.backed (Calls.readStore view) onDatabase))
      (fun value facts => pre facts ∧ value = view facts.store) (fun facts => pre facts ∧ call ∉ spared) :=
  guarded (backed (readStore view)) fun _ holds unspared => ⟨holds, unspared⟩

/-- A store step changes the store as the step does, or ends and leaves the facts; a spared
call ends with a failure only when its step refuses. -/
theorem stepCall (facts : Facts) (call : Call) (onStale onSkip onMissing : Option α)
    (step : Store → Except Failure (α × Store)) (onDatabase : SqlStore.StoreM α) :
    Spec spared (· = facts) (SeatBilling.guarded call onStale onSkip onMissing (Calls.backed (Calls.stepStore step) onDatabase))
      (fun value after => step facts.store = .ok (value, after.store) ∧ after = { facts with store := after.store })
      (fun after => after = facts ∧ (call ∈ spared → ∃ failure, step facts.store = .error failure)) :=
  guarded ((backed (stepStore facts step)).mono (fun _ same => same) (fun _ _ done => done)
      fun _ ⟨same, refused⟩ => ⟨same, fun _ => refused⟩)
    fun _ same unspared => ⟨same, fun spared => absurd spared unspared⟩

/-- A store step that may halt changes the store as the step does, or ends and leaves the
facts; a spared call ends with a failure only when its step fails. -/
theorem haltingCall (facts : Facts) (call : Call) (onStale onSkip onMissing : Option α)
    (step : Store → Except Halt (α × Store)) (onDatabase : SqlStore.StoreM α) :
    Spec spared (· = facts)
      (SeatBilling.guarded call onStale onSkip onMissing (Calls.backed (Calls.haltingStep step) onDatabase))
      (fun value after => step facts.store = .ok (value, after.store) ∧ after = { facts with store := after.store })
      (fun after => after = facts ∧ (call ∈ spared → ∃ failure, step facts.store = .error (.failed failure))) :=
  guarded ((backed (haltingStep facts step)).mono (fun _ same => same) (fun _ _ done => done)
      fun _ ⟨same, refused⟩ => ⟨same, fun _ => refused⟩)
    fun _ same unspared => ⟨same, fun spared => absurd spared unspared⟩

/-- A store step from facts whose store is `before` leaves `before` when it fails. -/
theorem stepCall_from {facts : Facts} {before : Store} (stored : facts.store = before) (call : Call)
    (onStale onSkip onMissing : Option α) (step : Store → Except Failure (α × Store)) (onDatabase : SqlStore.StoreM α) :
    Spec spared (· = facts) (SeatBilling.guarded call onStale onSkip onMissing (Calls.backed (Calls.stepStore step) onDatabase))
      (fun value after => step facts.store = .ok (value, after.store) ∧ after = { facts with store := after.store })
      fun after => after.store = before :=
  (stepCall facts call onStale onSkip onMissing step onDatabase).mono (fun _ same => same) (fun _ _ done => done)
    fun _ ⟨same, _⟩ => by rw [same]; exact stored

theorem haltingCall_from {facts : Facts} {before : Store} (stored : facts.store = before) (call : Call)
    (onStale onSkip onMissing : Option α) (step : Store → Except Halt (α × Store)) (onDatabase : SqlStore.StoreM α) :
    Spec spared (· = facts)
      (SeatBilling.guarded call onStale onSkip onMissing (Calls.backed (Calls.haltingStep step) onDatabase))
      (fun value after => step facts.store = .ok (value, after.store) ∧ after = { facts with store := after.store })
      fun after => after.store = before :=
  (haltingCall facts call onStale onSkip onMissing step onDatabase).mono (fun _ same => same) (fun _ _ done => done)
    fun _ ⟨same, _⟩ => by rw [same]; exact stored

/-- The headcount comes from the employee directory and leaves the facts as they were. -/
theorem countActive (company : Uuid) :
    Spec spared pre (Calls.countActive company) (fun _ facts => pre facts) pre :=
  guarded (backed fun _ spares holds => ⟨spares, fun _ _ => holds, nofun⟩)
    fun _ holds _ => holds

/-- The provider's hosted invoice has the id made from the local invoice's, and asking for it
leaves the facts as they were. -/
theorem createProviderInvoice (request : ProviderRequest) :
    Spec spared pre (Calls.createProviderInvoice request)
      (fun created facts => pre facts ∧ created.providerInvoiceId = Calls.providerIdFor request.invoice) pre := by
  refine guarded (fun world spares holds => ?_) fun _ holds _ => holds
  simp only [run_bind, run_get]
  split
  next _ _ endpoint _ =>
    -- the provider behind HTTP is never reached: its client fails and only writes logs
    obtain ⟨logs, ran⟩ := Calls.createInvoice_unreachable_run (Calls.hostedClient world.config endpoint) request world
    simp only [run_bind, ran, run_failWith]
    exact ⟨⟨⟨spares.honest.inMemory, spares.honest.faults⟩, spares.spares⟩, nofun, fun _ _ => holds⟩
  · exact ⟨spares, nofun, fun _ _ => holds⟩
  · exact ⟨⟨⟨spares.honest.inMemory, spares.honest.faults⟩, spares.spares⟩,
      fun _ given => ⟨holds, by cases given; rfl⟩, nofun⟩

/-- An event is appended to the log, or its failure is logged: the configuration, the
subscriptions and the invoices stay, and nothing fails. -/
theorem record (facts : Facts) (company : Uuid) (kind : EventKind) (actor : Actor)
    (subscription invoice : Option Uuid) (data : Json) (at_ : Moment) :
    Spec spared (· = facts) (EventLog.record company kind actor subscription invoice data at_)
      (fun _ after => after.config = facts.config ∧ after.store.subscriptions = facts.store.subscriptions ∧
        after.store.invoices = facts.store.invoices) failed := by
  unfold EventLog.record
  refine bind (freshId facts) fun id => of_facts fun drawn ⟨_, drew⟩ => ?_
  subst drew
  refine catchFailure ((stepCall _ .appendEvent none (some ()) none _ _).mono (fun _ same => same)
    (fun _ after appended => ?_) (fun _ stopped => stopped)) fun _ => ?_
  · obtain ⟨stepped, shape⟩ := appended
    have appendedStore := (Prod.mk.inj (Except.ok.inj stepped)).2
    rw [shape, ← appendedStore]
    exact ⟨rfl, rfl, rfl⟩
  · exact (emit _ _ _ _).mono (fun _ stopped => stopped) (fun _ after ⟨same, _⟩ => by rw [same]; exact ⟨rfl, rfl, rfl⟩)
      fun _ stopped => stopped

/-! ## Reading, not failing, and failing cleanly

Three shapes recur along the operations. A read keeps whatever held of the facts. Once an
operation has written what it writes, what follows cannot fail: it records an event, logs, or
returns. So a failure comes before the write, or from the write itself, and leaves the store as
it was. -/

/-- The action only reads: whatever held of the facts still holds when it gives a value, which
`gives` allows, and when it fails. -/
def ReadOnly (spared : List Call) (action : BillingM α) (gives : α → Prop) : Prop :=
  ∀ pre, Spec spared pre action (fun value facts => pre facts ∧ gives value) pre

/-- No collaborator's failure ends the action. -/
def Unfailing (spared : List Call) (action : BillingM α) : Prop :=
  Spec spared (fun _ => True) action (fun _ _ => True) fun _ => False

/-- A failure of the action leaves the store as it was. -/
def FailsClean (spared : List Call) (action : BillingM α) : Prop :=
  ∀ before, Spec spared (fun facts => facts.store = before) action (fun _ _ => True) fun facts => facts.store = before

namespace ReadOnly

variable {action : BillingM α} {next : α → BillingM β} {gives : α → Prop} {gives' : β → Prop}

theorem mono {weaker : α → Prop} (reads : ReadOnly spared action gives) (weakens : ∀ value, gives value → weaker value) :
    ReadOnly spared action weaker :=
  fun pre => (reads pre).mono (fun _ holds => holds) (fun _ _ ⟨holds, given⟩ => ⟨holds, weakens _ given⟩)
    fun _ holds => holds

theorem bind (first : ReadOnly spared action gives) (rest : ∀ value, gives value → ReadOnly spared (next value) gives') :
    ReadOnly spared (action >>= next) gives' :=
  fun pre => Spec.bind (first pre) fun value => of_facts fun _ ⟨holds, given⟩ =>
    (rest value given pre).mono (fun _ same => same ▸ holds) (fun _ _ done => done) fun _ stopped => stopped

theorem pure (value : α) : ReadOnly spared (Pure.pure value) (· = value) :=
  fun _ => (Spec.pure value).mono (fun _ holds => holds) (fun _ _ ⟨same, holds⟩ => ⟨holds, same⟩) fun _ holds => holds

theorem failWith (failure : Failure) : ReadOnly spared (SeatBilling.failWith failure : BillingM α) gives :=
  fun _ => Spec.failWith failure

theorem now : ReadOnly spared SeatBilling.now fun _ => True :=
  fun _ => Spec.now.mono (fun _ holds => holds) (fun _ _ holds => ⟨holds, trivial⟩) fun _ holds => holds

theorem config : ReadOnly spared SeatBilling.config fun _ => True :=
  fun _ => Spec.config.mono (fun _ holds => holds) (fun _ _ ⟨holds, _⟩ => ⟨holds, trivial⟩) fun _ holds => holds

theorem orOverflow (value : Option α) : ReadOnly spared (SeatBilling.orOverflow value) fun result => value = some result :=
  fun _ => (Spec.orOverflow value).mono (fun _ holds => holds) (fun _ _ done => done) fun _ holds => holds

theorem readCall (call : Call) (onStale onSkip onMissing : Option α) (view : Store → α)
    (onDatabase : SqlStore.StoreM α) :
    ReadOnly spared (SeatBilling.guarded call onStale onSkip onMissing (Calls.backed (Calls.readStore view) onDatabase))
      fun _ => True :=
  fun _ => (Spec.readCall call onStale onSkip onMissing view onDatabase).mono (fun _ holds => holds)
    (fun _ _ ⟨holds, _⟩ => ⟨holds, trivial⟩) fun _ ⟨holds, _⟩ => holds

theorem countActive (company : Uuid) : ReadOnly spared (Calls.countActive company) fun _ => True :=
  fun _ => (Spec.countActive company).mono (fun _ holds => holds) (fun _ _ holds => ⟨holds, trivial⟩)
    fun _ holds => holds

theorem failWith_bind (failure : Failure) (next : α → BillingM β) :
    ReadOnly spared (SeatBilling.failWith failure >>= next) gives' :=
  fun _ => Spec.failWith_bind failure next fun _ holds => holds

end ReadOnly

namespace Unfailing

variable {action : BillingM α} {next : α → BillingM β}

theorem bind (first : Unfailing spared action) (rest : ∀ value, Unfailing spared (next value)) :
    Unfailing spared (action >>= next) :=
  Spec.bind first fun value => rest value

theorem pure (value : α) : Unfailing spared (Pure.pure value) :=
  (Spec.pure value).mono (fun _ holds => holds) (fun _ _ _ => trivial) fun _ never => never

theorem now : Unfailing spared SeatBilling.now :=
  Spec.now.mono (fun _ holds => holds) (fun _ _ _ => trivial) fun _ never => never

theorem config : Unfailing spared SeatBilling.config :=
  Spec.config.mono (fun _ holds => holds) (fun _ _ _ => trivial) fun _ never => never

theorem freshId : Unfailing spared SeatBilling.freshId :=
  of_facts fun facts _ => (Spec.freshId facts).mono (fun _ same => same) (fun _ _ _ => trivial) fun _ never => never

theorem orOverflow (value : Option α) : Unfailing spared (SeatBilling.orOverflow value) :=
  (Spec.orOverflow value).mono (fun _ holds => holds) (fun _ _ _ => trivial) fun _ never => never

theorem emit (level : Log.Level) (target message : String) (fields : List (String × String)) :
    Unfailing spared (SeatBilling.emit level target message fields) :=
  (Spec.emit level target message fields).mono (fun _ holds => holds) (fun _ _ _ => trivial) fun _ never => never

theorem record (company : Uuid) (kind : EventKind) (actor : Actor) (subscription invoice : Option Uuid)
    (data : Json) (at_ : Moment) : Unfailing spared (EventLog.record company kind actor subscription invoice data at_) :=
  of_facts fun facts _ => (Spec.record facts company kind actor subscription invoice data at_).mono
    (fun _ same => same) (fun _ _ _ => trivial) fun _ never => never

end Unfailing

namespace FailsClean

variable {action : BillingM α} {next : α → BillingM β} {gives : α → Prop}

/-- A read, then an action that fails cleanly, fails cleanly. -/
theorem read_bind (first : ReadOnly spared action gives) (rest : ∀ value, gives value → FailsClean spared (next value)) :
    FailsClean spared (action >>= next) :=
  fun before => Spec.bind (first _) fun value => of_facts fun _ ⟨holds, given⟩ =>
    (rest value given before).mono (fun _ same => same ▸ holds) (fun _ _ done => done) fun _ stopped => stopped

theorem failWith (failure : Failure) : FailsClean spared (SeatBilling.failWith failure : BillingM α) :=
  fun _ => Spec.failWith failure

theorem failWith_bind (failure : Failure) (next : α → BillingM β) : FailsClean spared (SeatBilling.failWith failure >>= next) :=
  fun _ => Spec.failWith_bind failure next fun _ stored => stored

/-- A single store step fails cleanly: a failure ends it before it writes. -/
theorem stepCall (call : Call) (onStale onSkip onMissing : Option α) (step : Store → Except Failure (α × Store))
    (onDatabase : SqlStore.StoreM α) :
    FailsClean spared (SeatBilling.guarded call onStale onSkip onMissing (Calls.backed (Calls.stepStore step) onDatabase)) :=
  fun _ => of_facts fun _ stored => (stepCall_from stored call onStale onSkip onMissing step onDatabase).mono
    (fun _ same => same) (fun _ _ _ => trivial) fun _ kept => kept

theorem haltingCall (call : Call) (onStale onSkip onMissing : Option α) (step : Store → Except Halt (α × Store))
    (onDatabase : SqlStore.StoreM α) :
    FailsClean spared
      (SeatBilling.guarded call onStale onSkip onMissing (Calls.backed (Calls.haltingStep step) onDatabase)) :=
  fun _ => of_facts fun _ stored => (haltingCall_from stored call onStale onSkip onMissing step onDatabase).mono
    (fun _ same => same) (fun _ _ _ => trivial) fun _ kept => kept

end FailsClean

/-- A lookup through a store read that gives the record found and fails when there is none
fails only when the record is missing, or when a fault fails the read. -/
theorem lookup {call : Call} {onStale onSkip onMissing : Option (Option α)} {view : Store → Option α}
    {onDatabase : SqlStore.StoreM (Option α)} {next : Option α → BillingM α}
    (found : ∀ value, next (some value) = Pure.pure value) (missing : ∃ failure, next none = SeatBilling.failWith failure) :
    Spec spared pre
      (SeatBilling.guarded call onStale onSkip onMissing (Calls.backed (Calls.readStore view) onDatabase) >>= next)
      (fun value facts => pre facts ∧ view facts.store = some value)
      (fun facts => pre facts ∧ (view facts.store = none ∨ call ∉ spared)) := by
  refine bind ((readCall call onStale onSkip onMissing view onDatabase).mono (fun _ holds => holds)
    (fun _ _ done => done) fun _ ⟨holds, unspared⟩ => ⟨holds, .inr unspared⟩) fun result => of_facts fun facts ⟨holds, read⟩ => ?_
  cases result with
  | some value =>
    rw [found]
    refine (Spec.pure value).mono (fun _ same => same) (fun _ _ ⟨given, same⟩ => ?_) fun _ stopped => stopped
    rw [same, given]
    exact ⟨holds, read.symm⟩
  | none =>
    obtain ⟨failure, failing⟩ := missing
    rw [failing]
    refine (Spec.failWith failure).mono (fun _ same => same) (fun _ _ done => done) fun _ same => ?_
    rw [same]
    exact ⟨holds, .inl read.symm⟩

theorem ReadOnly.lookup {call : Call} {onStale onSkip onMissing : Option (Option α)} {view : Store → Option α}
    {onDatabase : SqlStore.StoreM (Option α)} {next : Option α → BillingM α}
    (found : ∀ value, next (some value) = Pure.pure value) (missing : ∃ failure, next none = SeatBilling.failWith failure) :
    ReadOnly spared
      (SeatBilling.guarded call onStale onSkip onMissing (Calls.backed (Calls.readStore view) onDatabase) >>= next)
      fun _ => True :=
  fun _ => (Spec.lookup found missing).mono (fun _ holds => holds) (fun _ _ ⟨holds, _⟩ => ⟨holds, trivial⟩)
    fun _ ⟨holds, _⟩ => holds

/-- Recording an event keeps whatever held of the subscriptions and the invoices. -/
theorem record_keeps (holds : Store → Prop)
    (onRecords : ∀ store other : Store, other.subscriptions = store.subscriptions → other.invoices = store.invoices →
      holds store → holds other)
    (company : Uuid) (kind : EventKind) (actor : Actor) (subscription invoice : Option Uuid) (data : Json) (at_ : Moment) :
    Spec spared (fun facts => holds facts.store) (EventLog.record company kind actor subscription invoice data at_)
      (fun _ facts => holds facts.store) failed :=
  of_facts fun facts holding => (Spec.record facts company kind actor subscription invoice data at_).mono
    (fun _ same => same) (fun _ _ ⟨_, subscriptions, invoices⟩ => onRecords _ _ subscriptions invoices holding)
    fun _ stopped => stopped

end Spec

end SeatBilling
