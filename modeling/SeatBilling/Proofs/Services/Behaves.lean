import SeatBilling.Proofs.Ledger.Changes

/-!
# Runs under honest faults, to every outcome

`Runs` follows a run to every outcome under any fault; `Spec` follows it under honest faults
while it succeeds or fails. A sweep needs both at once: it catches the halts of its timed
sections and goes on, and what it then reports depends on faults that give no wrong answer.

`Behaves exposure now headcount pre action gives halts` reads: from a settled world whose armed
faults `exposure` admits and whose facts satisfy `pre`, the action ends in such a world, and
`gives` holds of the value it gives, `halts` of the halt it ends with. Under the `calm` exposure
no fault is armed, so every call does its work; under the `honest` one a call may fail or run
out of time, but it never answers without doing its work.
-/

namespace SeatBilling

open SeatBilling.Time

/-- The faults a run is exposed to: none at all, or honest ones. -/
inductive Exposure where
  | calm
  | honest
  deriving DecidableEq, Repr

/-- The armed faults are of the exposure. -/
def Exposure.Admits : Exposure → List Fault → Prop
  | .calm, faults => faults = []
  | .honest, faults => ∀ fault ∈ faults, fault.Honest

/-- What an outcome satisfies: `gives` of its value, `halts` of its halt, on the facts it ends
with. -/
def Ends {α : Type} (gives : α → Facts → Prop) (halts : Halt → Facts → Prop) : Except Halt α × World → Prop
  | (.ok value, after) => gives value after.facts
  | (.error halt, after) => halts halt after.facts

/-- From every settled world whose faults `exposure` admits and whose facts satisfy `pre`, the
action ends in such a world, with a value satisfying `gives` or a halt satisfying `halts`. -/
def Behaves {α : Type} (exposure : Exposure) (now : Moment) (headcount : List (Uuid × Int)) (pre : Facts → Prop)
    (action : BillingM α) (gives : α → Facts → Prop) (halts : Halt → Facts → Prop) : Prop :=
  ∀ world, world.Settled now headcount → exposure.Admits world.faults → pre world.facts →
    (action.run.run world).2.Settled now headcount ∧ exposure.Admits (action.run.run world).2.faults ∧
      Ends gives halts (action.run.run world)

namespace Behaves

variable {α β : Type} {exposure : Exposure} {now : Moment} {headcount : List (Uuid × Int)} {pre : Facts → Prop}
  {gives : α → Facts → Prop} {halts : Halt → Facts → Prop}

/-! ## Structural rules -/

theorem mono {action : BillingM α} {pre' : Facts → Prop} {gives' : α → Facts → Prop} {halts' : Halt → Facts → Prop}
    (behaves : Behaves exposure now headcount pre action gives halts) (stronger : ∀ facts, pre' facts → pre facts)
    (weaker : ∀ value facts, gives value facts → gives' value facts)
    (weakerHalts : ∀ halt facts, halts halt facts → halts' halt facts) :
    Behaves exposure now headcount pre' action gives' halts' := by
  intro world settled admitted holds
  obtain ⟨later, admits, ended⟩ := behaves world settled admitted (stronger _ holds)
  refine ⟨later, admits, ?_⟩
  rcases ran : action.run.run world with ⟨halt | value, after⟩
  · rw [ran] at ended
    exact weakerHalts _ _ ended
  · rw [ran] at ended
    exact weaker _ _ ended

/-- A run may start from each of the facts its precondition allows. -/
theorem of_facts {action : BillingM α}
    (each : ∀ facts, pre facts → Behaves exposure now headcount (· = facts) action gives halts) :
    Behaves exposure now headcount pre action gives halts :=
  fun world settled admitted holds => each world.facts holds world settled admitted rfl

/-- A run that gives a value ends as the action is said to give it. -/
theorem gives_of_run {action : BillingM α} (behaves : Behaves exposure now headcount pre action gives halts)
    {world : World} (settled : world.Settled now headcount) (admitted : exposure.Admits world.faults)
    (holds : pre world.facts) {value : α} (ran : (action.run.run world).1 = .ok value) :
    gives value (action.run.run world).2.facts := by
  obtain ⟨-, -, ended⟩ := behaves world settled admitted holds
  rcases outcome : action.run.run world with ⟨halt | result, after⟩
  · rw [outcome] at ran
    cases ran
  · rw [outcome] at ran ended
    cases ran
    exact ended

/-- A sequence halts where its first action halts, and ends where the rest ends otherwise. -/
theorem bind {first : BillingM α} {next : α → BillingM β} {mid : α → Facts → Prop} {gives : β → Facts → Prop}
    (behaves : Behaves exposure now headcount pre first mid halts)
    (rest : ∀ value, Behaves exposure now headcount (mid value) (next value) gives halts) :
    Behaves exposure now headcount pre (first >>= next) gives halts := by
  intro world settled admitted holds
  obtain ⟨middle, admits, ended⟩ := behaves world settled admitted holds
  rw [run_bind]
  rcases ran : first.run.run world with ⟨halt | value, after⟩
  · rw [ran] at middle admits ended
    exact ⟨middle, admits, ended⟩
  · rw [ran] at middle admits ended
    exact rest value after middle admits ended

/-- A caught halt hands the facts it left to the handler. -/
theorem catchHalt {action : BillingM α} {handler : Halt → BillingM α} {caught : Halt → Facts → Prop}
    (behaves : Behaves exposure now headcount pre action gives caught)
    (handles : ∀ halt, Behaves exposure now headcount (caught halt) (handler halt) gives halts) :
    Behaves exposure now headcount pre (tryCatch action handler) gives halts := by
  intro world settled admitted holds
  obtain ⟨middle, admits, ended⟩ := behaves world settled admitted holds
  rw [run_tryCatch]
  rcases ran : action.run.run world with ⟨halt | value, after⟩
  · rw [ran] at middle admits ended
    exact handles halt after middle admits ended
  · rw [ran] at middle admits ended
    exact ⟨middle, admits, ended⟩

/-- A caught failure hands the facts it left to the handler; other halts go on. -/
theorem catchFailure {action : BillingM α} {handler : Failure → BillingM α} {caught : Halt → Facts → Prop}
    (behaves : Behaves exposure now headcount pre action gives caught)
    (handles : ∀ failure, Behaves exposure now headcount (caught (.failed failure)) (handler failure) gives halts)
    (passes : ∀ halt facts, (∀ failure, halt ≠ .failed failure) → caught halt facts → halts halt facts) :
    Behaves exposure now headcount pre (SeatBilling.catchFailure action handler) gives halts := by
  intro world settled admitted holds
  obtain ⟨middle, admits, ended⟩ := behaves world settled admitted holds
  rw [run_catchFailure]
  rcases ran : action.run.run world with ⟨halt | value, after⟩
  · rw [ran] at middle admits ended
    cases halt with
    | failed failure => exact handles failure after middle admits ended
    | elapsed => exact ⟨middle, admits, passes _ _ nofun ended⟩
    | overflow => exact ⟨middle, admits, passes _ _ nofun ended⟩
  · rw [ran] at middle admits ended
    exact ⟨middle, admits, ended⟩

theorem map {γ : Type} {action : BillingM α} (change : α → γ) (behaves : Behaves exposure now headcount pre action gives halts) :
    Behaves exposure now headcount pre (change <$> action)
      (fun result facts => ∃ value, result = change value ∧ gives value facts) halts := by
  intro world settled admitted holds
  obtain ⟨later, admits, ended⟩ := behaves world settled admitted holds
  rw [Spec.run_map]
  rcases ran : action.run.run world with ⟨halt | value, after⟩
  · rw [ran] at later admits ended
    exact ⟨later, admits, ended⟩
  · rw [ran] at later admits ended
    exact ⟨later, admits, value, rfl, ended⟩

/-- An attempt gives the action's failure as a value, and halts only otherwise. -/
theorem attempt {action : BillingM α} (behaves : Behaves exposure now headcount pre action gives halts) :
    Behaves exposure now headcount pre (SeatBilling.attempt action)
      (fun result facts => match result with
        | .ok value => gives value facts
        | .error failure => halts (.failed failure) facts)
      (fun halt facts => (∀ failure, halt ≠ .failed failure) ∧ halts halt facts) := by
  unfold SeatBilling.attempt
  refine catchFailure ((map Except.ok behaves).mono (fun _ holds => holds) (fun result facts given => ?_)
    fun _ _ halted => halted) (fun failure world settled admitted holds => ⟨settled, admitted, holds⟩)
    fun _ _ other halted => ⟨other, halted⟩
  obtain ⟨value, rfl, given⟩ := given
  exact given

/-- A timed section changes only the time allowed. -/
theorem timedSection (limit : Nat) {action : BillingM α} (behaves : Behaves exposure now headcount pre action gives halts) :
    Behaves exposure now headcount pre (SeatBilling.timedSection limit action) gives halts := by
  intro world settled admitted holds
  obtain ⟨later, admits, ended⟩ := behaves { world with timeLeft := some limit } (settled.aside world.faults _)
    admitted holds
  rw [run_timedSection]
  rcases ran : action.run.run { world with timeLeft := some limit } with ⟨halt | value, after⟩
  all_goals
    rw [ran] at later admits ended
    exact ⟨later.aside _ _, admits, ended⟩

/-- A loop whose every step keeps an invariant of the items it has done keeps it to the end:
the invariant is indexed by the items done, which with those left make up the list. -/
theorem foldlM {γ : Type} {invariant : List α → γ → Facts → Prop} (step : γ → α → BillingM γ) (items : List α)
    (keeps : ∀ done item left accumulated, done ++ item :: left = items →
      Behaves exposure now headcount (invariant done accumulated) (step accumulated item)
        (fun next => invariant (done ++ [item]) next) halts) :
    ∀ left done accumulated, done ++ left = items →
      Behaves exposure now headcount (invariant done accumulated) (left.foldlM step accumulated)
        (fun result => invariant items result) halts := by
  intro left
  induction left with
  | nil =>
    intro done accumulated whole world settled admitted holds
    rw [List.append_nil] at whole
    subst whole
    exact ⟨settled, admitted, holds⟩
  | cons item left inductionHypothesis =>
    intro done accumulated whole
    rw [List.foldlM_cons]
    exact bind (keeps done item left accumulated whole) fun next =>
      inductionHypothesis (done ++ [item]) next (by rw [List.append_assoc]; exact whole)

/-! ## Actions on the world itself -/

theorem pure (value : α) :
    Behaves exposure now headcount pre (Pure.pure value) (fun result facts => result = value ∧ pre facts) halts :=
  fun _ settled admitted holds => ⟨settled, admitted, rfl, holds⟩

theorem throw (halt : Halt) :
    Behaves exposure now headcount pre (MonadExcept.throw halt : BillingM α) gives (fun thrown facts => thrown = halt ∧ pre facts) :=
  fun _ settled admitted holds => ⟨settled, admitted, rfl, holds⟩

theorem failWith (failure : Failure) :
    Behaves exposure now headcount pre (SeatBilling.failWith failure : BillingM α) gives
      (fun halt facts => halt = .failed failure ∧ pre facts) :=
  throw _

theorem clock : Behaves exposure now headcount pre SeatBilling.now (fun value facts => value = now ∧ pre facts) halts :=
  fun _ settled admitted holds => ⟨settled, admitted, settled.clock, holds⟩

theorem config :
    Behaves exposure now headcount pre SeatBilling.config (fun value facts => value = facts.config ∧ pre facts) halts :=
  fun _ settled admitted holds => ⟨settled, admitted, rfl, holds⟩

theorem orOverflow (value : Option α) :
    Behaves exposure now headcount pre (SeatBilling.orOverflow value) (fun result facts => value = some result ∧ pre facts)
      (fun halt facts => value = none ∧ halt = .overflow ∧ pre facts) := by
  intro world settled admitted holds
  cases value with
  | some value => exact ⟨settled, admitted, rfl, holds⟩
  | none => exact ⟨settled, admitted, rfl, rfl, holds⟩

theorem emit (level : Log.Level) (target message : String) (fields : List (String × String)) :
    Behaves exposure now headcount pre (SeatBilling.emit level target message fields) (fun _ facts => pre facts) halts :=
  fun _ settled admitted holds => ⟨⟨settled.inMemory, settled.clock, settled.headcount⟩, admitted, holds⟩

theorem freshId (facts : Facts) :
    Behaves exposure now headcount (· = facts) SeatBilling.freshId
      (fun id after => id = Uuid.ofSerial facts.serial ∧ after = { facts with serial := facts.serial + 1 }) halts := by
  rintro world settled admitted rfl
  exact ⟨⟨settled.inMemory, settled.clock, settled.headcount⟩, admitted, rfl, rfl⟩

/-! ## Collaborator calls

Under the calm exposure a guarded call does its work; under the honest one it does its work on
the world with its fault used up, or halts on the facts it started from. -/

theorem guarded {call : Call} {onStale onSkip onMissing : Option α} {work : BillingM α}
    (behaves : Behaves exposure now headcount pre work gives halts)
    (interrupted : exposure = .honest → ∀ halt facts, pre facts → halts halt facts) :
    Behaves exposure now headcount pre (SeatBilling.guarded call onStale onSkip onMissing work) gives halts := by
  intro world settled admitted holds
  cases exposure with
  | calm =>
    rw [Calls.guarded_run admitted]
    exact behaves world settled admitted holds
  | honest =>
    have honest : Honest world := ⟨settled.inMemory, admitted⟩
    obtain ⟨timeLeft, worked | ⟨halt, halted, -⟩⟩ := guarded_cases honest call onStale onSkip onMissing work
    · rw [worked]
      exact behaves _ (settled.aside _ timeLeft) (honest.spend call timeLeft).faults holds
    · rw [halted]
      exact ⟨settled.aside _ timeLeft, (honest.spend call timeLeft).faults, interrupted rfl halt _ holds⟩

/-- A settled world keeps its records in memory. -/
theorem backed {inMemory : BillingM α} {onDatabase : SqlStore.StoreM α}
    (behaves : Behaves exposure now headcount pre inMemory gives halts) :
    Behaves exposure now headcount pre (Calls.backed inMemory onDatabase) gives halts := by
  intro world settled admitted holds
  rw [Calls.backed_run settled.inMemory]
  exact behaves world settled admitted holds

/-- A read of the store gives what the store holds, under either exposure; an honest fault may
fail it or run it out of time instead. The facts stay. -/
theorem readCall (call : Call) (onStale onSkip onMissing : Option α) (view : Store → α)
    (onDatabase : SqlStore.StoreM α) :
    Behaves exposure now headcount pre
      (SeatBilling.guarded call onStale onSkip onMissing (Calls.backed (Calls.readStore view) onDatabase))
      (fun value facts => value = view facts.store ∧ pre facts) (fun _ facts => exposure = .honest ∧ pre facts) :=
  guarded (backed fun _ settled admitted holds => ⟨settled, admitted, rfl, holds⟩)
    fun honest _ _ holds => ⟨honest, holds⟩

/-- A lookup that fails when it finds nothing gives the record the store holds, under either
exposure; it fails only under an honest fault or when the store holds no such record. -/
theorem lookup {call : Call} {view : Store → Option α} {onDatabase : SqlStore.StoreM (Option α)}
    {next : Option α → BillingM α} (found : ∀ value, next (some value) = Pure.pure value)
    (missing : ∃ failure, next none = SeatBilling.failWith failure) :
    Behaves exposure now headcount pre
      (SeatBilling.guarded call none none (some none) (Calls.backed (Calls.readStore view) onDatabase) >>= next)
      (fun value facts => view facts.store = some value ∧ pre facts)
      (fun _ facts => (exposure = .honest ∨ view facts.store = none) ∧ pre facts) := by
  obtain ⟨failure, fails⟩ := missing
  refine bind ((readCall call none none (some none) view onDatabase).mono (fun _ holds => holds)
    (fun _ _ given => given) fun _ _ ⟨honest, holds⟩ => ⟨.inl honest, holds⟩) fun result => ?_
  cases result with
  | none =>
    rw [fails]
    exact (failWith failure).mono (fun _ holds => holds) (fun _ _ given => given)
      fun _ _ ⟨_, absent, holds⟩ => ⟨.inr absent.symm, holds⟩
  | some value =>
    rw [found]
    refine (pure value).mono (fun _ holds => holds) (fun result _ ⟨same, viewed, holds⟩ => ?_) fun _ _ given => given
    rw [same]
    exact ⟨viewed.symm, holds⟩

/-- A store step writes the store it gives, or fails as the step does, or, under an honest
fault, halts; a halt leaves the facts as they were. -/
theorem stepStore (facts : Facts) (step : Store → Except Failure (α × Store)) :
    Behaves exposure now headcount (· = facts) (Calls.stepStore step)
      (fun value after => step facts.store = .ok (value, after.store) ∧ after = { facts with store := after.store })
      (fun halt after => after = facts ∧ ∃ failure, halt = .failed failure ∧ step facts.store = .error failure) := by
  rintro world settled admitted rfl
  rw [Calls.stepStore_run]
  rcases stepped : step world.store with failure | ⟨value, store⟩
  · exact ⟨settled, admitted, rfl, failure, rfl, stepped⟩
  · exact ⟨⟨settled.inMemory, settled.clock, settled.headcount⟩, admitted, stepped, rfl⟩

theorem haltingStep (facts : Facts) (step : Store → Except Halt (α × Store)) :
    Behaves exposure now headcount (· = facts) (Calls.haltingStep step)
      (fun value after => step facts.store = .ok (value, after.store) ∧ after = { facts with store := after.store })
      (fun halt after => after = facts ∧ step facts.store = .error halt) := by
  rintro world settled admitted rfl
  rw [Calls.haltingStep_run]
  rcases stepped : step world.store with halt | ⟨value, store⟩
  · exact ⟨settled, admitted, rfl, stepped⟩
  · exact ⟨⟨settled.inMemory, settled.clock, settled.headcount⟩, admitted, stepped, rfl⟩

/-- The headcount comes from the employee directory, and the facts stay. -/
theorem countActive (company : Uuid) :
    Behaves exposure now headcount pre (Calls.countActive company)
      (fun value facts => value = activeEmployees headcount company ∧ pre facts)
      (fun _ facts => exposure = .honest ∧ pre facts) :=
  guarded (backed fun _ settled admitted holds => ⟨settled, admitted, by rw [← settled.headcount]; rfl, holds⟩)
    fun honest _ _ holds => ⟨honest, holds⟩

end Behaves

end SeatBilling
