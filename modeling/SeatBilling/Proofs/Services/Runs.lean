import SeatBilling.Proofs.Services.Specs

/-!
# Runs that end anywhere

`Spec` follows an operation while it succeeds or fails. A run may also halt, when a timed
section runs out or arithmetic leaves its range, and whatever the outcome, the changes made
before the end stay. The rules here say what holds of the world a run ends in, in every
outcome and under every armed fault: a fault makes its call fail, take long, or give an
answer of its own without doing its work, and it never makes the call do other work.

`Runs now headcount pre action gives ends` reads: from a world that keeps its records in
memory, whose clock reads `now`, whose employee directory counts `headcount` and whose facts
satisfy `pre`, the action ends, with a value, a failure or a halt, in such a world whose facts
satisfy `ends`; and `gives` holds of the value it gives. The clock and the headcount are fixed,
since no action of the core changes them.
-/

namespace SeatBilling

open SeatBilling.Time

/-- The world keeps its records in memory, its clock reads `now` and its employee directory
counts `headcount`. -/
structure World.Settled (now : Moment) (headcount : List (Uuid × Int)) (world : World) : Prop where
  inMemory : world.backend = .memory
  clock : world.clock = now
  headcount : world.headcount = headcount

/-- A world with other faults left, another time allowance, more logs or another provider is as
settled as before. -/
theorem World.Settled.aside {now : Moment} {headcount : List (Uuid × Int)} {world : World}
    (settled : world.Settled now headcount) (faults : List Fault) (timeLeft : Option Nat) :
    World.Settled now headcount { world with faults := faults, timeLeft := timeLeft } :=
  ⟨settled.inMemory, settled.clock, settled.headcount⟩

/-- From every settled world whose facts satisfy `pre`, the action ends, whatever the outcome, in
a settled world whose facts satisfy `ends`, and `gives` holds of a value it gives. -/
def Runs {α : Type} (now : Moment) (headcount : List (Uuid × Int)) (pre : Facts → Prop) (action : BillingM α)
    (gives : α → Facts → Prop) (ends : Facts → Prop) : Prop :=
  ∀ world, world.Settled now headcount → pre world.facts →
    (action.run.run world).2.Settled now headcount ∧ ends (action.run.run world).2.facts ∧
      ∀ value, (action.run.run world).1 = .ok value → gives value (action.run.run world).2.facts

/-- A guarded call either does its work on the world with its fault used up and its time spent,
or ends there, with a halt or with an answer of its own kept for such faults. -/
theorem guarded_outcomes {α : Type} (world : World) (call : Call) (onStale onSkip onMissing : Option α)
    (work : BillingM α) :
    ∃ faults timeLeft,
      (guarded call onStale onSkip onMissing work).run.run world =
          work.run.run { world with faults := faults, timeLeft := timeLeft } ∨
        (∃ halt, (guarded call onStale onSkip onMissing work).run.run world =
          (.error halt, { world with faults := faults, timeLeft := timeLeft })) ∨
        ∃ value, (onStale = some value ∨ onSkip = some value ∨ onMissing = some value) ∧
          (guarded call onStale onSkip onMissing work).run.run world =
            (.ok value, { world with faults := faults, timeLeft := timeLeft }) := by
  unfold guarded
  simp only [run_bind, run_get, run_set]
  cases (takeFault call world.faults).1 with
  | none => exact ⟨_, world.timeLeft, .inl rfl⟩
  | some fault =>
    dsimp only
    cases fault.failure with
    | some failure => exact ⟨_, world.timeLeft, .inr (.inl ⟨.failed failure, rfl⟩)⟩
    | none =>
      dsimp only
      -- an answer kept for the fault's kind replaces the work; without one the work is done
      have answered : ∀ (answer : Option α), (∀ value, answer = some value →
          onStale = some value ∨ onSkip = some value ∨ onMissing = some value) →
          ∃ faults timeLeft,
            (answer.elim work pure).run.run { world with faults := (takeFault call world.faults).2 } =
                work.run.run { world with faults := faults, timeLeft := timeLeft } ∨
              (∃ halt, (answer.elim work pure).run.run { world with faults := (takeFault call world.faults).2 } =
                (.error halt, { world with faults := faults, timeLeft := timeLeft })) ∨
              ∃ value, (onStale = some value ∨ onSkip = some value ∨ onMissing = some value) ∧
                (answer.elim work pure).run.run { world with faults := (takeFault call world.faults).2 } =
                  (.ok value, { world with faults := faults, timeLeft := timeLeft }) := by
        intro answer kept
        cases answer with
        | none => exact ⟨_, world.timeLeft, .inl rfl⟩
        | some value => exact ⟨_, world.timeLeft, .inr (.inr ⟨value, kept value rfl, rfl⟩)⟩
      cases fault.kind with
      | slow =>
        -- a slow call spends an hour of the running section, or ends it
        simp only [slowCall, run_bind, run_get]
        cases left : world.timeLeft with
        | none => exact ⟨_, world.timeLeft, .inl (by rw [left]; rfl)⟩
        | some seconds =>
          by_cases short : seconds < slowCallSeconds
          · exact ⟨_, some seconds, .inr (.inl ⟨.elapsed, by simp [short]; rfl⟩)⟩
          · exact ⟨_, some (seconds - slowCallSeconds), .inl (by simp [short]; rfl)⟩
      | stale => exact answered onStale fun value same => .inl same
      | skip => exact answered onSkip fun value same => .inr (.inl same)
      | missing => exact answered onMissing fun value same => .inr (.inr same)
      | database | internal | timeout | provider | rejected | concurrent | pass =>
        exact ⟨_, world.timeLeft, .inl rfl⟩

@[simp] theorem run_modify (world : World) (change : World → World) :
    (modify change : BillingM Unit).run.run world = (.ok (), change world) := rfl

/-- A caught halt runs the handler on the world the action left. -/
theorem run_tryCatch {α : Type} (world : World) (action : BillingM α) (handler : Halt → BillingM α) :
    (tryCatch action handler).run.run world =
      match action.run.run world with
      | (.error halt, after) => (handler halt).run.run after
      | outcome => outcome := by
  simp only [tryCatch, tryCatchThe, MonadExceptOf.tryCatch, ExceptT.tryCatch, ExceptT.run, ExceptT.mk, StateT.run,
    bind, StateT.bind]
  rcases action world with ⟨_ | _, after⟩ <;> rfl

/-- A timed section runs its action with the time allowed, then restores the allowance it
found. -/
theorem run_timedSection {α : Type} (world : World) (limit : Nat) (action : BillingM α) :
    (timedSection limit action).run.run world =
      ((action.run.run { world with timeLeft := some limit }).1,
        { (action.run.run { world with timeLeft := some limit }).2 with timeLeft := world.timeLeft }) := by
  unfold timedSection
  simp only [run_bind, run_get, run_modify, run_tryCatch, Spec.run_map]
  rcases action.run.run { world with timeLeft := some limit } with ⟨halt | value, after⟩ <;> rfl

namespace Runs

variable {α β : Type} {now : Moment} {headcount : List (Uuid × Int)} {pre : Facts → Prop}
  {gives : α → Facts → Prop} {ends : Facts → Prop}

/-! ## Structural rules -/

theorem mono {action : BillingM α} {pre' : Facts → Prop} {gives' : α → Facts → Prop} {ends' : Facts → Prop}
    (runs : Runs now headcount pre action gives ends) (stronger : ∀ facts, pre' facts → pre facts)
    (weaker : ∀ value facts, gives value facts → gives' value facts)
    (weakerEnds : ∀ facts, ends facts → ends' facts) : Runs now headcount pre' action gives' ends' := by
  intro world settled holds
  obtain ⟨later, ended, given⟩ := runs world settled (stronger _ holds)
  exact ⟨later, weakerEnds _ ended, fun value ok => weaker _ _ (given value ok)⟩

/-- A run may start from each of the facts its precondition allows. -/
theorem of_facts {action : BillingM α} (each : ∀ facts, pre facts → Runs now headcount (· = facts) action gives ends) :
    Runs now headcount pre action gives ends :=
  fun world settled holds => each world.facts holds world settled rfl

/-- A sequence ends where its first action ends when that one does not give a value, and where
the rest ends otherwise. -/
theorem bind {first : BillingM α} {next : α → BillingM β} {mid : α → Facts → Prop} {gives : β → Facts → Prop}
    (runs : Runs now headcount pre first mid ends) (rest : ∀ value, Runs now headcount (mid value) (next value) gives ends) :
    Runs now headcount pre (first >>= next) gives ends := by
  intro world settled holds
  obtain ⟨middle, ended, given⟩ := runs world settled holds
  rw [run_bind]
  rcases ran : first.run.run world with ⟨halt | value, after⟩
  · rw [ran] at middle ended
    exact ⟨middle, ended, nofun⟩
  · rw [ran] at middle given
    exact rest value after middle (given value rfl)

/-- A caught failure hands the facts it left to the handler. -/
theorem catchFailure {action : BillingM α} {handler : Failure → BillingM α} {mid : Facts → Prop}
    (runs : Runs now headcount pre action gives mid) (handles : ∀ failure, Runs now headcount mid (handler failure) gives ends)
    (passes : ∀ facts, mid facts → ends facts) :
    Runs now headcount pre (SeatBilling.catchFailure action handler) gives ends := by
  intro world settled holds
  obtain ⟨middle, ended, given⟩ := runs world settled holds
  rw [run_catchFailure]
  rcases ran : action.run.run world with ⟨halt | value, after⟩
  · rw [ran] at middle ended
    cases halt with
    | failed failure => exact handles failure after middle ended
    | elapsed => exact ⟨middle, passes _ ended, nofun⟩
    | overflow => exact ⟨middle, passes _ ended, nofun⟩
  · rw [ran] at middle given ended
    exact ⟨middle, passes _ ended, given⟩

theorem map {γ : Type} {action : BillingM α} (change : α → γ) (runs : Runs now headcount pre action gives ends) :
    Runs now headcount pre (change <$> action) (fun result facts => ∃ value, result = change value ∧ gives value facts)
      ends := by
  intro world settled holds
  obtain ⟨later, ended, given⟩ := runs world settled holds
  rw [Spec.run_map]
  rcases ran : action.run.run world with ⟨halt | value, after⟩
  · rw [ran] at later ended
    exact ⟨later, ended, nofun⟩
  · rw [ran] at later ended given
    exact ⟨later, ended, fun _ result => ⟨value, (Except.ok.inj result).symm, given value rfl⟩⟩

/-- An attempt gives the action's failure as a value. -/
theorem attempt {action : BillingM α} (runs : Runs now headcount pre action gives ends) :
    Runs now headcount pre (SeatBilling.attempt action)
      (fun result facts => match result with
        | .ok value => gives value facts
        | .error _ => ends facts) ends := by
  unfold SeatBilling.attempt
  refine catchFailure ((map Except.ok runs).mono (fun _ holds => holds) (fun result facts ⟨value, same, given⟩ => ?_)
    (fun _ ended => ended)) (fun _ => ?_) fun _ ended => ended
  · rw [same]
    exact given
  · intro world settled holds
    exact ⟨settled, holds, fun _ given => by cases given; exact holds⟩

/-- A caught halt hands the facts it left to the handler. -/
theorem catchHalt {action : BillingM α} {handler : Halt → BillingM α} {mid : Facts → Prop}
    (runs : Runs now headcount pre action gives mid) (handles : ∀ halt, Runs now headcount mid (handler halt) gives ends)
    (passes : ∀ facts, mid facts → ends facts) :
    Runs now headcount pre (tryCatch action handler) gives ends := by
  intro world settled holds
  obtain ⟨middle, ended, given⟩ := runs world settled holds
  rw [run_tryCatch]
  rcases ran : action.run.run world with ⟨halt | value, after⟩
  · rw [ran] at middle ended
    exact handles halt after middle ended
  · rw [ran] at middle given ended
    exact ⟨middle, passes _ ended, given⟩

/-! ## Actions on the world itself -/

theorem pure (value : α) : Runs now headcount pre (Pure.pure value) (fun result facts => result = value ∧ pre facts) pre :=
  fun _ settled holds => ⟨settled, holds, fun _ given => ⟨(Except.ok.inj given).symm, holds⟩⟩

theorem failWith (failure : Failure) : Runs now headcount pre (SeatBilling.failWith failure : BillingM α) gives pre :=
  fun _ settled holds => ⟨settled, holds, nofun⟩

theorem clock : Runs now headcount pre SeatBilling.now (fun value facts => value = now ∧ pre facts) pre :=
  fun _ settled holds => ⟨settled, holds, fun _ given => ⟨(Except.ok.inj given).symm.trans settled.clock, holds⟩⟩

theorem config : Runs now headcount pre SeatBilling.config (fun value facts => value = facts.config ∧ pre facts) pre :=
  fun _ settled holds => ⟨settled, holds, fun _ given => ⟨(Except.ok.inj given).symm, holds⟩⟩

theorem freshId (facts : Facts) :
    Runs now headcount (· = facts) SeatBilling.freshId
      (fun id after => id = Uuid.ofSerial facts.serial ∧ after = { facts with serial := facts.serial + 1 })
      (fun after => after = { facts with serial := facts.serial + 1 }) := by
  rintro world settled rfl
  exact ⟨⟨settled.inMemory, settled.clock, settled.headcount⟩, rfl, fun _ given => ⟨(Except.ok.inj given).symm, rfl⟩⟩

theorem orOverflow (value : Option α) :
    Runs now headcount pre (SeatBilling.orOverflow value) (fun result facts => value = some result ∧ pre facts) pre := by
  intro world settled holds
  cases value with
  | some value => exact ⟨settled, holds, fun _ given => ⟨congrArg some (Except.ok.inj given), holds⟩⟩
  | none => exact ⟨settled, holds, nofun⟩

theorem emit (level : Log.Level) (target message : String) (fields : List (String × String)) :
    Runs now headcount pre (SeatBilling.emit level target message fields) (fun _ facts => pre facts) pre :=
  fun _ settled holds => ⟨⟨settled.inMemory, settled.clock, settled.headcount⟩, holds, fun _ _ => holds⟩

/-- A timed section changes only the time allowed. -/
theorem timedSection (limit : Nat) {action : BillingM α} (runs : Runs now headcount pre action gives ends) :
    Runs now headcount pre (SeatBilling.timedSection limit action) gives ends := by
  intro world settled holds
  obtain ⟨later, ended, given⟩ := runs { world with timeLeft := some limit } (settled.aside world.faults _) holds
  rw [run_timedSection]
  exact ⟨later.aside _ _, ended, given⟩

/-- An invariant that every step of a loop keeps holds after the loop. -/
theorem foldlM {γ : Type} {invariant : Facts → Prop} (step : γ → α → BillingM γ) (items : List α)
    (keeps : ∀ accumulated item, Runs now headcount invariant (step accumulated item) (fun _ => invariant) invariant)
    (initial : γ) :
    Runs now headcount invariant (items.foldlM step initial) (fun _ => invariant) invariant := by
  induction items generalizing initial with
  | nil => exact (pure initial).mono (fun _ holds => holds) (fun _ _ ⟨_, holds⟩ => holds) fun _ holds => holds
  | cons item items inductionHypothesis =>
    rw [List.foldlM_cons]
    exact bind (keeps initial item) fun accumulated => inductionHypothesis accumulated

/-! ## Collaborator calls

A guarded call ends where its work ends, or on the facts it started from: a fault that fails it
or runs it out of time, and an answer kept for a fault, change no facts. -/

theorem guarded {call : Call} {onStale onSkip onMissing : Option α} {work : BillingM α}
    (runs : Runs now headcount pre work gives ends) (stops : ∀ facts, pre facts → ends facts)
    (answers : ∀ value facts, onStale = some value ∨ onSkip = some value ∨ onMissing = some value →
      pre facts → gives value facts) :
    Runs now headcount pre (SeatBilling.guarded call onStale onSkip onMissing work) gives ends := by
  intro world settled holds
  obtain ⟨faults, timeLeft, worked | ⟨halt, halted⟩ | ⟨value, kept, answered⟩⟩ :=
    guarded_outcomes world call onStale onSkip onMissing work
  · rw [worked]
    exact runs _ (settled.aside faults timeLeft) holds
  · rw [halted]
    exact ⟨settled.aside faults timeLeft, stops _ holds, nofun⟩
  · rw [answered]
    exact ⟨settled.aside faults timeLeft, stops _ holds, fun _ given => by
      cases given; exact answers value _ kept holds⟩

/-- A settled world keeps its records in memory. -/
theorem backed {inMemory : BillingM α} {onDatabase : SqlStore.StoreM α} (runs : Runs now headcount pre inMemory gives ends) :
    Runs now headcount pre (Calls.backed inMemory onDatabase) gives ends := by
  intro world settled holds
  rw [Calls.backed_run settled.inMemory]
  exact runs world settled holds

theorem readStore (view : Store → α) :
    Runs now headcount pre (Calls.readStore view) (fun value facts => value = view facts.store ∧ pre facts) pre :=
  fun _ settled holds => ⟨settled, holds, fun _ given => ⟨(Except.ok.inj given).symm, holds⟩⟩

/-- A read of the store gives what the store holds, or the answer kept for a fault; either way
the facts stay. -/
theorem readCall (call : Call) (onStale onSkip onMissing : Option α) (view : Store → α)
    (onDatabase : SqlStore.StoreM α) :
    Runs now headcount pre
      (SeatBilling.guarded call onStale onSkip onMissing (Calls.backed (Calls.readStore view) onDatabase))
      (fun value facts => (value = view facts.store ∨ onStale = some value ∨ onSkip = some value ∨
        onMissing = some value) ∧ pre facts) pre :=
  guarded ((backed (readStore view)).mono (fun _ holds => holds) (fun _ _ ⟨same, holds⟩ => ⟨.inl same, holds⟩)
    fun _ holds => holds) (fun _ holds => holds) fun _ _ kept holds => ⟨.inr kept, holds⟩

/-- A store step writes the store it gives, or leaves the facts as they were. -/
theorem stepStore (facts : Facts) (step : Store → Except Failure (α × Store)) :
    Runs now headcount (· = facts) (Calls.stepStore step)
      (fun value after => step facts.store = .ok (value, after.store) ∧ after = { facts with store := after.store })
      (fun after => after = facts ∨ ∃ value, step facts.store = .ok (value, after.store) ∧
        after = { facts with store := after.store }) := by
  rintro world settled rfl
  rw [Calls.stepStore_run]
  rcases stepped : step world.store with failure | ⟨value, store⟩
  · exact ⟨settled, .inl rfl, nofun⟩
  · exact ⟨⟨settled.inMemory, settled.clock, settled.headcount⟩, .inr ⟨value, stepped, rfl⟩,
      fun _ given => ⟨by cases given; exact stepped, rfl⟩⟩

theorem haltingStep (facts : Facts) (step : Store → Except Halt (α × Store)) :
    Runs now headcount (· = facts) (Calls.haltingStep step)
      (fun value after => step facts.store = .ok (value, after.store) ∧ after = { facts with store := after.store })
      (fun after => after = facts ∨ ∃ value, step facts.store = .ok (value, after.store) ∧
        after = { facts with store := after.store }) := by
  rintro world settled rfl
  rw [Calls.haltingStep_run]
  rcases stepped : step world.store with halt | ⟨value, store⟩
  · exact ⟨settled, .inl rfl, nofun⟩
  · exact ⟨⟨settled.inMemory, settled.clock, settled.headcount⟩, .inr ⟨value, stepped, rfl⟩,
      fun _ given => ⟨by cases given; exact stepped, rfl⟩⟩

/-- The headcount comes from the employee directory, and the facts stay. -/
theorem countActive (company : Uuid) :
    Runs now headcount pre (Calls.countActive company)
      (fun value facts => value = ((headcount.find? (·.1 == company)).map (·.2)).getD 0 ∧ pre facts) pre :=
  guarded (backed fun _ settled holds => ⟨settled, holds, fun _ given => ⟨by
      rw [← settled.headcount]; exact (Except.ok.inj given).symm, holds⟩⟩)
    (fun _ holds => holds) fun _ _ kept => by simp at kept

/-- Asking the provider changes no facts. -/
theorem createProviderInvoice (request : ProviderRequest) :
    Runs now headcount pre (Calls.createProviderInvoice request) (fun _ facts => pre facts) pre := by
  refine guarded (fun world settled holds => ?_) (fun _ holds => holds) fun _ _ kept => by simp at kept
  simp only [run_bind, run_get]
  split
  next _ _ endpoint _ =>
    obtain ⟨logs, ran⟩ := Calls.createInvoice_unreachable_run (Calls.hostedClient world.config endpoint) request world
    simp only [run_bind, ran, run_failWith]
    exact ⟨⟨settled.inMemory, settled.clock, settled.headcount⟩, holds, nofun⟩
  · exact ⟨settled, holds, nofun⟩
  · exact ⟨⟨settled.inMemory, settled.clock, settled.headcount⟩, holds, fun _ _ => holds⟩

end Runs

end SeatBilling
