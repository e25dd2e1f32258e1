import SeatBilling.Proofs.Webhook.DeliverySteps

/-!
# Callback deliveries settle an invoice once

Deliveries of callbacks that name one invoice race: the calls of each delivery run in turn
with the calls of the others and with the store calls of any other caller (the stale sweep,
an owner's cancel, a checkout), in any order. A race is a list of moves, each the next call of
one delivery or one store call of another caller; the other callers store new records under
fresh identifiers. The lock a settlement takes is left out, so a race here may interleave more
than the code allows, which only makes the statements stronger.

`Racing` is what holds at every point of a race and `Racing.move` what one move keeps.
`deliveries_apply_once` reads off the rest: one delivery at most changes the records; the
invoice it moved stays as it left it, whoever writes after; every other delivery found the
invoice already processed or ended with an error; and the subscription is written once at
most, by a paid-type callback, as `paidEffect` computes it from the subscription stored right
before the write.
-/

namespace SeatBilling.Webhook

open Time Ledger Store DeliveryStage

/-! ## Races -/

/-- One move of a race: the next call of the delivery at `index`, or a store call of another
caller. -/
inductive Move where
  | deliver (index : Nat)
  | other (call : Write)

/-- The deliveries and the world after one move. -/
def Move.run (state : List DeliveryStage × World) : Move → List DeliveryStage × World
  | .deliver index =>
    match state.1[index]? with
    | some stage => (state.1.set index (stage.advance state.2).1, (stage.advance state.2).2)
    | none => state
  | .other call => (state.1, { state.2 with store := call.apply state.2.store })

/-- Deliveries of `payloads` racing from `start`, after the first `count` of `moves`. -/
def raceAt (payloads : List Payload) (start : World) (moves : List Move) (count : Nat) :
    List DeliveryStage × World :=
  (moves.take count).foldl Move.run (payloads.map arrived, start)

/-- Whether the delivery at `index` has moved its invoice out of `pending`. -/
def Committed (stages : List DeliveryStage) (index : Nat) : Prop :=
  ∃ stage, stages[index]? = some stage ∧ stage.committed = true

section Positions

variable {payloads : List Payload} {start : World} {moves : List Move} {count : Nat}

theorem raceAt_succ {move : Move} (at_ : moves[count]? = some move) :
    raceAt payloads start moves (count + 1) = move.run (raceAt payloads start moves count) := by
  unfold raceAt
  rw [List.take_add_one, at_, Option.toList_some, List.foldl_append, List.foldl_cons, List.foldl_nil]

theorem raceAt_succ_of_none (beyond : moves[count]? = none) :
    raceAt payloads start moves (count + 1) = raceAt payloads start moves count := by
  unfold raceAt
  rw [List.take_add_one, beyond, Option.toList_none, List.append_nil]

/-- A property of the race that every move keeps holds from the point where it holds on. -/
theorem raceAt_induction (holds : List DeliveryStage × World → Prop)
    (step : ∀ count move, moves[count]? = some move → holds (raceAt payloads start moves count) →
      holds (move.run (raceAt payloads start moves count)))
    {early : Nat} (first : holds (raceAt payloads start moves early)) :
    ∀ late, early ≤ late → holds (raceAt payloads start moves late) := by
  intro late
  induction late with
  | zero =>
    intro ordered
    rw [Nat.le_zero.mp ordered] at first
    exact first
  | succ late inductionHypothesis =>
    intro ordered
    rcases Nat.lt_or_eq_of_le ordered with before | same
    · have earlier := inductionHypothesis (Nat.le_of_lt_succ before)
      cases at_ : moves[late]? with
      | none =>
        rw [raceAt_succ_of_none at_]
        exact earlier
      | some move =>
        rw [raceAt_succ at_]
        exact step late move at_ earlier
    · rw [← same]
      exact first

end Positions

/-! ## What a change of the records keeps -/

section Keeping

variable {invoice : Invoice}

/-- What a change of the records from `before` to `after` keeps for deliveries of `invoice`:
the records stay keyed, the invoice's record takes one invoice step, and while the invoice
is pending every subscription read that `before` bears out is still borne out. -/
structure Keeps (invoice : Invoice) (before after : Store) : Prop where
  keyed : before.Keyed → after.Keyed
  steps : ∀ current, before.invoice? invoice.id = some current →
    ∃ next, after.invoice? invoice.id = some next ∧ InvoiceStep current next
  bearsOut : ∀ read, Open invoice.id after → NotBehind read before → NotBehind read after

theorem Keeps.refl (store : Store) : Keeps invoice store store :=
  ⟨fun keyed => keyed, fun current found => ⟨current, found, .refl current⟩, fun _ _ behind => behind⟩

/-- Another caller's store call, storing new records under fresh identifiers. -/
theorem Keeps.write {store : Store} {write : Write} (fresh : write.Fresh store) : Keeps invoice store (write.apply store) :=
  ⟨fun keyed => keyed.apply write, fun _ found => invoiceStep_apply fresh.invoice found,
    fun _ _ behind => behind.apply fresh⟩

/-- A delivery's change, which leaves the invoice out of `pending`. -/
theorem Keeps.closing {before after : Store} {write : Write} (written : after = write.apply before)
    (fresh : write.FreshInvoice before) (closed : ¬ Open invoice.id after) : Keeps invoice before after := by
  subst written
  exact ⟨fun keyed => keyed.apply write, fun _ found => invoiceStep_apply fresh found,
    fun _ opened => absurd opened closed⟩

/-- Events recorded: the subscriptions and the invoices stay as they were. -/
theorem Keeps.records {before after : Store} (subscriptions : after.subscriptions = before.subscriptions)
    (invoices : after.invoices = before.invoices) : Keeps invoice before after := by
  refine ⟨fun keyed => ⟨?_, ?_⟩, fun current found => ⟨current, ?_, .refl current⟩, fun read _ behind => ?_⟩
  · rw [subscriptions]
    exact keyed.subscriptions
  · rw [invoices]
    exact keyed.invoices
  · rw [invoice?_eq_of_invoices invoices]
    exact found
  · unfold NotBehind
    rw [subscription?_eq_of_subscriptions subscriptions]
    exact behind

theorem Keeps.tracks {before after : Store} (keeps : Keeps invoice before after) (tracks : Tracks invoice before) :
    Tracks invoice after := by
  obtain ⟨current, found, early⟩ := tracks
  obtain ⟨next, foundNext, late⟩ := keeps.steps current found
  exact ⟨next, foundNext, early.trans late⟩

/-- An invoice that has left `pending` does not come back to it. -/
theorem Keeps.reopens {before after : Store} (keeps : Keeps invoice before after) (tracks : Tracks invoice before)
    (opened : Open invoice.id after) : Open invoice.id before := by
  obtain ⟨current, found, -⟩ := tracks
  obtain ⟨next, foundNext, step⟩ := keeps.steps current found
  obtain ⟨stored, lookup, pending⟩ := opened
  rw [foundNext, Option.some.injEq] at lookup
  subst lookup
  cases stillPending : current.isPending with
  | true => exact ⟨current, found, stillPending⟩
  | false =>
    rw [Invoice.isPending_eq_of_settlement (step.closed stillPending), stillPending] at pending
    cases pending

/-- What a delivery knows is borne out by the records as long as they keep it. -/
theorem Fits.transfer {period : Span} {payload : Payload} {before after : Store} {stage : DeliveryStage}
    (fits : Fits invoice period payload before stage) (keeps : Keeps invoice before after)
    (reopens : Open invoice.id after → Open invoice.id before) : Fits invoice period payload after stage := by
  cases stage with
  | marking id loaded current write payment retries =>
    obtain ⟨same, paid, drawn, bearsOut⟩ := fits
    refine ⟨same, paid, drawn, fun opened => ?_⟩
    cases current with
    | none => trivial
    | some read =>
      obtain ⟨behind, company⟩ := bearsOut (reopens opened)
      exact ⟨keeps.bearsOut read opened behind, company⟩
  | _ => exact fits

end Keeping

/-! ## What holds along a race -/

/-- What holds at every point of a race of deliveries of `payloads`, whose callbacks name
`invoice`, from `start`: an honest world configured as at the start, keyed records holding a
later state of the invoice, a stage per callback that fits the records, and at most one
delivery past its change, after which the invoice is no longer pending. -/
structure Racing (invoice : Invoice) (payloads : List Payload) (start : World) (stages : List DeliveryStage)
    (world : World) : Prop where
  honest : Honest world
  config : world.config = start.config
  keyed : world.store.Keyed
  tracks : Tracks invoice world.store
  length : stages.length = payloads.length
  fits : ∀ (index : Nat) stage payload, stages[index]? = some stage → payloads[index]? = some payload →
    Fits invoice start.config.period payload world.store stage
  single : ∀ first second, Committed stages first → Committed stages second → first = second
  closed : ∀ index, Committed stages index → ¬ Open invoice.id world.store

/-- What one move of a race did, from `before` to `after`. -/
structure Moved (invoice : Invoice) (period : Span) (payloads : List Payload) (move : Move)
    (before after : List DeliveryStage × World) : Prop where
  keeps : Keeps invoice before.2.store after.2.store
  stays : ∀ index, Committed before.1 index → Committed after.1 index
  commits : ∀ index, Committed after.1 index → ¬ Committed before.1 index →
    move = .deliver index ∧ Open invoice.id before.2.store ∧ ¬ Open invoice.id after.2.store
  writes : ∀ index, move = .deliver index → after.2.store ≠ before.2.store → Committed after.1 index
  buys : ∀ index, move = .deliver index → after.2.store.subscriptions ≠ before.2.store.subscriptions →
    (∃ payload, payloads[index]? = some payload ∧ Event.parse payload.eventType = .paid) ∧
      SettledFrom invoice period before.2.store after.2.store ∧ Open invoice.id before.2.store ∧
      ¬ Open invoice.id after.2.store
  settles : ∀ index payload, move = .deliver index → payloads[index]? = some payload →
    Open invoice.id before.2.store → ¬ Open invoice.id after.2.store → Event.parse payload.eventType = .paid →
    SettledFrom invoice period before.2.store after.2.store

/-- The delivery at `index` changed by a move is the only one whose committed flag may change. -/
theorem committed_set {stages : List DeliveryStage} {index : Nat} {next : DeliveryStage} (inside : index < stages.length)
    (other : Nat) :
    Committed (stages.set index next) other ↔
      (other = index ∧ next.committed = true) ∨ (other ≠ index ∧ Committed stages other) := by
  by_cases same : other = index
  · subst same
    simp [Committed, List.getElem?_set_self inside]
  · simp only [Committed, List.getElem?_set_ne (Ne.symm same), same, false_and, ne_eq, not_false_eq_true,
      true_and, false_or]

/-- What an effect of a delivery's call amounts to. -/
theorem Effect.cases {invoice : Invoice} {period : Span} {payload : Payload} {before after : Store}
    {committed next : Bool} (effect : Effect invoice period payload before after committed next) :
    (after = before ∧ next = committed) ∨
      (committed = false ∧ next = true ∧ Open invoice.id before ∧ ¬ Open invoice.id after ∧
        (∃ write : Write, after = write.apply before ∧ write.FreshInvoice before) ∧
        (Event.parse payload.eventType = .paid → SettledFrom invoice period before after) ∧
        (Event.parse payload.eventType ≠ .paid → after.subscriptions = before.subscriptions)) ∨
      (committed = true ∧ next = true ∧ after.subscriptions = before.subscriptions ∧
        after.invoices = before.invoices) := by
  cases effect with
  | quiet _ same => exact .inl ⟨same, rfl⟩
  | commit opened closed written bought kept => exact .inr (.inl ⟨rfl, rfl, opened, closed, written, bought, kept⟩)
  | record subscriptions invoices => exact .inr (.inr ⟨rfl, rfl, subscriptions, invoices⟩)

theorem not_committed_arrived (payloads : List Payload) (index : Nat) : ¬ Committed (payloads.map arrived) index := by
  rintro ⟨stage, atIndex, committed⟩
  rw [List.getElem?_map] at atIndex
  obtain ⟨payload, -, rfl⟩ := Option.map_eq_some_iff.mp atIndex
  cases committed

namespace Racing

variable {invoice : Invoice} {payloads : List Payload} {start : World} {stages : List DeliveryStage} {world : World}

/-- Deliveries that have not begun start a race. -/
theorem opening (honest : Honest start) (keyed : start.store.Keyed) (found : start.store.invoice? invoice.id = some invoice) :
    Racing invoice payloads start (payloads.map arrived) start := by
  have noneCommitted := not_committed_arrived payloads
  refine ⟨honest, rfl, keyed, ⟨invoice, found, .refl invoice⟩, List.length_map _, ?_,
    fun first _ committed _ => absurd committed (noneCommitted first),
    fun index committed => absurd committed (noneCommitted index)⟩
  intro index stage payload atIndex atPayload
  rw [List.getElem?_map, atPayload, Option.map_some, Option.some.injEq] at atIndex
  subst atIndex
  rfl

/-- Another caller's store call keeps the race going. -/
theorem other (racing : Racing invoice payloads start stages world) {call : Write} (fresh : call.Fresh world.store) :
    Racing invoice payloads start (Move.run (stages, world) (.other call)).1 (Move.run (stages, world) (.other call)).2 ∧
      Moved invoice start.config.period payloads (.other call) (stages, world) (Move.run (stages, world) (.other call)) := by
  have keeps : Keeps invoice world.store (call.apply world.store) := Keeps.write fresh
  have reopens := keeps.reopens racing.tracks
  refine ⟨⟨⟨racing.honest.inMemory, racing.honest.faults⟩, racing.config, keeps.keyed racing.keyed,
    keeps.tracks racing.tracks, racing.length,
    fun index stage payload atIndex atPayload => (racing.fits index stage payload atIndex atPayload).transfer keeps reopens,
    racing.single, fun index committed opened => racing.closed index committed (reopens opened)⟩, ?_⟩
  refine ⟨keeps, fun _ committed => committed, fun _ committed notCommitted => absurd committed notCommitted,
    fun _ delivered => (nomatch delivered), fun _ delivered => (nomatch delivered),
    fun _ _ delivered => (nomatch delivered)⟩

/-- A move of a delivery that has ended or does not exist changes nothing. -/
theorem missing (racing : Racing invoice payloads start stages world) {index : Nat} (absent : stages[index]? = none) :
    Racing invoice payloads start (Move.run (stages, world) (.deliver index)).1
        (Move.run (stages, world) (.deliver index)).2 ∧
      Moved invoice start.config.period payloads (.deliver index) (stages, world)
        (Move.run (stages, world) (.deliver index)) := by
  have unchanged : Move.run (stages, world) (.deliver index) = (stages, world) := by
    simp only [Move.run, absent]
  rw [unchanged]
  exact ⟨racing, Keeps.refl _, fun _ committed => committed, fun _ committed notCommitted => absurd committed notCommitted,
    fun _ _ changed => absurd rfl changed, fun _ _ changed => absurd rfl changed,
    fun _ _ _ _ opened closed _ => absurd opened closed⟩

/-- The next call of a delivery keeps the race going. -/
theorem deliver (racing : Racing invoice payloads start stages world) {index : Nat} {stage : DeliveryStage}
    (atIndex : stages[index]? = some stage) (typed : ∀ payload ∈ payloads, Event.parse payload.eventType ≠ .other)
    (names : ∀ payload, payloads[index]? = some payload → Names payload invoice.id world.store) :
    Racing invoice payloads start (Move.run (stages, world) (.deliver index)).1
        (Move.run (stages, world) (.deliver index)).2 ∧
      Moved invoice start.config.period payloads (.deliver index) (stages, world)
        (Move.run (stages, world) (.deliver index)) := by
  have inside : index < stages.length := (List.getElem?_eq_some_iff.mp atIndex).1
  obtain ⟨payload, atPayload⟩ : ∃ payload, payloads[index]? = some payload :=
    ⟨_, List.getElem?_eq_getElem (racing.length ▸ inside)⟩
  have fitsHere : Fits invoice world.config.period payload world.store stage := by
    rw [racing.config]
    exact racing.fits index stage payload atIndex atPayload
  have stepped := advance_stepped racing.honest racing.keyed racing.tracks
    (typed payload (List.mem_of_getElem? atPayload)) (names payload atPayload) fitsHere
  have ran : Move.run (stages, world) (.deliver index) =
      (stages.set index (stage.advance world).1, (stage.advance world).2) := by
    simp only [Move.run, atIndex]
  rw [ran]
  obtain ⟨honestAfter, configAfter, fitsAfter, effect⟩ := stepped
  rw [racing.config] at fitsAfter effect
  generalize (stage.advance world).1 = next at fitsAfter effect ⊢
  generalize (stage.advance world).2 = later at honestAfter configAfter fitsAfter effect ⊢
  -- whatever the call did, the records keep what the other deliveries know
  have keeps : Keeps invoice world.store later.store := by
    rcases effect.cases with ⟨same, -⟩ | ⟨-, -, -, closed, ⟨write, written, fresh⟩, -⟩ | ⟨-, -, subscriptions, invoices⟩
    · rw [same]
      exact Keeps.refl _
    · exact Keeps.closing written fresh closed
    · exact Keeps.records subscriptions invoices
  have reopens := keeps.reopens racing.tracks
  have fitsAll : ∀ (other : Nat) stage payload, (stages.set index next)[other]? = some stage → payloads[other]? = some payload →
      Fits invoice start.config.period payload later.store stage := by
    intro other found payload' atOther atPayload'
    by_cases same : other = index
    · subst same
      rw [List.getElem?_set_self inside, Option.some.injEq] at atOther
      rw [atPayload, Option.some.injEq] at atPayload'
      subst atOther atPayload'
      exact fitsAfter
    · rw [List.getElem?_set_ne (Ne.symm same)] at atOther
      exact (racing.fits other found payload' atOther atPayload').transfer keeps reopens
  have wasCommitted : Committed stages index ↔ stage.committed = true := by
    simp [Committed, atIndex]
  rcases effect.cases with ⟨same, flag⟩ | ⟨-, nowIs, opened, closed, -, bought, kept⟩ | ⟨was, nowIs, subscriptions, invoices⟩
  · -- nothing written: the committed flags are as they were
    have sameCommitted : ∀ other, Committed (stages.set index next) other ↔ Committed stages other := by
      intro other
      rw [committed_set inside, flag]
      by_cases atSame : other = index
      · subst atSame
        simp [wasCommitted]
      · simp [atSame]
    refine ⟨⟨honestAfter, configAfter.trans racing.config, keeps.keyed racing.keyed, keeps.tracks racing.tracks,
      by rw [List.length_set]; exact racing.length, fitsAll,
      fun first second one two => racing.single first second ((sameCommitted first).mp one) ((sameCommitted second).mp two),
      fun other committed => by rw [same]; exact racing.closed other ((sameCommitted other).mp committed)⟩, ?_⟩
    refine ⟨keeps, fun other committed => (sameCommitted other).mpr committed,
      fun other committed notCommitted => absurd ((sameCommitted other).mp committed) notCommitted,
      fun _ _ changed => absurd same changed, fun _ _ changed => absurd (by rw [same]) changed,
      fun _ _ _ _ opened closed _ => absurd (by rw [same]; exact opened) closed⟩
  · -- the delivery's one change: no delivery had made one, and now this one has
    have noneBefore : ∀ other, ¬ Committed stages other := fun other committed => racing.closed other committed opened
    have onlyThis : ∀ other, Committed (stages.set index next) other → other = index := by
      intro other committed
      rcases (committed_set inside other).mp committed with ⟨atSame, -⟩ | ⟨-, before⟩
      · exact atSame
      · exact absurd before (noneBefore other)
    have thisOne : Committed (stages.set index next) index := (committed_set inside index).mpr (.inl ⟨rfl, nowIs⟩)
    refine ⟨⟨honestAfter, configAfter.trans racing.config, keeps.keyed racing.keyed, keeps.tracks racing.tracks,
      by rw [List.length_set]; exact racing.length, fitsAll,
      fun first second one two => (onlyThis first one).trans (onlyThis second two).symm,
      fun _ _ => closed⟩, ?_⟩
    refine ⟨keeps, fun other committed => absurd committed (noneBefore other), fun other committed _ => ?_,
      fun other delivered _ => ?_, fun other delivered changed => ?_, fun other payload' delivered atPayload' _ _ paid => ?_⟩
    · exact ⟨by rw [onlyThis other committed], opened, closed⟩
    · cases delivered
      exact thisOne
    · cases delivered
      by_cases paid : Event.parse payload.eventType = .paid
      · exact ⟨⟨payload, atPayload, paid⟩, bought paid, opened, closed⟩
      · exact absurd (kept paid) changed
    · cases delivered
      rw [atPayload, Option.some.injEq] at atPayload'
      subst atPayload'
      exact bought paid
  · -- events recorded after the change: the records of invoices and subscriptions stay
    have sameCommitted : ∀ other, Committed (stages.set index next) other ↔ Committed stages other := by
      intro other
      rw [committed_set inside, nowIs]
      by_cases atSame : other = index
      · subst atSame
        simp [wasCommitted, was]
      · simp [atSame]
    have sameOpen : Open invoice.id later.store ↔ Open invoice.id world.store := by
      unfold Open
      rw [invoice?_eq_of_invoices invoices]
    refine ⟨⟨honestAfter, configAfter.trans racing.config, keeps.keyed racing.keyed, keeps.tracks racing.tracks,
      by rw [List.length_set]; exact racing.length, fitsAll,
      fun first second one two => racing.single first second ((sameCommitted first).mp one) ((sameCommitted second).mp two),
      fun other committed opened => racing.closed other ((sameCommitted other).mp committed) (sameOpen.mp opened)⟩, ?_⟩
    refine ⟨keeps, fun other committed => (sameCommitted other).mpr committed,
      fun other committed notCommitted => absurd ((sameCommitted other).mp committed) notCommitted,
      fun other delivered _ => ?_, fun _ _ changed => absurd subscriptions changed,
      fun _ _ _ _ opened closed _ => absurd (sameOpen.mpr opened) closed⟩
    cases delivered
    exact (committed_set inside index).mpr (.inl ⟨rfl, nowIs⟩)

/-- Every move keeps the race going. -/
theorem move (racing : Racing invoice payloads start stages world) (move : Move)
    (typed : ∀ payload ∈ payloads, Event.parse payload.eventType ≠ .other)
    (names : ∀ index payload, move = .deliver index → payloads[index]? = some payload →
      Names payload invoice.id world.store)
    (fresh : ∀ call, move = .other call → call.Fresh world.store) :
    Racing invoice payloads start (Move.run (stages, world) move).1 (Move.run (stages, world) move).2 ∧
      Moved invoice start.config.period payloads move (stages, world) (Move.run (stages, world) move) := by
  cases move with
  | other call => exact racing.other (fresh call rfl)
  | deliver index =>
    cases atIndex : stages[index]? with
    | none => exact racing.missing atIndex
    | some stage => exact racing.deliver atIndex typed fun payload => names index payload rfl

end Racing

/-! ## Whole races -/

/-- A race of deliveries of `payloads` from `start` by `moves`: an honest start whose keyed
records hold `invoice`, callbacks of a type a delivery acts on, each naming `invoice` when its
delivery moves, and other callers storing new records under fresh identifiers. -/
structure Race (invoice : Invoice) (payloads : List Payload) (start : World) (moves : List Move) : Prop where
  honest : Honest start
  keyed : start.store.Keyed
  found : start.store.invoice? invoice.id = some invoice
  typed : ∀ payload ∈ payloads, Event.parse payload.eventType ≠ .other
  names : ∀ count index payload, moves[count]? = some (.deliver index) → payloads[index]? = some payload →
    Names payload invoice.id (raceAt payloads start moves count).2.store
  fresh : ∀ count (call : Write), moves[count]? = some (.other call) → call.Fresh (raceAt payloads start moves count).2.store

namespace Race

variable {invoice : Invoice} {payloads : List Payload} {start : World} {moves : List Move}
  (race : Race invoice payloads start moves)
include race

/-- One move of the race from a point where the invariant holds. -/
theorem step {count : Nat} {move : Move} (at_ : moves[count]? = some move)
    (racing : Racing invoice payloads start (raceAt payloads start moves count).1 (raceAt payloads start moves count).2) :
    Racing invoice payloads start (raceAt payloads start moves (count + 1)).1 (raceAt payloads start moves (count + 1)).2 ∧
      Moved invoice start.config.period payloads move (raceAt payloads start moves count)
        (raceAt payloads start moves (count + 1)) := by
  rw [raceAt_succ at_]
  exact racing.move move race.typed (fun index payload delivered => race.names count index payload (by rw [at_, delivered]))
    (fun call other => race.fresh count call (by rw [at_, other]))

/-- The invariant at every point of the race, by induction on the number of moves made. -/
theorem racing (count : Nat) :
    Racing invoice payloads start (raceAt payloads start moves count).1 (raceAt payloads start moves count).2 := by
  induction count with
  | zero => exact Racing.opening race.honest race.keyed race.found
  | succ count inductionHypothesis =>
    cases at_ : moves[count]? with
    | none =>
      rw [raceAt_succ_of_none at_]
      exact inductionHypothesis
    | some move => exact (race.step at_ inductionHypothesis).1

theorem moved {count : Nat} {move : Move} (at_ : moves[count]? = some move) :
    Moved invoice start.config.period payloads move (raceAt payloads start moves count)
      (raceAt payloads start moves (count + 1)) :=
  (race.step at_ (race.racing count)).2

/-- A delivery past its change stays so. -/
theorem committed_later {index early late : Nat} (committed : Committed (raceAt payloads start moves early).1 index)
    (ordered : early ≤ late) : Committed (raceAt payloads start moves late).1 index := by
  refine raceAt_induction (fun state => Committed state.1 index) (fun count move at_ earlier => ?_) committed late ordered
  rw [← raceAt_succ at_]
  exact (race.moved at_).stays index earlier

/-- Once out of `pending`, the invoice stays out, whoever moves. -/
theorem closed_later {early late : Nat} (closed : ¬ Open invoice.id (raceAt payloads start moves early).2.store)
    (ordered : early ≤ late) : ¬ Open invoice.id (raceAt payloads start moves late).2.store := by
  refine raceAt_induction (fun state => ¬ Open invoice.id state.2.store) (fun count move at_ earlier => ?_) closed late
    ordered
  rw [← raceAt_succ at_]
  exact fun opened => earlier ((race.moved at_).keeps.reopens (race.racing count).tracks opened)

/-- The invoice's record at a later point is an invoice step further. -/
theorem record_later {early late : Nat} {record : Invoice}
    (stored : (raceAt payloads start moves early).2.store.invoice? invoice.id = some record) (ordered : early ≤ late) :
    ∃ current, (raceAt payloads start moves late).2.store.invoice? invoice.id = some current ∧
      InvoiceStep record current := by
  refine raceAt_induction
    (fun state => ∃ current, state.2.store.invoice? invoice.id = some current ∧ InvoiceStep record current)
    (fun count move at_ earlier => ?_) ⟨record, stored, .refl record⟩ late ordered
  obtain ⟨current, lookup, early⟩ := earlier
  obtain ⟨next, lookupNext, late⟩ := (race.moved at_).keeps.steps current lookup
  rw [← raceAt_succ at_]
  exact ⟨next, lookupNext, early.trans late⟩

/-- A delivery none of whose moves changed the records has not moved its invoice: a move that
does so changes the records. -/
theorem never_committed {index : Nat}
    (quiet : ∀ count, moves[count]? = some (.deliver index) →
      (raceAt payloads start moves (count + 1)).2.store = (raceAt payloads start moves count).2.store) :
    ∀ count, ¬ Committed (raceAt payloads start moves count).1 index := by
  intro count
  induction count with
  | zero => exact not_committed_arrived payloads index
  | succ count inductionHypothesis =>
    intro committed
    cases at_ : moves[count]? with
    | none =>
      rw [raceAt_succ_of_none at_] at committed
      exact inductionHypothesis committed
    | some move =>
      obtain ⟨delivered, opened, closed⟩ := (race.moved at_).commits index committed inductionHypothesis
      subst delivered
      rw [quiet count at_] at closed
      exact closed opened

end Race

/-- How a race of deliveries of callbacks naming `invoice` goes, whatever the order of its
moves: one delivery at most changes the records, after which the invoice keeps how it ended;
every other delivery ends finding the invoice processed or with an error; and the
subscriptions are written once at most, by a paid-type callback, as `paidEffect` computes from
the subscription stored right before. -/
structure AppliesOnce (invoice : Invoice) (payloads : List Payload) (start : World) (moves : List Move) : Prop where
  oneWriter : ∀ first second firstAt secondAt, moves[firstAt]? = some (.deliver first) →
    (raceAt payloads start moves (firstAt + 1)).2.store ≠ (raceAt payloads start moves firstAt).2.store →
    moves[secondAt]? = some (.deliver second) →
    (raceAt payloads start moves (secondAt + 1)).2.store ≠ (raceAt payloads start moves secondAt).2.store →
    first = second
  settledForGood : ∀ index changedAt, moves[changedAt]? = some (.deliver index) →
    (raceAt payloads start moves (changedAt + 1)).2.store ≠ (raceAt payloads start moves changedAt).2.store →
    ∃ closed, (raceAt payloads start moves (changedAt + 1)).2.store.invoice? invoice.id = some closed ∧
      closed.isPending = false ∧
      ∀ later, changedAt < later → ∃ current,
        (raceAt payloads start moves later).2.store.invoice? invoice.id = some current ∧
        current.settlement = closed.settlement
  othersProcessed : ∀ index, (∀ count, moves[count]? = some (.deliver index) →
      (raceAt payloads start moves (count + 1)).2.store = (raceAt payloads start moves count).2.store) →
    ∀ count outcome settled, (raceAt payloads start moves count).1[index]? = some (finished outcome settled) →
      outcome = .ok (.alreadyProcessed invoice.id) ∨ ∃ halt, outcome = .error halt
  bought : ∀ index at_, moves[at_]? = some (.deliver index) →
    (raceAt payloads start moves (at_ + 1)).2.store.subscriptions ≠
      (raceAt payloads start moves at_).2.store.subscriptions →
    (∃ payload, payloads[index]? = some payload ∧ Event.parse payload.eventType = .paid) ∧
      SettledFrom invoice start.config.period (raceAt payloads start moves at_).2.store
        (raceAt payloads start moves (at_ + 1)).2.store
  boughtOnce : ∀ first second firstAt secondAt, moves[firstAt]? = some (.deliver first) →
    (raceAt payloads start moves (firstAt + 1)).2.store.subscriptions ≠
      (raceAt payloads start moves firstAt).2.store.subscriptions →
    moves[secondAt]? = some (.deliver second) →
    (raceAt payloads start moves (secondAt + 1)).2.store.subscriptions ≠
      (raceAt payloads start moves secondAt).2.store.subscriptions →
    firstAt = secondAt
  paidSettles : ∀ index at_ payload, moves[at_]? = some (.deliver index) → payloads[index]? = some payload →
    Event.parse payload.eventType = .paid → Open invoice.id (raceAt payloads start moves at_).2.store →
    ¬ Open invoice.id (raceAt payloads start moves (at_ + 1)).2.store →
    SettledFrom invoice start.config.period (raceAt payloads start moves at_).2.store
      (raceAt payloads start moves (at_ + 1)).2.store

theorem deliveries_apply_once {invoice : Invoice} {payloads : List Payload} {start : World} {moves : List Move}
    (honest : Honest start) (keyed : start.store.Keyed) (found : start.store.invoice? invoice.id = some invoice)
    (typed : ∀ payload ∈ payloads, Event.parse payload.eventType ≠ .other)
    (names : ∀ count index payload, moves[count]? = some (.deliver index) → payloads[index]? = some payload →
      Names payload invoice.id (raceAt payloads start moves count).2.store)
    (fresh : ∀ count (call : Write), moves[count]? = some (.other call) → call.Fresh (raceAt payloads start moves count).2.store) :
    AppliesOnce invoice payloads start moves := by
  have race : Race invoice payloads start moves := ⟨honest, keyed, found, typed, names, fresh⟩
  refine ⟨?oneWriter, ?settledForGood, ?othersProcessed, ?bought, ?boughtOnce, ?paidSettles⟩
  case oneWriter =>
    -- both deliveries are past their change at the later of the two points, and one is at most
    intro first second firstAt secondAt firstMove firstChanged secondMove secondChanged
    have one := race.committed_later ((race.moved firstMove).writes first rfl firstChanged)
      (Nat.le_max_left (firstAt + 1) (secondAt + 1))
    have two := race.committed_later ((race.moved secondMove).writes second rfl secondChanged)
      (Nat.le_max_right (firstAt + 1) (secondAt + 1))
    exact (race.racing _).single first second one two
  case settledForGood =>
    intro index changedAt delivered changed
    have racing := race.racing (changedAt + 1)
    have closedNow := racing.closed index ((race.moved delivered).writes index rfl changed)
    obtain ⟨closed, lookup, -⟩ := racing.tracks
    have notPending : closed.isPending = false := by
      cases pending : closed.isPending with
      | false => rfl
      | true => exact absurd ⟨closed, lookup, pending⟩ closedNow
    refine ⟨closed, lookup, notPending, fun later after => ?_⟩
    obtain ⟨current, lookupLater, step⟩ := race.record_later lookup after
    exact ⟨current, lookupLater, step.closed notPending⟩
  case othersProcessed =>
    intro index quiet count outcome settled atIndex
    have racing := race.racing count
    have inside : index < (raceAt payloads start moves count).1.length := (List.getElem?_eq_some_iff.mp atIndex).1
    obtain ⟨payload, atPayload⟩ : ∃ payload, payloads[index]? = some payload :=
      ⟨_, List.getElem?_eq_getElem (racing.length ▸ inside)⟩
    have unsettled : settled = false := by
      cases flag : settled with
      | false => rfl
      | true => exact absurd ⟨_, atIndex, flag⟩ (race.never_committed quiet count)
    exact racing.fits index _ payload atIndex atPayload unsettled
  case bought =>
    intro index at_ delivered changed
    obtain ⟨paid, settled, -, -⟩ := (race.moved delivered).buys index rfl changed
    exact ⟨paid, settled⟩
  case boughtOnce =>
    -- the invoice is pending right before each write and not right after, and stays so
    intro first second firstAt secondAt firstMove firstChanged secondMove secondChanged
    obtain ⟨-, -, firstOpened, firstClosed⟩ := (race.moved firstMove).buys first rfl firstChanged
    obtain ⟨-, -, secondOpened, secondClosed⟩ := (race.moved secondMove).buys second rfl secondChanged
    rcases Nat.lt_trichotomy firstAt secondAt with earlier | same | later
    · exact absurd secondOpened (race.closed_later firstClosed earlier)
    · exact same
    · exact absurd firstOpened (race.closed_later secondClosed later)
  case paidSettles =>
    intro index at_ payload delivered atPayload paid opened closed
    exact (race.moved delivered).settles index payload rfl atPayload opened closed paid

/-- A pending invoice the provider knows as "inv_1". -/
def linkedInvoice : Invoice :=
  { id := Uuid.ofSerial 7, company := Uuid.ofSerial 2, subscription := none, providerInvoiceId := some "inv_1",
    invoiceUrl := none, status := .pending, purpose := .checkout, plan := "basic", seats := 5, amount := 10000,
    paymentMethod := none, paymentChannel := none, createdAt := ⟨1767225600 * nanosPerSecond, 0⟩,
    expiresAt := none, paidAt := none }

/-- A world at the start of 2026 holding `linkedInvoice` alone, nothing armed to fail. -/
def linkedStart : World :=
  { config := Config.standard "test-callback-token", store := { Store.empty with invoices := [linkedInvoice] },
    backend := .memory, server := Database.Server.empty, headcount := [], provider := ⟨none, [], none⟩,
    faults := [], clock := ⟨1767225600 * nanosPerSecond, 0⟩, serial := 0, timeLeft := none, logs := [] }

def paidCallback : Payload := ⟨"inv_1", none, "paid", none, some "card", none⟩

def expiredCallback : Payload := ⟨"inv_1", none, "expired", none, none, none⟩

/-- The expiry callback looks the invoice up, the payment callback begins settling it, the expiry
closes it, the stale sweep runs, and the payment finds the invoice already processed. -/
def crossingCallbacks : List Move :=
  [.deliver 1, .deliver 0, .deliver 0, .deliver 1,
    .other (.updateExpiredToStatus [.trial, .active] linkedStart.clock .pastDue linkedStart.clock), .deliver 0]

theorem expiry_overtakes_payment :
    Honest linkedStart ∧ linkedStart.store.Keyed ∧ linkedStart.store.invoice? linkedInvoice.id = some linkedInvoice ∧
      (∀ payload ∈ [paidCallback, expiredCallback], Event.parse payload.eventType ≠ .other) ∧
      (∀ count index payload, crossingCallbacks[count]? = some (.deliver index) →
        [paidCallback, expiredCallback][index]? = some payload →
        Names payload linkedInvoice.id
          (raceAt [paidCallback, expiredCallback] linkedStart crossingCallbacks count).2.store) ∧
      (∀ count (call : Write), crossingCallbacks[count]? = some (.other call) →
        call.Fresh (raceAt [paidCallback, expiredCallback] linkedStart crossingCallbacks count).2.store) ∧
      AppliesOnce linkedInvoice [paidCallback, expiredCallback] linkedStart crossingCallbacks := by
  have honest : Honest linkedStart := ⟨rfl, fun _ absent => nomatch absent⟩
  have keyed : linkedStart.store.Keyed := ⟨by decide, by decide⟩
  have found : linkedStart.store.invoice? linkedInvoice.id = some linkedInvoice := by decide +kernel
  have typed : ∀ payload ∈ [paidCallback, expiredCallback], Event.parse payload.eventType ≠ .other := by
    decide +kernel
  -- both callbacks name the invoice by its provider id at every point of the run
  have names : ∀ count index payload, crossingCallbacks[count]? = some (.deliver index) →
      [paidCallback, expiredCallback][index]? = some payload →
      Names payload linkedInvoice.id
        (raceAt [paidCallback, expiredCallback] linkedStart crossingCallbacks count).2.store := by
    intro count index payload delivered atPayload
    unfold Names
    rcases count with _ | _ | _ | _ | _ | _ | count <;> cases delivered <;> cases atPayload <;> decide +kernel
  have fresh : ∀ count (call : Write), crossingCallbacks[count]? = some (.other call) →
      call.Fresh (raceAt [paidCallback, expiredCallback] linkedStart crossingCallbacks count).2.store := by
    intro count call other
    rcases count with _ | _ | _ | _ | _ | _ | count <;> cases other
    trivial
  exact ⟨honest, keyed, found, typed, names, fresh, deliveries_apply_once honest keyed found typed names fresh⟩

end SeatBilling.Webhook
