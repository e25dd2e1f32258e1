import SeatBilling.Proofs.Calls
import SeatBilling.Ledger.Operations

/-!
# Checkouts split at their calls

A checkout validates its request and then creates the invoice in five phases, each one call
to a collaborator. `CheckoutStage` is how far one checkout has got and
`CheckoutStage.advance` runs its next phase; six advances of a checkout are exactly a run of
`Ledger.checkout`. Checkouts of one company that run at once may interleave at every call:
`interleave` runs a pool of them in the order a schedule of turns gives, and every checkout
finishes within six of its turns, whatever the others do.
-/

namespace SeatBilling.Ledger

open SeatBilling.Time

/-! ## Checkouts split at their calls -/

/-- How far one checkout has got: each stage but the last names the phase it runs next. -/
inductive CheckoutStage where
  | validating (company : Uuid) (planId : String) (seats : Option Int)
  | checking (request : InvoiceRequest)
  | storing (request : InvoiceRequest)
  | billing (invoice : Invoice) (description : String)
  | linking (invoice : Invoice) (created : ProviderInvoice)
  | announcing (invoice : Invoice)
  | finished (outcome : Except Halt Invoice)

namespace CheckoutStage

/-- Runs one phase: what it gives leads to the next stage, and a halt ends the checkout. -/
def after {β : Type} (phase : BillingM β) (next : β → CheckoutStage) (world : World) :
    CheckoutStage × World :=
  match phase.run.run world with
  | (.ok value, later) => (next value, later)
  | (.error halt, later) => (.finished (.error halt), later)

/-- Runs the next phase of a checkout. -/
def advance (world : World) : CheckoutStage → CheckoutStage × World
  | validating company planId seats => after (checkoutRequest company planId seats) checking world
  | checking request => after (Invoicing.refuseSecondPending request.company) (fun _ => storing request) world
  | storing request =>
    after (Invoicing.storePending request) (fun invoice => billing invoice request.description) world
  | billing invoice description => after (Invoicing.bill invoice description) (linking invoice) world
  | linking invoice created => after (Invoicing.link invoice created) announcing world
  | announcing invoice => after (Invoicing.announce invoice) (fun _ => finished (.ok invoice)) world
  | finished outcome => (finished outcome, world)

/-- Runs the next `count` phases of a checkout. -/
def advanceTimes : Nat → CheckoutStage → World → CheckoutStage × World
  | 0, stage, world => (stage, world)
  | count + 1, stage, world => advanceTimes count (stage.advance world).1 (stage.advance world).2

/-- The finished stage and the world a whole run of an action leaves. -/
def outcomeOf (action : BillingM Invoice) (world : World) : CheckoutStage × World :=
  (finished (action.run.run world).1, (action.run.run world).2)

theorem advanceTimes_finished (count : Nat) (outcome : Except Halt Invoice) (world : World) :
    advanceTimes count (finished outcome) world = (finished outcome, world) := by
  induction count with
  | zero => rfl
  | succ count inductionHypothesis => exact inductionHypothesis

/-- A phase followed by the stages that run `rest` is the phase followed by `rest`. -/
theorem advanceTimes_after {β : Type} {stage : CheckoutStage} {phase : BillingM β}
    {next : β → CheckoutStage} {rest : β → BillingM Invoice} {count : Nat} {world : World}
    (steps : stage.advance world = after phase next world)
    (later : ∀ value world, advanceTimes count (next value) world = outcomeOf (rest value) world) :
    advanceTimes (count + 1) stage world = outcomeOf (phase >>= rest) world := by
  simp only [advanceTimes, steps, after, outcomeOf, run_bind]
  rcases phase.run.run world with ⟨_ | value, middle⟩
  · exact advanceTimes_finished count _ middle
  · exact later value middle

/-- Six phases make one checkout: running the stages of a checkout one after another is
running `Ledger.checkout`. -/
theorem advanceTimes_checkout (company : Uuid) (planId : String) (seats : Option Int) (world : World) :
    advanceTimes 6 (validating company planId seats) world = outcomeOf (checkout company planId seats) world := by
  unfold checkout Invoicing.create
  refine advanceTimes_after rfl fun request _ => ?_
  refine advanceTimes_after rfl fun _ _ => ?_
  refine advanceTimes_after rfl fun invoice _ => ?_
  refine advanceTimes_after rfl fun created _ => ?_
  refine advanceTimes_after rfl fun linked _ => ?_
  refine advanceTimes_after rfl fun _ _ => ?_
  rfl

end CheckoutStage

/-- Checkouts running side by side: each turn runs the next phase of the checkout it names,
and a turn that names none does nothing. -/
def interleave : List CheckoutStage → World → List Nat → List CheckoutStage × World
  | stages, world, [] => (stages, world)
  | stages, world, turn :: turns =>
    match stages[turn]? with
    | none => interleave stages world turns
    | some stage => interleave (stages.set turn (stage.advance world).1) (stage.advance world).2 turns

/-- Checkouts by `company` of the given plans and seat counts, none begun. -/
def opening (company : Uuid) (checkouts : List (String × Option Int)) : List CheckoutStage :=
  checkouts.map fun checkout => .validating company checkout.1 checkout.2

namespace CheckoutStage

/-- The invoice a checkout has stored, from the moment it stored it. -/
def held : CheckoutStage → Option Invoice
  | billing invoice _ => some invoice
  | linking invoice _ => some invoice
  | announcing invoice => some invoice
  | finished (.ok invoice) => some invoice
  | _ => none

/-- Whether a checkout has stored an invoice. -/
def holds (stage : CheckoutStage) : Bool := stage.held.isSome

/-- Whether a checkout ended with a halt. -/
def halted : CheckoutStage → Bool
  | finished (.error _) => true
  | _ => false

/-- Whether a checkout returned an invoice. -/
def returned : CheckoutStage → Bool
  | finished (.ok _) => true
  | _ => false

/-- Whether a checkout has ended. -/
def isFinished : CheckoutStage → Bool
  | finished _ => true
  | _ => false

end CheckoutStage

open CheckoutStage

theorem interleave_length (stages : List CheckoutStage) (world : World) (turns : List Nat) :
    (interleave stages world turns).1.length = stages.length := by
  induction turns generalizing stages world with
  | nil => rfl
  | cons turn turns inductionHypothesis =>
    cases found : stages[turn]? with
    | none =>
      simp only [interleave, found]
      exact inductionHypothesis stages world
    | some stage =>
      simp only [interleave, found]
      rw [inductionHypothesis, List.length_set]

/-! ## Every checkout finishes -/

namespace CheckoutStage

/-- The phases a checkout has left to run. -/
def phasesLeft : CheckoutStage → Nat
  | validating _ _ _ => 6
  | checking _ => 5
  | storing _ => 4
  | billing _ _ => 3
  | linking _ _ => 2
  | announcing _ => 1
  | finished _ => 0

theorem phasesLeft_after {β : Type} (phase : BillingM β) (next : β → CheckoutStage) (world : World)
    {bound : Nat} (nextBound : ∀ value, (next value).phasesLeft ≤ bound) :
    (after phase next world).1.phasesLeft ≤ bound := by
  unfold after
  split
  · exact nextBound _
  · exact Nat.zero_le _

/-- Each phase brings a checkout one phase nearer its end, or ends it. -/
theorem phasesLeft_advance (world : World) (stage : CheckoutStage) :
    (stage.advance world).1.phasesLeft ≤ stage.phasesLeft - 1 := by
  cases stage with
  | finished outcome => exact Nat.zero_le _
  | validating company planId seats => exact phasesLeft_after _ _ _ fun _ => Nat.le_refl _
  | checking request => exact phasesLeft_after _ _ _ fun _ => Nat.le_refl _
  | storing request => exact phasesLeft_after _ _ _ fun _ => Nat.le_refl _
  | billing invoice description => exact phasesLeft_after _ _ _ fun _ => Nat.le_refl _
  | linking invoice created => exact phasesLeft_after _ _ _ fun _ => Nat.le_refl _
  | announcing invoice => exact phasesLeft_after _ _ _ fun _ => Nat.le_refl _

theorem phasesLeft_le_six (stage : CheckoutStage) : stage.phasesLeft ≤ 6 := by
  cases stage <;> simp only [phasesLeft] <;> omega

theorem isFinished_of_phasesLeft {stage : CheckoutStage} (none : stage.phasesLeft = 0) :
    stage.isFinished = true := by
  cases stage <;> first | rfl | cases none

end CheckoutStage

/-- The phases left to the checkout at `index`, none if there is none there. -/
def phasesLeftAt (stages : List CheckoutStage) (index : Nat) : Nat :=
  (stages[index]?.map phasesLeft).getD 0

/-- Each turn a checkout gets brings it a phase nearer its end. -/
theorem phasesLeftAt_interleave (stages : List CheckoutStage) (world : World) (turns : List Nat)
    (index : Nat) :
    phasesLeftAt (interleave stages world turns).1 index ≤ phasesLeftAt stages index - turns.count index := by
  induction turns generalizing stages world with
  | nil => exact Nat.le_refl _
  | cons turn turns inductionHypothesis =>
    rw [List.count_cons]
    cases found : stages[turn]? with
    | none =>
      simp only [interleave, found]
      have later := inductionHypothesis stages world
      by_cases same : turn = index
      · -- a turn that names no checkout at `index`: nothing is left there
        subst same
        simp only [phasesLeftAt, found, Option.map_none, Option.getD_none] at later ⊢
        omega
      · simp only [beq_iff_eq, same, if_false]
        omega
    | some stage =>
      simp only [interleave, found]
      have later := inductionHypothesis (stages.set turn (stage.advance world).1) (stage.advance world).2
      have bound := (List.getElem?_eq_some_iff.mp found).1
      by_cases same : turn = index
      · subst same
        have stepped := phasesLeft_advance world stage
        simp only [phasesLeftAt, List.getElem?_set, if_true, bound, found, Option.map_some,
          Option.getD_some] at later ⊢
        simp only [beq_self_eq_true, if_true]
        omega
      · simp only [phasesLeftAt, List.getElem?_set, same, if_false] at later
        simp only [beq_iff_eq, same, if_false]
        exact later

/-- A schedule that gives every checkout six turns finishes them all. -/
theorem interleave_finished (stages : List CheckoutStage) (world : World) (turns : List Nat)
    (enough : ∀ index < stages.length, 6 ≤ turns.count index) :
    ∀ stage ∈ (interleave stages world turns).1, stage.isFinished = true := by
  intro stage member
  obtain ⟨index, found⟩ := List.mem_iff_getElem?.mp member
  have bound : index < stages.length := by
    rw [← interleave_length stages world turns]
    exact (List.getElem?_eq_some_iff.mp found).1
  obtain ⟨first, opened⟩ : ∃ first, stages[index]? = some first :=
    ⟨_, List.getElem?_eq_getElem bound⟩
  have left := phasesLeftAt_interleave stages world turns index
  simp only [phasesLeftAt, found, opened, Option.map_some, Option.getD_some] at left
  have atMostSix := phasesLeft_le_six first
  have turnsGiven := enough index bound
  exact isFinished_of_phasesLeft (by omega)

end SeatBilling.Ledger
