import SeatBilling.Proofs.Calls
import SeatBilling.Ledger.Operations

/-!
# What a checkout's validation reads

A checkout first validates its request: the plan, the company's subscription and its
headcount. Racing checkouts change only invoices, events, the identifier counter and the
provider's requests, so the validation gives the same answer wherever it runs among them.
`ReadsLedger` says this of an action, and is built up from its calls; `Yields` says what every
value an action gives satisfies, which only its last step decides.
-/

namespace SeatBilling

open SeatBilling.Time

/-- `world` with the records that creating invoices writes replaced. -/
def World.withInvoicing (world : World) (invoices : List Invoice) (events : List Event) (serial : Nat)
    (requests : List ProviderRequest) : World :=
  { world with
    store := { world.store with invoices := invoices, events := events }
    serial := serial
    provider := { world.provider with requests := requests } }

/-- The world with the records that creating invoices writes cleared: what racing checkouts
leave as it was. -/
def World.ledger (world : World) : World := world.withInvoicing [] [] 0 []

theorem World.withInvoicing_ledger (world : World) :
    world.ledger.withInvoicing world.store.invoices world.store.events world.serial world.provider.requests =
      world := rfl

theorem Steady.withInvoicing {world : World} (steady : Steady world) (invoices : List Invoice)
    (events : List Event) (serial : Nat) (requests : List ProviderRequest) :
    Steady (world.withInvoicing invoices events serial requests) :=
  ⟨steady.noFaults, steady.inMemory⟩

/-! ## Validation reads the ledger only -/

/-- In a steady world the action changes nothing, and what it gives does not depend on the
invoices, the events, the serial or the provider's requests. -/
def ReadsLedger {α : Type} (action : BillingM α) : Prop :=
  ∀ (world : World), Steady world → (action.run.run world).2 = world ∧
    ∀ invoices events serial requests,
      action.run.run (world.withInvoicing invoices events serial requests) =
        ((action.run.run world).1, world.withInvoicing invoices events serial requests)

/-- Every value the action gives satisfies `holds`. -/
def Yields {α : Type} (holds : α → Prop) (action : BillingM α) : Prop :=
  ∀ world value after, action.run.run world = (.ok value, after) → holds value

namespace ReadsLedger

variable {α β : Type}

theorem pure (value : α) : ReadsLedger (pure value : BillingM α) :=
  fun _ _ => ⟨rfl, fun _ _ _ _ => rfl⟩

theorem failWith (failure : Failure) : ReadsLedger (failWith failure : BillingM α) :=
  fun _ _ => ⟨rfl, fun _ _ _ _ => rfl⟩

theorem orOverflow (value : Option α) : ReadsLedger (orOverflow value) := by
  intro world _
  cases value <;> exact ⟨rfl, fun _ _ _ _ => rfl⟩

theorem bind {action : BillingM α} {next : α → BillingM β} (first : ReadsLedger action)
    (rest : ∀ value, ReadsLedger (next value)) : ReadsLedger (action >>= next) := by
  intro world steady
  obtain ⟨unchanged, moved⟩ := first world steady
  refine ⟨?_, fun invoices events serial requests => ?_⟩
  · rw [run_bind]
    rcases outcome : action.run.run world with ⟨_ | value, after⟩
    · rw [outcome] at unchanged
      exact unchanged
    · rw [outcome] at unchanged
      subst unchanged
      exact ((rest value) _ steady).1
  · rw [run_bind, run_bind, moved]
    rcases outcome : action.run.run world with ⟨_ | value, after⟩
    · rfl
    · rw [outcome] at unchanged
      subst unchanged
      exact ((rest value) _ steady).2 invoices events serial requests

/-- A collaborator call that reads the store through a view blind to invoices and events. -/
theorem guardedRead (call : Call) (onMissing : Option α) (view : Store → α) (onDatabase : SqlStore.StoreM α)
    (blind : ∀ (store : Store) invoices events,
      view { store with invoices := invoices, events := events } = view store) :
    ReadsLedger (guarded call none none onMissing (Calls.backed (Calls.readStore view) onDatabase)) := by
  intro world steady
  refine ⟨?_, fun invoices events serial requests => ?_⟩
  · rw [Calls.guarded_run steady.noFaults, Calls.backed_run steady.inMemory, Calls.readStore_run]
  · have touched := steady.withInvoicing invoices events serial requests
    rw [Calls.guarded_run touched.noFaults, Calls.backed_run touched.inMemory, Calls.readStore_run,
      Calls.guarded_run steady.noFaults, Calls.backed_run steady.inMemory, Calls.readStore_run]
    simp only [World.withInvoicing, blind]

theorem countActive (company : Uuid) : ReadsLedger (Calls.countActive company) := by
  intro world steady
  refine ⟨?_, fun invoices events serial requests => ?_⟩
  · rw [Calls.countActive, Calls.guarded_run steady.noFaults, Calls.backed_run steady.inMemory]
    rfl
  · have touched := steady.withInvoicing invoices events serial requests
    rw [Calls.countActive, Calls.guarded_run touched.noFaults, Calls.backed_run touched.inMemory,
      Calls.guarded_run steady.noFaults, Calls.backed_run steady.inMemory]
    rfl

end ReadsLedger

namespace Yields

variable {α β : Type} {holds : α → Prop}

theorem pure {value : α} (holding : holds value) : Yields holds (pure value : BillingM α) := by
  intro world given after ran
  cases ran
  exact holding

/-- Only the last step decides what a sequence gives. -/
theorem bind {action : BillingM β} {next : β → BillingM α} (rest : ∀ value, Yields holds (next value)) :
    Yields holds (action >>= next) := by
  intro world given after ran
  rw [run_bind] at ran
  rcases outcome : action.run.run world with ⟨_ | value, middle⟩ <;> rw [outcome] at ran
  · cases ran
  · exact rest value middle given after ran

end Yields

namespace Ledger

theorem readsLedger_getPlan (id : String) : ReadsLedger (Calls.getPlan id) :=
  ReadsLedger.guardedRead _ _ _ _ fun _ _ _ => rfl

theorem readsLedger_getSubscriptionByCompany (company : Uuid) :
    ReadsLedger (Calls.getSubscriptionByCompany company) :=
  ReadsLedger.guardedRead _ _ _ _ fun _ _ _ => rfl

/-- A checkout's validation, which reads the plan, the subscription and the headcount. -/
theorem readsLedger_checkoutRequest (company : Uuid) (planId : String) (seats : Option Int) :
    ReadsLedger (checkoutRequest company planId seats) := by
  unfold checkoutRequest requirePositiveSeats subscriptionOf priceOf Catalog.getPurchasablePlan
    Catalog.getPlan
  dsimp only
  -- each step is a read blind to invoices, a failure, or a branch on what was read
  repeat' first
    | with_reducible exact readsLedger_getPlan _
    | with_reducible exact readsLedger_getSubscriptionByCompany _
    | with_reducible exact ReadsLedger.countActive _
    | with_reducible exact ReadsLedger.pure _
    | with_reducible exact ReadsLedger.failWith _
    | with_reducible exact ReadsLedger.orOverflow _
    | with_reducible refine ReadsLedger.bind ?_ fun _ => ?_
    | split

/-- A checkout's request is for the company that asked. -/
theorem checkoutRequest_company {company : Uuid} {planId : String} {seats : Option Int}
    {world after : World} {request : InvoiceRequest}
    (validated : (checkoutRequest company planId seats).run.run world = (.ok request, after)) :
    request.company = company := by
  have yields : Yields (fun request : InvoiceRequest => request.company = company)
      (checkoutRequest company planId seats) := by
    unfold checkoutRequest requirePositiveSeats
    dsimp only
    repeat' first
      | with_reducible refine Yields.bind fun _ => ?_
      | split
      | exact Yields.pure rfl
  exact yields world request after validated

end Ledger

end SeatBilling
