import SeatBilling.Proofs.Ledger.OperationWrites
import SeatBilling.Proofs.Ledger.PaidTime

/-!
# Changes the event log never records

The event log is meant to hold a row for every change of a subscription or an invoice. Two
kinds of change never get one. The expiry pass moves lapsed subscriptions past due or to
expired with three bulk writes and records no event, whatever it moves
(`Ledger.expireLapsed_events`). An invoice creation that fails records no event either
(`Invoicing.create_events_of_failed`), though when it fails because the provider refused, it
leaves its new invoice behind, cancelled.
-/

namespace SeatBilling

open SeatBilling.Time

/-- A store call that appends no event. -/
def Store.Write.Unlogged : Store.Write → Prop
  | .appendEvent _ => False
  | _ => True

namespace Store.Write

variable {store : Store}

/-- A call that appends no event leaves the event log as it was. -/
theorem events_apply_of_unlogged {write : Write} (unlogged : write.Unlogged) : (write.apply store).events = store.events := by
  cases write with
  | insertSubscription subscription =>
    rcases apply_insertSubscription store subscription with same | changed
    · rw [same]
    · rw [changed]
  | updateSubscription subscription version =>
    rcases apply_updateSubscription store subscription version with same | ⟨-, changed⟩
    · rw [same]
    · rw [changed]
  | updateExpiredToStatus statuses cutoff target at_ =>
    rcases apply_updateExpiredToStatus store statuses cutoff target at_ with same | changed
    · rw [same]
    · rw [changed]
  | insertInvoice invoice =>
    rcases apply_insertInvoice store invoice with same | ⟨-, changed⟩
    · rw [same]
    · rw [changed]
  | attachProviderInvoice id providerId url expiresAt =>
    rcases apply_attachProviderInvoice store id providerId url expiresAt with same | changed
    · rw [same]
    · rw [changed]
  | transitionInvoice id target payment =>
    rcases apply_transitionInvoice store id target payment with same | ⟨_, _, -, -, -, changed⟩
    · rw [same]
    · rw [changed]
  | settleInvoice id payment subscriptionWrite =>
    rcases apply_settleInvoice store id payment subscriptionWrite with same | ⟨_, _, -, -, -, changed⟩
    · rw [same]
    · rw [changed]
  | appendEvent => exact unlogged.elim

end Store.Write

/-- Calls that append no event leave the event log as it was. -/
theorem Facts.Reaches.events_of_unlogged {start facts : Facts}
    (reached : start.Reaches (fun _ write => write.Unlogged) facts) : facts.store.events = start.store.events := by
  obtain ⟨writes, made, reachedStore⟩ := reached.made
  rw [reachedStore]
  exact made.induction (fun store => store.events = start.store.events)
    (fun _ _ unlogged _ same => (Store.Write.events_apply_of_unlogged unlogged).trans same) rfl

/-- The expiry pass records no event, whatever it moves and whatever fault it meets. -/
theorem Ledger.expireLapsed_events (world : World) (inMemory : world.backend = .memory) :
    (Ledger.expireLapsed.run.run world).2.store.events = world.store.events := by
  -- its only writes are the three bulk moves
  have runs : Runs world.clock world.headcount (world.facts.Reaches fun _ write => write.Unlogged) Ledger.expireLapsed
      (fun _ => world.facts.Reaches fun _ write => write.Unlogged) (world.facts.Reaches fun _ write => write.Unlogged) :=
    Ledger.expireLapsed_reaching fun _ _ made => by cases made; trivial
  exact (runs world ⟨inMemory, rfl, rfl⟩ (.refl _)).2.1.events_of_unlogged

/-- A failed invoice creation records no event, even when it leaves its new invoice cancelled. -/
theorem Invoicing.create_events_of_failed {world : World} {request : InvoiceRequest} {failure : Failure}
    (spares : Spares [.transitionInvoice, .attachProviderInvoice, .countPendingInvoices] world)
    (fresh : world.facts.FreshNext) (failed : ((Invoicing.create request).run.run world).1 = .error (.failed failure)) :
    ((Invoicing.create request).run.run world).2.store.events = world.store.events := by
  obtain ⟨-, -, ended⟩ := Invoicing.create_failsAside (by simp) (by simp) (by simp) request world.store world spares
    ⟨rfl, fresh⟩
  -- the store is left as it was, or with one cancelled invoice more
  rcases ended failure failed with same | ⟨_, -, -, -, aside⟩
  · exact congrArg Store.events same
  · exact (congrArg Store.events aside).trans rfl

/-- The expiry pass and a failed invoice creation change records with no event to show for it. -/
theorem expiry_and_failed_invoices_go_unlogged (world : World) :
    (world.backend = .memory → (Ledger.expireLapsed.run.run world).2.store.events = world.store.events) ∧
    ∀ (request : InvoiceRequest) (failure : Failure),
      Spares [.transitionInvoice, .attachProviderInvoice, .countPendingInvoices] world → world.facts.FreshNext →
      ((Invoicing.create request).run.run world).1 = .error (.failed failure) →
      ((Invoicing.create request).run.run world).2.store.events = world.store.events :=
  ⟨Ledger.expireLapsed_events world, fun _ _ spares fresh failed => Invoicing.create_events_of_failed spares fresh failed⟩

/-- The January world on the first of February, a day after its period ended. -/
def lapsedJanuaryWorld : World :=
  { januaryWorld with clock := ⟨(1767225600 + 31 * 86400) * nanosPerSecond, 0⟩ }

/-- On the first of February the expiry pass moves the January subscription past due, and a
checkout the provider refuses leaves its invoice cancelled; the event log stays empty in both. -/
theorem lapsed_subscription_and_refused_invoice_go_unlogged :
    lapsedJanuaryWorld.store.subscriptions.map (·.status) = [.active] ∧
      (Ledger.expireLapsed.run.run lapsedJanuaryWorld).2.store.subscriptions.map (·.status) = [.pastDue] ∧
      (Ledger.expireLapsed.run.run lapsedJanuaryWorld).2.store.events = [] ∧
      ((Ledger.checkout Ledger.exampleCompany "basic" none).run.run refusingStart).2.store.invoices.map (·.status) =
        [.cancelled] ∧
      ((Ledger.checkout Ledger.exampleCompany "basic" none).run.run refusingStart).2.store.events = [] :=
  ⟨rfl, rfl, rfl, rfl, rfl⟩

end SeatBilling
