import SeatBilling.Store.Basic

/-!
# The store as a transition system

Each call of the billing core that writes the store holds the store's lock from start to end,
so it is one atomic step, and however concurrent callers interleave their calls, the store
goes through a sequence of such steps. `Store.Write` is one such call with its arguments,
`Write.apply` the store it leaves (the store as it was when the call is refused or fails),
and `Store.replay` a sequence of calls.

Every write keeps the records keyed: no two subscriptions and no two invoices share an
identifier (`Store.Keyed`), since a write under a stored identifier replaces that record.
New records get fresh random identifiers: `FreshRun` says of a sequence of calls that each
record it creates is stored under an identifier the store does not hold yet.
-/

namespace SeatBilling.Store

open SeatBilling.Time

/-- A call of the billing core that writes the store, with its arguments. -/
inductive Write where
  | insertSubscription (subscription : Subscription)
  | updateSubscription (subscription : Subscription) (expectedVersion : Int)
  | updateExpiredToStatus (statuses : List SubscriptionStatus) (cutoff : Moment)
      (target : SubscriptionStatus) (now : Moment)
  | insertInvoice (invoice : Invoice)
  | attachProviderInvoice (id : Uuid) (providerId url : String) (expiresAt : Option Moment)
  | transitionInvoice (id : Uuid) (target : InvoiceStatus) (payment : Option Payment)
  | settleInvoice (id : Uuid) (payment : Payment) (write : SubscriptionWrite)
  | appendEvent (event : Event)

/-- The store a step leaves: the one it wrote, or `store` itself when the step failed. -/
def afterStep {ε β : Type} (store : Store) : Except ε (β × Store) → Store
  | .ok (_, written) => written
  | .error _ => store

namespace Write

/-- The store a call leaves behind. -/
def apply (store : Store) : Write → Store
  | .insertSubscription subscription =>
    store.afterStep ((store.insertSubscription subscription).map ((), ·))
  | .updateSubscription subscription version =>
    store.afterStep (store.updateSubscription subscription version)
  | .updateExpiredToStatus statuses cutoff target now =>
    store.afterStep (store.updateExpiredToStatus statuses cutoff target now)
  | .insertInvoice invoice => store.afterStep ((store.insertInvoice invoice).map ((), ·))
  | .attachProviderInvoice id providerId url expiresAt =>
    store.afterStep ((store.attachProviderInvoice id providerId url expiresAt).map ((), ·))
  | .transitionInvoice id target payment => store.afterStep (store.transitionInvoice id target payment)
  | .settleInvoice id payment write => store.afterStep (store.settleInvoice id payment write)
  | .appendEvent event => store.appendEvent event

/-- The identifier a call stores a new record under is not held by the store yet. -/
def Fresh (store : Store) : Write → Prop
  | .insertSubscription subscription => store.subscription? subscription.id = none
  | .insertInvoice invoice => store.invoice? invoice.id = none
  | .settleInvoice _ _ (.insert subscription) => store.subscription? subscription.id = none
  | _ => True

/-- The identifier a call stores a new invoice under is not held by the store yet. -/
def FreshInvoice (store : Store) : Write → Prop
  | .insertInvoice invoice => store.invoice? invoice.id = none
  | _ => True

theorem Fresh.invoice {store : Store} {write : Write} (fresh : write.Fresh store) : write.FreshInvoice store := by
  cases write <;> first | exact fresh | trivial

end Write

/-- The store after a sequence of calls. -/
def replay (store : Store) (writes : List Write) : Store := writes.foldl Write.apply store

/-- Each call of a sequence that creates a record stores it under a fresh identifier. -/
def FreshRun : Store → List Write → Prop
  | _, [] => True
  | store, write :: writes => write.Fresh store ∧ FreshRun (write.apply store) writes

section Replay

variable {store : Store} {write : Write} {writes first second : List Write}

@[simp] theorem replay_nil : store.replay [] = store := rfl

@[simp] theorem replay_cons : store.replay (write :: writes) = (write.apply store).replay writes := rfl

theorem replay_append : store.replay (first ++ second) = (store.replay first).replay second :=
  List.foldl_append

theorem freshRun_append :
    FreshRun store (first ++ second) ↔ FreshRun store first ∧ FreshRun (store.replay first) second := by
  induction first generalizing store with
  | nil => simp [FreshRun]
  | cons write first inductionHypothesis =>
    simp only [List.cons_append, FreshRun, replay_cons, inductionHypothesis, and_assoc]

/-- A property that every call keeps holds after every sequence of calls. -/
theorem replay_induction (keeps : Store → Prop)
    (step : ∀ (before : Store) (call : Write), keeps before → keeps (call.apply before))
    (start : keeps store) : keeps (store.replay writes) := by
  induction writes generalizing store with
  | nil => exact start
  | cons write writes inductionHypothesis => exact inductionHypothesis (step store write start)

theorem FreshRun.take (fresh : FreshRun store writes) (count : Nat) : FreshRun store (writes.take count) := by
  rw [← List.take_append_drop count writes] at fresh
  exact (freshRun_append.mp fresh).1

/-- The calls between two points of a run lead from the store at the first point to the store
at the second, and they create records under fresh identifiers if the whole run does. -/
theorem FreshRun.segment (fresh : FreshRun store writes) {early late : Nat} (ordered : early ≤ late) :
    store.replay (writes.take late) = (store.replay (writes.take early)).replay ((writes.take late).drop early) ∧
      FreshRun (store.replay (writes.take early)) ((writes.take late).drop early) := by
  have split : writes.take early ++ (writes.take late).drop early = writes.take late := by
    have whole := List.take_append_drop early (writes.take late)
    rwa [List.take_take, Nat.min_eq_left ordered] at whole
  generalize (writes.take late).drop early = rest at split ⊢
  have freshPrefix := fresh.take late
  rw [← split] at freshPrefix ⊢
  exact ⟨replay_append, (freshRun_append.mp freshPrefix).2⟩

/-- The call at position `index` takes the store from that point to the next. -/
theorem FreshRun.step (fresh : FreshRun store writes) {index : Nat} (at_ : writes[index]? = some write) :
    store.replay (writes.take (index + 1)) = write.apply (store.replay (writes.take index)) ∧
      write.Fresh (store.replay (writes.take index)) := by
  obtain ⟨reached, freshRest⟩ := fresh.segment (Nat.le_succ index)
  have single : (writes.take (index + 1)).drop index = [write] := by
    rw [List.drop_take, Nat.add_sub_cancel_left, List.take_one, List.head?_drop, at_]
    rfl
  rw [single] at reached freshRest
  exact ⟨reached, freshRest.1⟩

end Replay

/-! ## Records keyed by identifier -/

section Keys

/-- A record under a key no entry has is appended. -/
theorem upsert_eq_append {α : Type} {sameKey : α → α → Bool} {entry : α} {entries : List α}
    (fresh : ∀ old ∈ entries, sameKey entry old = false) : upsert sameKey entry entries = entries ++ [entry] := by
  unfold upsert
  rw [if_neg]
  intro found
  obtain ⟨old, member, same⟩ := List.any_eq_true.mp found
  rw [fresh old member] at same
  cases same

variable {α : Type} (key : α → Uuid)

/-- Storing a record under its key keeps the keys distinct. -/
theorem upsert_keys_nodup {entry : α} {entries : List α} (distinct : (entries.map key).Nodup) :
    ((upsert (fun new old => key new == key old) entry entries).map key).Nodup := by
  unfold upsert
  split
  · rename_i present
    have sameKeys : (entries.map (fun old => if key entry == key old then entry else old)).map key =
        entries.map key := by
      rw [List.map_map]
      apply List.map_congr_left
      intro old _
      by_cases same : key entry = key old
      · simp [same]
      · simp [same]
    rw [sameKeys]
    exact distinct
  · rename_i absent
    have fresh : key entry ∉ entries.map key := by
      simp only [List.any_eq_true, beq_iff_eq, not_exists, not_and] at absent
      simp only [List.mem_map, not_exists, not_and]
      exact fun old member same => absent old member same.symm
    rw [List.map_append, List.nodup_append]
    refine ⟨distinct, by simp, ?_⟩
    intro stored member added appended
    simp only [List.map_cons, List.map_nil, List.mem_singleton] at appended
    subst appended
    exact fun same => fresh (same ▸ member)

/-- Rewriting records without touching their keys keeps the keys. -/
theorem map_keys_of_keep {rewrite : α → α} {entries : List α}
    (keeps : ∀ entry ∈ entries, key (rewrite entry) = key entry) :
    (entries.map rewrite).map key = entries.map key := by
  rw [List.map_map]
  exact List.map_congr_left keeps

/-- Looking a key up among rewritten records finds the rewrite of the record found before, when
no rewrite touches a key. -/
theorem find?_map_of_keep {rewrite : α → α} (keeps : ∀ entry, key (rewrite entry) = key entry)
    (entries : List α) (wanted : Uuid) :
    (entries.map rewrite).find? (fun stored => key stored == wanted) =
      (entries.find? (fun stored => key stored == wanted)).map rewrite := by
  rw [List.find?_map]
  simp only [Function.comp_def, keeps]

/-- After a record is stored under its key, looking that key up finds it, and the other keys
find what they found before. -/
theorem find?_upsert (entry : α) (entries : List α) (wanted : Uuid) :
    (upsert (fun new old => key new == key old) entry entries).find? (fun stored => key stored == wanted) =
      if key entry = wanted then some entry else entries.find? (fun stored => key stored == wanted) := by
  unfold upsert
  split
  · rename_i present
    have keeps : ∀ old, key (if key entry == key old then entry else old) = key old := by
      intro old
      by_cases same : key entry = key old <;> simp [same]
    rw [find?_map_of_keep key keeps]
    split
    · -- the first record under the key is the one replaced
      rename_i isEntryKey
      obtain ⟨old, member, sameKey⟩ := List.any_eq_true.mp present
      have found : (entries.find? fun stored => key stored == wanted).isSome := by
        rw [List.find?_isSome]
        refine ⟨old, member, ?_⟩
        simp only [beq_iff_eq] at sameKey ⊢
        rw [← isEntryKey]
        exact sameKey.symm
      obtain ⟨first, firstFound⟩ := Option.isSome_iff_exists.mp found
      have firstKey : key first = wanted := by simpa using List.find?_some firstFound
      rw [firstFound]
      simp [isEntryKey, firstKey]
    · rename_i otherKey
      cases found : entries.find? (fun stored => key stored == wanted) with
      | none => rfl
      | some first =>
        have firstKey : key first = wanted := by simpa using List.find?_some found
        have differs : key entry ≠ key first := by rw [firstKey]; exact otherKey
        simp [differs]
  · rename_i absent
    rw [List.find?_append]
    split
    · rename_i isEntryKey
      have none : entries.find? (fun stored => key stored == wanted) = none := by
        rw [List.find?_eq_none]
        intro old member sameKey
        refine absent (List.any_eq_true.mpr ⟨old, member, ?_⟩)
        simp only [beq_iff_eq] at sameKey ⊢
        rw [isEntryKey]
        exact sameKey.symm
      simp [none, isEntryKey]
    · rename_i otherKey
      simp [otherKey]

end Keys

/-! ## What each call writes

One lemma per call says everything the call can do to the store: leave it as it was, or write
the records named, under the conditions named. Later proofs read a call's effect from these
and never open the store's code again. -/

section Effects

variable (store : Store)

/-- A whole-list map in `Except` that succeeds computes `g` pointwise, if every step does. -/
theorem mapM_eq_ok_map {α β ε : Type} {f : α → Except ε β} (g : α → β)
    (agrees : ∀ x y, f x = .ok y → y = g x) :
    ∀ {xs : List α} {ys : List β}, xs.mapM f = .ok ys → ys = xs.map g := by
  intro xs
  induction xs with
  | nil =>
    intro ys mapped
    simp only [List.mapM_nil, pure, Except.pure, Except.ok.injEq] at mapped
    simp [mapped]
  | cons x xs inductionHypothesis =>
    intro ys mapped
    simp only [List.mapM_cons, bind, Except.bind, pure, Except.pure] at mapped
    cases headResult : f x with
    | error failure => simp [headResult] at mapped
    | ok y =>
      cases tailResult : xs.mapM f with
      | error failure => simp [headResult, tailResult] at mapped
      | ok rest =>
        simp only [headResult, tailResult, Except.ok.injEq] at mapped
        subst mapped
        rw [agrees x y headResult, inductionHypothesis tailResult, List.map_cons]

theorem nextVersion_ok {version next : Int} (bumping : nextVersion version = .ok next) :
    next = version + 1 := by
  unfold nextVersion at bumping
  split at bumping
  · rename_i within
    cases bumping
    exact ((Arith.within64_eq_some.mp within).2).symm
  · cases bumping

theorem apply_insertSubscription (subscription : Subscription) :
    (Write.insertSubscription subscription).apply store = store ∨
      (Write.insertSubscription subscription).apply store =
        { store with
          subscriptions := upsert (fun new old => new.id == old.id) subscription store.subscriptions } := by
  simp only [Write.apply, Store.insertSubscription]
  split
  · left; rfl
  · right; rfl

/-- A stored subscription after a write of `subscription` read at `version`. -/
def bumped (subscription : Subscription) (version : Int) (old : Subscription) : Subscription :=
  if old.id == subscription.id then { subscription with version := version + 1 } else old

theorem apply_updateSubscription (subscription : Subscription) (version : Int) :
    (Write.updateSubscription subscription version).apply store = store ∨
      ((store.subscription? subscription.id).map (·.version) = some version ∧
        (Write.updateSubscription subscription version).apply store =
          { store with subscriptions := store.subscriptions.map (bumped subscription version) }) := by
  simp only [Write.apply, Store.updateSubscription]
  split
  · rename_i stored found
    split
    · rename_i same
      cases bumping : nextVersion version with
      | error halt => left; simp [afterStep, bind, Except.bind]
      | ok next =>
        right
        have nextIsSucc := nextVersion_ok bumping
        subst nextIsSucc
        refine ⟨by simp [found, beq_iff_eq.mp same], ?_⟩
        simp [afterStep, bind, Except.bind, pure, Except.pure, bumped]
    · left; rfl
  · left; rfl

/-- Whether a bulk expiry of `statuses` whose period ended before `cutoff` moves a
subscription. -/
def expires (statuses : List SubscriptionStatus) (cutoff : Moment) (subscription : Subscription) : Bool :=
  statuses.contains subscription.status && decide (subscription.periodEnd < cutoff)

/-- A subscription after a bulk expiry to `target` at `now`. -/
def expired (statuses : List SubscriptionStatus) (cutoff : Moment) (target : SubscriptionStatus)
    (now : Moment) (subscription : Subscription) : Subscription :=
  if expires statuses cutoff subscription then
    { subscription with status := target, updatedAt := now, version := subscription.version + 1 }
  else subscription

/-- A bulk expiry that goes through moves every subscription it matches, with the next
version, and leaves the others. -/
theorem updateExpiredToStatus_ok {statuses : List SubscriptionStatus} {cutoff : Moment} {target : SubscriptionStatus}
    {now : Moment} {count : Nat} {after : Store}
    (stepped : store.updateExpiredToStatus statuses cutoff target now = .ok (count, after)) :
    after = { store with subscriptions := store.subscriptions.map (expired statuses cutoff target now) } := by
  simp only [Store.updateExpiredToStatus, bind, Except.bind] at stepped
  split at stepped
  · cases stepped
  · rename_i moved mapped
    simp only [pure, Except.pure, Except.ok.injEq, Prod.mk.injEq] at stepped
    -- every subscription the pass moves gets the next version, the others stay
    have sameList := mapM_eq_ok_map (expired statuses cutoff target now)
      (fun subscription result step => by
        unfold expired expires
        split at step
        · rename_i moves
          split at step
          · cases step
          · rename_i next bumping
            simp only [pure, Except.pure, Except.ok.injEq] at step
            rw [if_pos moves, ← step, nextVersion_ok bumping]
        · rename_i stays
          simp only [pure, Except.pure, Except.ok.injEq] at step
          rw [if_neg stays, step]) mapped
    rw [← stepped.2, sameList]

theorem apply_updateExpiredToStatus (statuses : List SubscriptionStatus) (cutoff : Moment)
    (target : SubscriptionStatus) (now : Moment) :
    (Write.updateExpiredToStatus statuses cutoff target now).apply store = store ∨
      (Write.updateExpiredToStatus statuses cutoff target now).apply store =
        { store with subscriptions := store.subscriptions.map (expired statuses cutoff target now) } := by
  rcases stepping : store.updateExpiredToStatus statuses cutoff target now with halt | ⟨count, after⟩
  · left
    simp only [Write.apply, stepping, afterStep]
  · right
    simp only [Write.apply, stepping, afterStep]
    exact updateExpiredToStatus_ok store stepping

theorem apply_insertInvoice (invoice : Invoice) :
    (Write.insertInvoice invoice).apply store = store ∨
      (¬ (invoice.isPending = true ∧ store.pendingOf invoice.company ≠ []) ∧
        (Write.insertInvoice invoice).apply store =
          { store with invoices := upsert (fun new old => new.id == old.id) invoice store.invoices }) := by
  simp only [Write.apply, Store.insertInvoice]
  split
  · left; rfl
  · rename_i allowed
    right
    refine ⟨fun ⟨pending, others⟩ => allowed ?_, rfl⟩
    simp [pending, others]

/-- An invoice after invoice `id` is linked to the provider's invoice `providerId`. -/
def linked (id : Uuid) (providerId url : String) (expiresAt : Option Moment) (invoice : Invoice) :
    Invoice :=
  if invoice.id == id then
    { invoice with providerInvoiceId := some providerId, invoiceUrl := some url, expiresAt := expiresAt }
  else invoice

theorem apply_attachProviderInvoice (id : Uuid) (providerId url : String) (expiresAt : Option Moment) :
    (Write.attachProviderInvoice id providerId url expiresAt).apply store = store ∨
      (Write.attachProviderInvoice id providerId url expiresAt).apply store =
        { store with invoices := store.invoices.map (linked id providerId url expiresAt) } := by
  simp only [Write.apply, Store.attachProviderInvoice]
  split
  · left; rfl
  · split
    · left; rfl
    · right; rfl

/-- What a transition of a pending invoice to `target` makes of it, when it is allowed. -/
def moved (target : InvoiceStatus) (payment : Option Payment) (invoice : Invoice) : Option Invoice :=
  match target, payment with
  | .paid, some payment => some (invoice.applyPayment payment)
  | .paid, none => none
  | _, _ => some { invoice with status := target }

/-- An invoice after invoice `id` is replaced by `replacement`. -/
def replacing (id : Uuid) (replacement old : Invoice) : Invoice := if old.id == id then replacement else old

/-- What a transition gives: `false` and the store as it was when the invoice is missing or has
left `pending`, a failure, or `true` and the pending invoice moved. -/
theorem transitionInvoice_cases (id : Uuid) (target : InvoiceStatus) (payment : Option Payment) :
    (store.transitionInvoice id target payment = .ok (false, store) ∧
      ∀ invoice, store.invoice? id = some invoice → invoice.isPending = false) ∨
    (∃ failure, store.transitionInvoice id target payment = .error failure) ∨
    ∃ invoice result, store.invoice? id = some invoice ∧ invoice.isPending = true ∧
      moved target payment invoice = some result ∧
      store.transitionInvoice id target payment =
        .ok (true, { store with invoices := store.invoices.map (replacing id result) }) := by
  simp only [Store.transitionInvoice]
  split
  · rename_i missing
    refine .inl ⟨rfl, fun invoice found => ?_⟩
    rw [missing] at found
    cases found
  · rename_i invoice found
    split
    · rename_i notPending
      refine .inl ⟨rfl, fun other foundOther => ?_⟩
      rw [found, Option.some.injEq] at foundOther
      subst foundOther
      simpa using notPending
    · rename_i pending
      split
      · exact .inr (.inl ⟨_, rfl⟩)
      · rename_i result moving
        exact .inr (.inr ⟨invoice, result, found, by simpa using pending, moving, rfl⟩)

theorem apply_transitionInvoice (id : Uuid) (target : InvoiceStatus) (payment : Option Payment) :
    (Write.transitionInvoice id target payment).apply store = store ∨
      ∃ invoice result, store.invoice? id = some invoice ∧ invoice.isPending = true ∧
        moved target payment invoice = some result ∧
        (Write.transitionInvoice id target payment).apply store =
          { store with invoices := store.invoices.map (replacing id result) } := by
  rcases transitionInvoice_cases store id target payment with
    ⟨refused, -⟩ | ⟨failure, failed⟩ | ⟨invoice, result, found, pending, moving, transitioned⟩
  · left
    simp only [Write.apply, refused, afterStep]
  · left
    simp only [Write.apply, failed, afterStep]
  · right
    exact ⟨invoice, result, found, pending, moving, by simp only [Write.apply, transitioned, afterStep]⟩

/-- The subscription a settlement stores, when the store lets its write through: a new
subscription at version 0 for a company without one, or the next version of a subscription
still at the version it was read at. -/
def Settles (store : Store) : SubscriptionWrite → Subscription → Prop
  | .insert subscription, stored =>
    store.subscriptionOf? subscription.company = none ∧ stored = { subscription with version := 0 }
  | .update subscription expectedVersion, stored =>
    (store.subscription? subscription.id).map (·.version) = some expectedVersion ∧
      stored = { subscription with version := expectedVersion + 1 }

/-- An invoice after invoice `id` is settled by `payment` and buys subscription `subscription`. -/
def paidBy (id : Uuid) (payment : Payment) (subscription : Uuid) (invoice : Invoice) : Invoice :=
  if invoice.id == id then { invoice.applyPayment payment with subscription := some subscription }
  else invoice

/-- What a settlement gives: `false` and the store as it was when the invoice is missing or
has left `pending`, a halt, or `true` and the invoice paid with the subscription written. -/
theorem settleInvoice_cases (id : Uuid) (payment : Payment) (write : SubscriptionWrite) :
    (store.settleInvoice id payment write = .ok (false, store) ∧
      ∀ invoice, store.invoice? id = some invoice → invoice.isPending = false) ∨
    (∃ halt, store.settleInvoice id payment write = .error halt) ∨
    ∃ invoice stored, store.invoice? id = some invoice ∧ invoice.isPending = true ∧ store.Settles write stored ∧
      store.settleInvoice id payment write = .ok (true, { store with
        invoices := store.invoices.map (paidBy id payment stored.id),
        subscriptions := upsert (fun new old => new.id == old.id) stored store.subscriptions }) := by
  unfold Store.settleInvoice
  split
  · rename_i missing
    refine .inl ⟨rfl, fun invoice found => ?_⟩
    rw [missing] at found
    cases found
  · rename_i invoice found
    split
    · rename_i notPending
      refine .inl ⟨rfl, fun other foundOther => ?_⟩
      rw [found, Option.some.injEq] at foundOther
      subst foundOther
      simpa using notPending
    · rename_i pending
      have pendingTrue : invoice.isPending = true := by simpa using pending
      cases write with
      | insert subscription =>
        simp only [bind, Except.bind]
        split
        · exact .inr (.inl ⟨_, rfl⟩)
        · rename_i absent
          refine .inr (.inr ⟨invoice, { subscription with version := 0 }, found, pendingTrue, ⟨?_, rfl⟩, rfl⟩)
          simpa using absent
      | update subscription expectedVersion =>
        simp only [bind, Except.bind]
        split
        · rename_i same
          cases bumping : nextVersion expectedVersion with
          | error halt => exact .inr (.inl ⟨halt, rfl⟩)
          | ok next =>
            have nextIsSucc := nextVersion_ok bumping
            subst nextIsSucc
            refine .inr (.inr ⟨invoice, { subscription with version := expectedVersion + 1 }, found, pendingTrue,
              ⟨by simpa using same, rfl⟩, ?_⟩)
            simp [pure, Except.pure, paidBy]
        · exact .inr (.inl ⟨_, rfl⟩)

theorem apply_settleInvoice (id : Uuid) (payment : Payment) (write : SubscriptionWrite) :
    (Write.settleInvoice id payment write).apply store = store ∨
      ∃ invoice stored, store.invoice? id = some invoice ∧ invoice.isPending = true ∧
        store.Settles write stored ∧
        (Write.settleInvoice id payment write).apply store =
          { store with
            invoices := store.invoices.map (paidBy id payment stored.id),
            subscriptions := upsert (fun new old => new.id == old.id) stored store.subscriptions } := by
  rcases settleInvoice_cases store id payment write with
    ⟨refused, -⟩ | ⟨halt, halted⟩ | ⟨invoice, stored, found, pending, settles, settled⟩
  · left
    simp only [Write.apply, refused, afterStep]
  · left
    simp only [Write.apply, halted, afterStep]
  · right
    exact ⟨invoice, stored, found, pending, settles, by simp only [Write.apply, settled, afterStep]⟩

theorem apply_appendEvent (event : Event) :
    (Write.appendEvent event).apply store = { store with events := store.events ++ [event] } := rfl

/-! The calls that write subscriptions or events leave the invoices alone. -/

@[simp] theorem invoices_apply_insertSubscription (subscription : Subscription) :
    ((Write.insertSubscription subscription).apply store).invoices = store.invoices := by
  rcases apply_insertSubscription store subscription with written | written <;> rw [written]

@[simp] theorem invoices_apply_updateSubscription (subscription : Subscription) (version : Int) :
    ((Write.updateSubscription subscription version).apply store).invoices = store.invoices := by
  rcases apply_updateSubscription store subscription version with written | ⟨-, written⟩ <;>
    rw [written]

@[simp] theorem invoices_apply_updateExpiredToStatus (statuses : List SubscriptionStatus) (cutoff : Moment)
    (target : SubscriptionStatus) (now : Moment) :
    ((Write.updateExpiredToStatus statuses cutoff target now).apply store).invoices = store.invoices := by
  rcases apply_updateExpiredToStatus store statuses cutoff target now with written | written <;>
    rw [written]

@[simp] theorem invoices_apply_appendEvent (event : Event) :
    ((Write.appendEvent event).apply store).invoices = store.invoices := rfl

/-! The calls that write invoices or events leave the subscriptions alone. -/

@[simp] theorem subscriptions_apply_insertInvoice (invoice : Invoice) :
    ((Write.insertInvoice invoice).apply store).subscriptions = store.subscriptions := by
  rcases apply_insertInvoice store invoice with written | ⟨-, written⟩ <;> rw [written]

@[simp] theorem subscriptions_apply_attachProviderInvoice (id : Uuid) (providerId url : String)
    (expiresAt : Option Moment) :
    ((Write.attachProviderInvoice id providerId url expiresAt).apply store).subscriptions = store.subscriptions := by
  rcases apply_attachProviderInvoice store id providerId url expiresAt with written | written <;> rw [written]

@[simp] theorem subscriptions_apply_transitionInvoice (id : Uuid) (target : InvoiceStatus)
    (payment : Option Payment) :
    ((Write.transitionInvoice id target payment).apply store).subscriptions = store.subscriptions := by
  rcases apply_transitionInvoice store id target payment with written | ⟨_, _, -, -, -, written⟩ <;>
    rw [written]

@[simp] theorem subscriptions_apply_appendEvent (event : Event) :
    ((Write.appendEvent event).apply store).subscriptions = store.subscriptions := rfl

end Effects

/-! ## Identifiers are kept -/

section Identifiers

variable {store : Store}

theorem invoice?_id {id : Uuid} {invoice : Invoice} (found : store.invoice? id = some invoice) :
    invoice.id = id := by
  simpa using List.find?_some found

theorem subscription?_id {id : Uuid} {subscription : Subscription}
    (found : store.subscription? id = some subscription) : subscription.id = id := by
  simpa using List.find?_some found

@[simp] theorem bumped_id (subscription old : Subscription) (version : Int) :
    (bumped subscription version old).id = old.id := by
  unfold bumped
  split
  · rename_i same
    exact (beq_iff_eq.mp same).symm
  · rfl

@[simp] theorem expired_id (statuses : List SubscriptionStatus) (cutoff : Moment)
    (target : SubscriptionStatus) (now : Moment) (subscription : Subscription) :
    (expired statuses cutoff target now subscription).id = subscription.id := by
  unfold expired
  split <;> rfl

@[simp] theorem linked_id (id : Uuid) (providerId url : String) (expiresAt : Option Moment)
    (invoice : Invoice) : (linked id providerId url expiresAt invoice).id = invoice.id := by
  unfold linked
  split <;> rfl

@[simp] theorem paidBy_id (id : Uuid) (payment : Payment) (subscription : Uuid) (invoice : Invoice) :
    (paidBy id payment subscription invoice).id = invoice.id := by
  unfold paidBy
  split <;> rfl

theorem moved_id {target : InvoiceStatus} {payment : Option Payment} {invoice result : Invoice}
    (moving : moved target payment invoice = some result) : result.id = invoice.id := by
  unfold moved at moving
  split at moving
  · cases moving
    rfl
  · cases moving
  · cases moving
    rfl

theorem replacing_id {id : Uuid} {replacement : Invoice} (sameId : replacement.id = id) (old : Invoice) :
    (replacing id replacement old).id = old.id := by
  unfold replacing
  split
  · rename_i same
    rw [sameId, beq_iff_eq.mp same]
  · rfl

end Identifiers

/-- No two subscriptions and no two invoices of the store share an identifier. -/
structure Keyed (store : Store) : Prop where
  subscriptions : (store.subscriptions.map Subscription.id).Nodup
  invoices : (store.invoices.map Invoice.id).Nodup

/-- Every call keeps the records keyed: a write either replaces the record with its
identifier or appends a record with a new one. -/
theorem Keyed.apply {store : Store} (keyed : store.Keyed) (write : Write) : (write.apply store).Keyed := by
  cases write with
  | insertSubscription subscription =>
    rcases apply_insertSubscription store subscription with unchanged | inserted
    · rw [unchanged]; exact keyed
    · rw [inserted]; exact ⟨upsert_keys_nodup Subscription.id keyed.subscriptions, keyed.invoices⟩
  | updateSubscription subscription version =>
    rcases apply_updateSubscription store subscription version with unchanged | ⟨-, updated⟩
    · rw [unchanged]; exact keyed
    · rw [updated]
      refine ⟨?_, keyed.invoices⟩
      rw [map_keys_of_keep Subscription.id (fun old _ => bumped_id subscription old version)]
      exact keyed.subscriptions
  | updateExpiredToStatus statuses cutoff target now =>
    rcases apply_updateExpiredToStatus store statuses cutoff target now with unchanged | updated
    · rw [unchanged]; exact keyed
    · rw [updated]
      refine ⟨?_, keyed.invoices⟩
      rw [map_keys_of_keep Subscription.id (fun old _ => expired_id statuses cutoff target now old)]
      exact keyed.subscriptions
  | insertInvoice invoice =>
    rcases apply_insertInvoice store invoice with unchanged | ⟨-, inserted⟩
    · rw [unchanged]; exact keyed
    · rw [inserted]; exact ⟨keyed.subscriptions, upsert_keys_nodup Invoice.id keyed.invoices⟩
  | attachProviderInvoice id providerId url expiresAt =>
    rcases apply_attachProviderInvoice store id providerId url expiresAt with unchanged | attached
    · rw [unchanged]; exact keyed
    · rw [attached]
      refine ⟨keyed.subscriptions, ?_⟩
      rw [map_keys_of_keep Invoice.id (fun old _ => linked_id id providerId url expiresAt old)]
      exact keyed.invoices
  | transitionInvoice id target payment =>
    rcases apply_transitionInvoice store id target payment with
      unchanged | ⟨invoice, result, found, -, moving, transitioned⟩
    · rw [unchanged]; exact keyed
    · rw [transitioned]
      have resultId : result.id = id := (moved_id moving).trans (invoice?_id found)
      refine ⟨keyed.subscriptions, ?_⟩
      rw [map_keys_of_keep Invoice.id (fun old _ => replacing_id resultId old)]
      exact keyed.invoices
  | settleInvoice id payment write =>
    rcases apply_settleInvoice store id payment write with
      unchanged | ⟨invoice, stored, -, -, -, settled⟩
    · rw [unchanged]; exact keyed
    · rw [settled]
      refine ⟨upsert_keys_nodup Subscription.id keyed.subscriptions, ?_⟩
      rw [map_keys_of_keep Invoice.id (fun old _ => paidBy_id id payment stored.id old)]
      exact keyed.invoices
  | appendEvent event => exact ⟨keyed.subscriptions, keyed.invoices⟩

end SeatBilling.Store
