import SeatBilling.Proofs.Ledger.Validation
import SeatBilling.Proofs.Ledger.CheckoutStages
import SeatBilling.Proofs.Invoicing.Creation
import SeatBilling.Proofs.Store.PendingInvoices

/-!
# Racing checkouts

Checkouts of a company that has no pending invoice race: each passes its own validation, and
their calls interleave in any order. In a world where every collaborator does its plain
work, `racing_checkouts_store_one_invoice` says how every such race ends once all have
finished: exactly one checkout returned an invoice, the others were refused as duplicates, the
invoice is the company's only pending one, and the provider was asked once, for it.

The invariant `Racing` carries it: at most one checkout holds a stored invoice, the store and
the provider look as that checkout's progress says, and no checkout was refused while none
held one.
-/

namespace SeatBilling.Ledger

open SeatBilling.Time
open CheckoutStage

/-- The checkout's validation lets it through. -/
def Passes (company : Uuid) (planId : String) (seats : Option Int) (world : World) : Prop :=
  ∃ request, ((checkoutRequest company planId seats).run.run world).1 = .ok request

/-- The world racing checkouts of `company` start in: every collaborator does its plain work,
the local provider accepts every request, the company has no pending invoice, an invoice's
life ends within the calendar, and no stored invoice uses an identifier drawn from here on,
as none uses a fresh random one. -/
structure Setting (company : Uuid) (start : World) : Prop where
  steady : Steady start
  localProvider : start.provider.endpoint = none
  willing : start.provider.refusal = none
  nonePending : start.store.pendingOf company = []
  expiry : ∃ expiresAt, start.clock.shift? start.config.invoiceTtl = some expiresAt
  fresh : ∀ invoice ∈ start.store.invoices, ∀ serial, start.serial ≤ serial →
    invoice.id ≠ Uuid.ofSerial serial ∧
      invoice.providerInvoiceId ≠ some (Calls.providerIdFor (Uuid.ofSerial serial))

section Invariant

variable (company : Uuid) (start : World)

/-- A racing checkout that holds no invoice: still to validate, and bound to pass; past
validation with a request of the company; or refused as a duplicate. -/
def Waiting : CheckoutStage → Prop
  | validating asking planId seats => asking = company ∧ Passes company planId seats start
  | checking request => request.company = company
  | storing request => request.company = company
  | finished (.error halt) => halt = .failed (.duplicatePendingInvoice company)
  | _ => False

/-- The store holds the start's invoices and one more: a pending invoice of the company under
an identifier drawn during the run. -/
structure Stored (world : World) (invoice : Invoice) : Prop where
  invoices : world.store.invoices = start.store.invoices ++ [invoice]
  company : invoice.company = company
  pending : invoice.isPending = true
  drawn : ∃ serial, start.serial ≤ serial ∧ invoice.id = Uuid.ofSerial serial

/-- The provider was asked once during the run, for the invoice. -/
def Billed (world : World) (invoice : Invoice) : Prop :=
  ∃ asked : ProviderRequest, asked.invoice = invoice.id ∧
    world.provider.requests = start.provider.requests ++ [asked]

/-- The world as the checkout that stored an invoice leaves it, at each of its stages. -/
def Holding (world : World) : CheckoutStage → Prop
  | billing invoice _ => Stored company start world invoice ∧ world.provider.requests = start.provider.requests
  | linking invoice created =>
    Stored company start world invoice ∧ created = Invoicing.hostedFor invoice.id ∧ Billed start world invoice
  | announcing invoice => Stored company start world invoice ∧ Billed start world invoice
  | finished (.ok invoice) => Stored company start world invoice ∧ Billed start world invoice
  | _ => False

/-- No checkout has stored an invoice yet: the invoices and the provider's requests are the
start's, and no checkout has halted. -/
structure Idle (stages : List CheckoutStage) (world : World) : Prop where
  invoices : world.store.invoices = start.store.invoices
  requests : world.provider.requests = start.provider.requests
  unhalted : ∀ stage ∈ stages, stage.halted = false

/-- What racing checkouts keep: only invoices, events, identifiers and provider requests
change; at most one checkout holds an invoice, and the world is as its stage says; the
others wait or were refused, and none was refused while no checkout held an invoice. -/
structure Racing (stages : List CheckoutStage) (world : World) : Prop where
  frame : world.ledger = start.ledger
  drawn : start.serial ≤ world.serial
  single : stages.countP holds ≤ 1
  each : ∀ stage ∈ stages, Waiting company start stage ∨ Holding company start world stage
  idle : stages.countP holds = 0 → Idle start stages world

end Invariant

/-! ## What one step keeps -/

theorem countP_middle {α : Type} (keeps : α → Bool) (before rest : List α) (entry : α) :
    (before ++ entry :: rest).countP keeps = (before ++ rest).countP keeps + if keeps entry then 1 else 0 := by
  simp only [List.countP_append, List.countP_cons]
  omega

theorem mem_middle {α : Type} {before rest : List α} {entry other : α} :
    other ∈ before ++ entry :: rest ↔ other = entry ∨ other ∈ before ++ rest := by
  simp only [List.mem_append, List.mem_cons]
  constructor
  · rintro (early | same | late)
    · exact .inr (.inl early)
    · exact .inl same
    · exact .inr (.inr late)
  · rintro (same | early | late)
    · exact .inr (.inl same)
    · exact .inl early
    · exact .inr (.inr late)

section Steps

variable {company : Uuid} {start : World}

theorem Waiting.holds {stage : CheckoutStage} (waiting : Waiting company start stage) : stage.holds = false := by
  cases stage with
  | validating asking planId seats => rfl
  | checking request => rfl
  | storing request => rfl
  | billing invoice description => exact absurd waiting id
  | linking invoice created => exact absurd waiting id
  | announcing invoice => exact absurd waiting id
  | finished outcome =>
    cases outcome with
    | error halt => rfl
    | ok invoice => exact absurd waiting id

theorem Holding.holds {world : World} {stage : CheckoutStage} (holding : Holding company start world stage) :
    stage.holds = true := by
  cases stage with
  | billing invoice description => rfl
  | linking invoice created => rfl
  | announcing invoice => rfl
  | finished outcome =>
    cases outcome with
    | ok invoice => rfl
    | error halt => exact absurd holding id
  | validating asking planId seats => exact absurd holding id
  | checking request => exact absurd holding id
  | storing request => exact absurd holding id

theorem Holding.stored {world : World} {stage : CheckoutStage} (holding : Holding company start world stage) :
    ∃ invoice, Stored company start world invoice := by
  cases stage with
  | billing invoice description => exact ⟨invoice, holding.1⟩
  | linking invoice created => exact ⟨invoice, holding.1⟩
  | announcing invoice => exact ⟨invoice, holding.1⟩
  | finished outcome =>
    cases outcome with
    | ok invoice => exact ⟨invoice, holding.1⟩
    | error halt => exact absurd holding id
  | validating asking planId seats => exact absurd holding id
  | checking request => exact absurd holding id
  | storing request => exact absurd holding id

/-- The world a holding checkout describes is read off the invoices and the provider's
requests alone. -/
theorem Holding.congr {world later : World} {stage : CheckoutStage}
    (invoices : later.store.invoices = world.store.invoices)
    (requests : later.provider.requests = world.provider.requests)
    (holding : Holding company start world stage) : Holding company start later stage := by
  have stored : ∀ {invoice}, Stored company start world invoice → Stored company start later invoice :=
    fun stored => ⟨invoices.trans stored.invoices, stored.company, stored.pending, stored.drawn⟩
  have billed : ∀ {invoice}, Billed start world invoice → Billed start later invoice :=
    fun ⟨asked, forInvoice, made⟩ => ⟨asked, forInvoice, requests.trans made⟩
  cases stage with
  | billing invoice description => exact ⟨stored holding.1, requests.trans holding.2⟩
  | linking invoice created => exact ⟨stored holding.1, holding.2.1, billed holding.2.2⟩
  | announcing invoice => exact ⟨stored holding.1, billed holding.2⟩
  | finished outcome =>
    cases outcome with
    | ok invoice => exact ⟨stored holding.1, billed holding.2⟩
    | error halt => exact absurd holding id
  | validating asking planId seats => exact absurd holding id
  | checking request => exact absurd holding id
  | storing request => exact absurd holding id

/-- The stored invoice is the company's only pending one. -/
theorem Stored.pendingOf {world : World} {invoice : Invoice} (nonePending : start.store.pendingOf company = [])
    (stored : Stored company start world invoice) : world.store.pendingOf company = [invoice] := by
  unfold Store.pendingOf at nonePending ⊢
  rw [stored.invoices, List.filter_append, nonePending]
  simp [stored.company, stored.pending]

/-- The store takes the new pending invoice of a company that has none; its identifier is
fresh, so it is appended. -/
theorem Stored.insert (setting : Setting company start) {world : World} {invoice : Invoice}
    (idle : world.store.invoices = start.store.invoices) (fresh : ∃ serial, start.serial ≤ serial ∧ invoice.id = Uuid.ofSerial serial)
    (ofCompany : invoice.company = company) :
    world.store.insertInvoice invoice =
      .ok { world.store with invoices := start.store.invoices ++ [invoice] } := by
  obtain ⟨serial, drawn, named⟩ := fresh
  have noPending : world.store.pendingOf company = [] := by
    rw [Store.pendingOf_eq_of_invoices idle company]
    exact setting.nonePending
  unfold Store.insertInvoice
  rw [if_neg (by simp [ofCompany, noPending]), idle, Store.upsert_eq_append]
  intro old member
  have differs : old.id ≠ invoice.id := named ▸ (setting.fresh old member serial drawn).1
  simp only [beq_eq_false_iff_ne]
  exact fun same => differs same.symm

/-- Linking the stored invoice to the provider's id made from its fresh identifier goes
through and changes that invoice only. -/
theorem Stored.attach (setting : Setting company start) {world : World} {invoice : Invoice}
    (stored : Stored company start world invoice) {providerId : String}
    (madeFrom : providerId = Calls.providerIdFor invoice.id) (url : String) (expiresAt : Option Moment) :
    world.store.attachProviderInvoice invoice.id providerId url expiresAt =
      .ok { world.store with invoices := start.store.invoices ++
        [{ invoice with providerInvoiceId := some providerId, invoiceUrl := some url, expiresAt := expiresAt }] } := by
  obtain ⟨serial, drawn, named⟩ := stored.drawn
  have others : ∀ old ∈ start.store.invoices,
      old.id ≠ invoice.id ∧ old.providerInvoiceId ≠ some providerId := by
    intro old member
    rw [madeFrom, named]
    exact setting.fresh old member serial drawn
  have unlinked : (world.store.invoices.any fun other =>
      other.id != invoice.id && other.providerInvoiceId == some providerId) = false := by
    rw [stored.invoices, List.any_append, List.any_eq_false.mpr]
    · simp
    · intro old member
      simp [(others old member).2]
  have present : (world.store.invoice? invoice.id).isSome = true := by
    apply List.find?_isSome.mpr
    exact ⟨invoice, stored.invoices ▸ List.mem_append_right _ (List.mem_singleton_self _), by simp⟩
  unfold Store.attachProviderInvoice
  have found : ¬ (world.store.invoice? invoice.id).isNone = true := by
    rw [Option.isNone_iff_eq_none]
    exact Option.ne_none_iff_isSome.mpr present
  rw [if_neg (by simp [unlinked]), if_neg found, stored.invoices, List.map_append]
  congr 3
  · conv_rhs => rw [← List.map_id start.store.invoices]
    apply List.map_congr_left
    intro old member
    simp [(others old member).1]
  · simp

namespace Racing

variable {stages : List CheckoutStage} {world : World}

theorem eq_withInvoicing (racing : Racing company start stages world) :
    world = start.withInvoicing world.store.invoices world.store.events world.serial world.provider.requests :=
  calc world
      = world.ledger.withInvoicing world.store.invoices world.store.events world.serial
          world.provider.requests := (world.withInvoicing_ledger).symm
    _ = start.ledger.withInvoicing world.store.invoices world.store.events world.serial
          world.provider.requests := by rw [racing.frame]

theorem steady (setting : Setting company start) (racing : Racing company start stages world) : Steady world :=
  ⟨(congrArg World.faults racing.frame).trans setting.steady.noFaults,
    (congrArg World.backend racing.frame).trans setting.steady.inMemory⟩

/-- The company has no pending invoice exactly while no checkout holds one. -/
theorem pendingOf_eq_nil_iff (setting : Setting company start) (racing : Racing company start stages world) :
    world.store.pendingOf company = [] ↔ stages.countP holds = 0 := by
  constructor
  · intro noPending
    apply List.countP_eq_zero.mpr
    intro stage member holding
    rcases racing.each stage member with waiting | holds
    · rw [waiting.holds] at holding
      cases holding
    · obtain ⟨invoice, stored⟩ := holds.stored
      rw [stored.pendingOf setting.nonePending] at noPending
      cases noPending
  · intro none
    rw [Store.pendingOf_eq_of_invoices (racing.idle none).invoices company]
    exact setting.nonePending

/-- A step by a checkout that holds no invoice and still holds none afterwards, which leaves
the invoices and the provider's requests as they were; it halts only while another checkout
holds an invoice. -/
theorem quiet {before rest : List CheckoutStage} {stage next : CheckoutStage} {later : World}
    (racing : Racing company start (before ++ stage :: rest) world)
    (frame : later.ledger = world.ledger) (drawn : world.serial ≤ later.serial)
    (invoices : later.store.invoices = world.store.invoices)
    (requests : later.provider.requests = world.provider.requests)
    (unheld : stage.holds = false) (waiting : Waiting company start next)
    (haltsHeld : next.halted = true → (before ++ stage :: rest).countP holds ≠ 0) :
    Racing company start (before ++ next :: rest) later := by
  have sameCount : (before ++ next :: rest).countP holds = (before ++ stage :: rest).countP holds := by
    rw [countP_middle, countP_middle, waiting.holds, unheld]
  refine ⟨frame.trans racing.frame, Nat.le_trans racing.drawn drawn, sameCount ▸ racing.single, ?_, ?_⟩
  · intro other member
    rcases mem_middle.mp member with same | elsewhere
    · exact .inl (same ▸ waiting)
    · rcases racing.each other (mem_middle.mpr (.inr elsewhere)) with stays | holding
      · exact .inl stays
      · exact .inr (holding.congr invoices requests)
  · intro none
    have noneBefore := sameCount ▸ none
    have idle := racing.idle noneBefore
    refine ⟨invoices.trans idle.invoices, requests.trans idle.requests, fun other member => ?_⟩
    rcases mem_middle.mp member with same | elsewhere
    · subst same
      cases halting : other.halted with
      | false => rfl
      | true => exact absurd noneBefore (haltsHeld halting)
    · exact idle.unhalted other (mem_middle.mpr (.inr elsewhere))

/-- A step after which a checkout holds an invoice, while no other checkout holds one. -/
theorem hold {before rest : List CheckoutStage} {stage next : CheckoutStage} {later : World}
    (racing : Racing company start (before ++ stage :: rest) world)
    (frame : later.ledger = world.ledger) (drawn : world.serial ≤ later.serial)
    (alone : (before ++ rest).countP holds = 0) (holding : Holding company start later next) :
    Racing company start (before ++ next :: rest) later := by
  have counted : (before ++ next :: rest).countP holds = 1 := by
    rw [countP_middle, alone, holding.holds]
    rfl
  refine ⟨frame.trans racing.frame, Nat.le_trans racing.drawn drawn, Nat.le_of_eq counted, ?_, ?_⟩
  · intro other member
    rcases mem_middle.mp member with same | elsewhere
    · exact .inr (same ▸ holding)
    · -- the others hold nothing, so each of them is waiting
      have unheld : other.holds = false := by
        simpa using List.countP_eq_zero.mp alone other elsewhere
      rcases racing.each other (mem_middle.mpr (.inr elsewhere)) with stays | held
      · exact .inl stays
      · rw [held.holds] at unheld
        cases unheld
  · intro none
    rw [counted] at none
    cases none

theorem checkoutRequest_run (setting : Setting company start) (racing : Racing company start stages world)
    (asking : Uuid) (planId : String) (seats : Option Int) :
    (checkoutRequest asking planId seats).run.run world =
      (((checkoutRequest asking planId seats).run.run start).1, world) := by
  rw [racing.eq_withInvoicing]
  exact (readsLedger_checkoutRequest asking planId seats start setting.steady).2 _ _ _ _

/-- A holding checkout is the only one. -/
theorem alone {before rest : List CheckoutStage} {stage : CheckoutStage}
    (racing : Racing company start (before ++ stage :: rest) world) (held : stage.holds = true) :
    (before ++ rest).countP holds = 0 := by
  have single := racing.single
  rw [countP_middle, held] at single
  simp only [if_true] at single
  omega

theorem clock (racing : Racing company start stages world) : world.clock = start.clock := by
  have same := congrArg World.clock racing.frame
  exact same

theorem config (racing : Racing company start stages world) : world.config = start.config := by
  have same := congrArg World.config racing.frame
  exact same

theorem localProvider (setting : Setting company start) (racing : Racing company start stages world) :
    world.provider.endpoint = none := by
  have same := congrArg (fun world : World => world.provider.endpoint) racing.frame
  exact same.trans setting.localProvider

theorem willing (setting : Setting company start) (racing : Racing company start stages world) :
    world.provider.refusal = none := by
  have same := congrArg (fun world : World => world.provider.refusal) racing.frame
  exact same.trans setting.willing

/-! Each kind of stage, advanced while the others stand still. -/

section Advance

variable {before rest : List CheckoutStage} (setting : Setting company start)
include setting

theorem advance_validating {planId : String} {seats : Option Int}
    (racing : Racing company start (before ++ validating company planId seats :: rest) world)
    (passes : Passes company planId seats start) :
    Racing company start (before ++ ((validating company planId seats).advance world).1 :: rest)
      ((validating company planId seats).advance world).2 := by
  obtain ⟨request, validated⟩ := passes
  have ranAtStart : (checkoutRequest company planId seats).run.run start =
      (.ok request, ((checkoutRequest company planId seats).run.run start).2) := Prod.ext validated rfl
  have step : (validating company planId seats).advance world = (checking request, world) := by
    simp only [advance, after, racing.checkoutRequest_run setting, validated]
  rw [step]
  exact racing.quiet rfl (Nat.le_refl _) rfl rfl rfl (checkoutRequest_company ranAtStart)
    (fun halting => by cases halting)

theorem advance_checking {request : InvoiceRequest}
    (racing : Racing company start (before ++ checking request :: rest) world)
    (ofCompany : request.company = company) :
    Racing company start (before ++ ((checking request).advance world).1 :: rest)
      ((checking request).advance world).2 := by
  have ran := Invoicing.refuseSecondPending_run (racing.steady setting) request.company
  rw [ofCompany] at ran
  by_cases noPending : world.store.pendingOf company = []
  · have step : (checking request).advance world = (storing request, world) := by
      simp only [advance, after, ofCompany, ran, noPending, if_true]
    rw [step]
    exact racing.quiet rfl (Nat.le_refl _) rfl rfl rfl ofCompany (fun halting => by cases halting)
  · -- another checkout holds an invoice, so this one is refused
    have step : (checking request).advance world =
        (finished (.error (.failed (.duplicatePendingInvoice company))), world) := by
      simp only [advance, after, ofCompany, ran, noPending, if_false]
    rw [step]
    exact racing.quiet rfl (Nat.le_refl _) rfl rfl rfl rfl
      (fun _ none => noPending ((racing.pendingOf_eq_nil_iff setting).mpr none))

theorem advance_storing {request : InvoiceRequest}
    (racing : Racing company start (before ++ storing request :: rest) world)
    (ofCompany : request.company = company) :
    Racing company start (before ++ ((storing request).advance world).1 :: rest)
      ((storing request).advance world).2 := by
  obtain ⟨expiresAt, expiry⟩ := setting.expiry
  have expiryNow : world.clock.shift? world.config.invoiceTtl = some expiresAt := by
    rw [racing.clock, racing.config]
    exact expiry
  have ran := Invoicing.storePending_run (racing.steady setting) expiryNow request
  generalize named : Invoicing.pendingInvoice request (Uuid.ofSerial world.serial) world.clock expiresAt =
    invoice at ran
  have invoiceCompany : invoice.company = company := named ▸ ofCompany
  by_cases noPending : world.store.pendingOf company = []
  · -- no checkout holds an invoice: the store takes this one, under a fresh identifier
    have none := (racing.pendingOf_eq_nil_iff setting).mp noPending
    have idle := racing.idle none
    have drawn : ∃ serial, start.serial ≤ serial ∧ invoice.id = Uuid.ofSerial serial :=
      ⟨world.serial, racing.drawn, named ▸ rfl⟩
    have inserted : world.store.insertInvoice invoice =
        .ok { world.store with invoices := start.store.invoices ++ [invoice] } :=
      Stored.insert setting idle.invoices drawn invoiceCompany
    have step : (storing request).advance world = (billing invoice request.description,
        { world with
          serial := world.serial + 1
          store := { world.store with invoices := start.store.invoices ++ [invoice] } }) := by
      simp only [advance, after, ran, inserted]
    have alone : (before ++ rest).countP holds = 0 := by
      have counted := countP_middle holds before rest (storing request)
      simp only [none, show (storing request).holds = false from rfl, Bool.false_eq_true, if_false] at counted
      omega
    rw [step]
    exact racing.hold rfl (Nat.le_succ _) alone
      ⟨⟨rfl, invoiceCompany, named ▸ rfl, drawn⟩, idle.requests⟩
  · -- another checkout holds an invoice: the store refuses this one
    have refused : world.store.insertInvoice invoice = .error (.duplicatePendingInvoice company) := by
      unfold Store.insertInvoice
      rw [invoiceCompany, if_pos]
      simpa [← named] using noPending
    have step : (storing request).advance world =
        (finished (.error (.failed (.duplicatePendingInvoice company))),
          { world with serial := world.serial + 1 }) := by
      simp only [advance, after, ran, refused]
    rw [step]
    exact racing.quiet rfl (Nat.le_succ _) rfl rfl rfl rfl
      (fun _ none => noPending ((racing.pendingOf_eq_nil_iff setting).mpr none))

theorem advance_billing {invoice : Invoice} {description : String}
    (racing : Racing company start (before ++ billing invoice description :: rest) world)
    (holding : Holding company start world (billing invoice description)) :
    Racing company start (before ++ ((billing invoice description).advance world).1 :: rest)
      ((billing invoice description).advance world).2 := by
  obtain ⟨stored, unbilled⟩ := holding
  have step : (billing invoice description).advance world =
      (linking invoice (Invoicing.hostedFor invoice.id),
        { world with provider := { world.provider with
          requests := world.provider.requests ++ [Invoicing.askedFor invoice description world.config] } }) := by
    simp only [advance, after,
      Invoicing.bill_run (racing.steady setting) (racing.localProvider setting) (racing.willing setting)]
  have billed : world.provider.requests ++ [Invoicing.askedFor invoice description world.config] =
      start.provider.requests ++ [Invoicing.askedFor invoice description world.config] := by
    rw [unbilled]
  rw [step]
  exact racing.hold rfl (Nat.le_refl _) (racing.alone rfl)
    ⟨⟨stored.invoices, stored.company, stored.pending, stored.drawn⟩, rfl, ⟨_, rfl, billed⟩⟩

theorem advance_linking {invoice : Invoice} {created : ProviderInvoice}
    (racing : Racing company start (before ++ linking invoice created :: rest) world)
    (holding : Holding company start world (linking invoice created)) :
    Racing company start (before ++ ((linking invoice created).advance world).1 :: rest)
      ((linking invoice created).advance world).2 := by
  obtain ⟨stored, hosted, billed⟩ := holding
  subst hosted
  have attached : world.store.attachProviderInvoice invoice.id
      (Invoicing.hostedFor invoice.id).providerInvoiceId (Invoicing.hostedFor invoice.id).invoiceUrl
      ((Invoicing.hostedFor invoice.id).expiresAt.orElse fun _ => invoice.expiresAt) =
      .ok { world.store with invoices :=
        start.store.invoices ++ [Invoicing.linkedTo invoice (Invoicing.hostedFor invoice.id)] } :=
    Stored.attach setting stored rfl _ _
  have step : (linking invoice (Invoicing.hostedFor invoice.id)).advance world =
      (announcing (Invoicing.linkedTo invoice (Invoicing.hostedFor invoice.id)),
        { world with store := { world.store with invoices :=
          start.store.invoices ++ [Invoicing.linkedTo invoice (Invoicing.hostedFor invoice.id)] } }) := by
    simp only [advance, after, Invoicing.link_run (racing.steady setting), attached]
  rw [step]
  exact racing.hold rfl (Nat.le_refl _) (racing.alone rfl)
    ⟨⟨rfl, stored.company, stored.pending, stored.drawn⟩, billed⟩

theorem advance_announcing {invoice : Invoice}
    (racing : Racing company start (before ++ announcing invoice :: rest) world)
    (holding : Holding company start world (announcing invoice)) :
    Racing company start (before ++ ((announcing invoice).advance world).1 :: rest)
      ((announcing invoice).advance world).2 := by
  obtain ⟨stored, billed⟩ := holding
  have step : (announcing invoice).advance world =
      (finished (.ok invoice), { world with
        serial := world.serial + 1
        store := world.store.appendEvent (Invoicing.creationEvent invoice (Uuid.ofSerial world.serial)) }) := by
    simp only [advance, after, Invoicing.announce_run (racing.steady setting)]
  rw [step]
  exact racing.hold rfl (Nat.le_succ _) (racing.alone rfl)
    ⟨⟨stored.invoices, stored.company, stored.pending, stored.drawn⟩, billed⟩

/-- One phase of any racing checkout keeps the invariant. -/
theorem advance {stage : CheckoutStage} (racing : Racing company start (before ++ stage :: rest) world) :
    Racing company start (before ++ (stage.advance world).1 :: rest) (stage.advance world).2 := by
  rcases racing.each stage (mem_middle.mpr (.inl rfl)) with waiting | holding
  · cases stage with
    | validating asking planId seats =>
      obtain ⟨same, passes⟩ := waiting
      subst same
      exact advance_validating setting racing passes
    | checking request => exact advance_checking setting racing waiting
    | storing request => exact advance_storing setting racing waiting
    | finished outcome => exact racing
    | billing invoice description => exact absurd waiting id
    | linking invoice created => exact absurd waiting id
    | announcing invoice => exact absurd waiting id
  · cases stage with
    | billing invoice description => exact advance_billing setting racing holding
    | linking invoice created => exact advance_linking setting racing holding
    | announcing invoice => exact advance_announcing setting racing holding
    | finished outcome => exact racing
    | validating asking planId seats => exact absurd holding id
    | checking request => exact absurd holding id
    | storing request => exact absurd holding id

end Advance

/-- Every schedule of turns keeps the invariant. -/
theorem interleaved (setting : Setting company start) (racing : Racing company start stages world)
    (turns : List Nat) :
    Racing company start (interleave stages world turns).1 (interleave stages world turns).2 := by
  induction turns generalizing stages world with
  | nil => exact racing
  | cons turn turns inductionHypothesis =>
    cases found : stages[turn]? with
    | none =>
      simp only [Ledger.interleave, found]
      exact inductionHypothesis racing
    | some stage =>
      obtain ⟨bound, named⟩ := List.getElem?_eq_some_iff.mp found
      -- the turn's checkout stands between the others before and after it
      have around : stages = stages.take turn ++ stage :: stages.drop (turn + 1) := by
        rw [← named, ← List.drop_eq_getElem_cons bound, List.take_append_drop]
      have replaced : stages.set turn (stage.advance world).1 =
          stages.take turn ++ (stage.advance world).1 :: stages.drop (turn + 1) := by
        rw [List.set_eq_take_append_cons_drop, if_pos bound]
      simp only [Ledger.interleave, found]
      rw [replaced]
      rw [around] at racing
      exact inductionHypothesis (racing.advance setting)

/-- Checkouts that have not begun, each bound to pass its validation, start the race. -/
theorem opening {checkouts : List (String × Option Int)}
    (validated : ∀ checkout ∈ checkouts, Passes company checkout.1 checkout.2 start) :
    Racing company start (Ledger.opening company checkouts) start := by
  have waiting : ∀ stage ∈ Ledger.opening company checkouts, Waiting company start stage := by
    intro stage member
    obtain ⟨checkout, chosen, made⟩ := List.mem_map.mp member
    subst made
    exact ⟨rfl, validated checkout chosen⟩
  have none : (Ledger.opening company checkouts).countP holds = 0 :=
    List.countP_eq_zero.mpr fun stage member => by simp [(waiting stage member).holds]
  refine ⟨rfl, Nat.le_refl _, by rw [none]; exact Nat.zero_le 1, fun stage member => .inl (waiting stage member), ?_⟩
  intro _
  refine ⟨rfl, rfl, fun stage member => ?_⟩
  obtain ⟨checkout, _, made⟩ := List.mem_map.mp member
  subst made
  rfl

/-- A finished racing checkout either returned the stored invoice or was refused as a
duplicate. -/
theorem finished_cases (racing : Racing company start stages world) {stage : CheckoutStage}
    (member : stage ∈ stages) (ended : stage.isFinished = true) :
    (∃ invoice, stage = finished (.ok invoice) ∧ Stored company start world invoice ∧ Billed start world invoice) ∨
      stage = finished (.error (.failed (.duplicatePendingInvoice company))) := by
  cases stage with
  | finished outcome =>
    rcases racing.each _ member with waiting | holding
    · cases outcome with
      | error halt =>
        have refused : halt = .failed (.duplicatePendingInvoice company) := waiting
        exact .inr (refused ▸ rfl)
      | ok invoice => exact absurd waiting id
    · cases outcome with
      | ok invoice => exact .inl ⟨invoice, rfl, holding⟩
      | error halt => exact absurd holding id
  | validating asking planId seats => cases ended
  | checking request => cases ended
  | storing request => cases ended
  | billing invoice description => cases ended
  | linking invoice created => cases ended
  | announcing invoice => cases ended

end Racing

end Steps

/-- How racing checkouts of `company` end: exactly one returned an invoice and every other
one was refused as a duplicate; that invoice is the company's only pending one, and the
provider was asked for an invoice once during the run, for it. -/
def EndsWithOneInvoice (company : Uuid) (start : World) (stages : List CheckoutStage) (world : World) : Prop :=
  ∃ invoice asked, stages.countP returned = 1 ∧
    (∀ stage ∈ stages, stage = finished (.ok invoice) ∨
      stage = finished (.error (.failed (.duplicatePendingInvoice company)))) ∧
    world.store.pendingOf company = [invoice] ∧
    world.provider.requests = start.provider.requests ++ [asked] ∧ asked.invoice = invoice.id

/-- Checkouts of one company that race from a company without a pending invoice, each passing
its validation, in a world where every collaborator does its plain work, end with exactly one
invoice, whatever the order of their calls. -/
theorem racing_checkouts_store_one_invoice {company : Uuid} {start : World} (setting : Setting company start)
    {checkouts : List (String × Option Int)} (someCheckout : checkouts ≠ [])
    (validated : ∀ checkout ∈ checkouts, Passes company checkout.1 checkout.2 start) (turns : List Nat)
    {stages : List CheckoutStage} {world : World}
    (ran : interleave (opening company checkouts) start turns = (stages, world))
    (allFinished : ∀ stage ∈ stages, stage.isFinished = true) :
    EndsWithOneInvoice company start stages world := by
  have racing : Racing company start stages world := by
    have raced := (Racing.opening validated).interleaved setting turns
    rw [ran] at raced
    exact raced
  have nonempty : stages ≠ [] := by
    intro empty
    have lengths := interleave_length (opening company checkouts) start turns
    rw [ran, empty, opening, List.length_map] at lengths
    exact someCheckout (List.eq_nil_of_length_eq_zero lengths.symm)
  -- some checkout holds an invoice: had none, every finished checkout would have halted
  have someHolder : stages.countP holds ≠ 0 := by
    intro none
    obtain ⟨first, member⟩ := List.exists_mem_of_ne_nil stages nonempty
    have unhalted := (racing.idle none).unhalted first member
    rcases racing.finished_cases member (allFinished first member) with ⟨invoice, same, _⟩ | refused
    · rw [List.countP_eq_zero] at none
      exact none first member (by rw [same]; rfl)
    · rw [refused] at unhalted
      cases unhalted
  obtain ⟨holder, holderMember, holdsInvoice⟩ := List.countP_pos_iff.mp (Nat.pos_of_ne_zero someHolder)
  obtain ⟨invoice, -, stored, asked, forInvoice, made⟩ :
      ∃ invoice, holder = finished (.ok invoice) ∧ Stored company start world invoice ∧
        Billed start world invoice := by
    rcases racing.finished_cases holderMember (allFinished holder holderMember) with found | refused
    · exact found
    · rw [refused] at holdsInvoice
      cases holdsInvoice
  -- every finished stage returned the stored invoice or was refused
  have outcomes : ∀ stage ∈ stages, stage = finished (.ok invoice) ∨
      stage = finished (.error (.failed (.duplicatePendingInvoice company))) := by
    intro stage member
    rcases racing.finished_cases member (allFinished stage member) with ⟨other, same, otherStored, -⟩ | refused
    · have sameInvoice : other = invoice := by
        have both := otherStored.invoices.symm.trans stored.invoices
        simpa using both
      exact .inl (sameInvoice ▸ same)
    · exact .inr refused
  have returnedHolds : stages.countP returned = stages.countP holds := by
    apply List.countP_congr
    intro stage member
    rcases outcomes stage member with same | same <;> simp [same, returned, holds, held]
  refine ⟨invoice, asked, ?_, outcomes, stored.pendingOf setting.nonePending, made, forInvoice⟩
  rw [returnedHolds]
  have single := racing.single
  omega

/-! ## A single pending invoice per company -/

/-- A company never has two pending invoices, whatever store calls run from a store holding
only the catalog, in whatever order and whichever of them fail; and checkouts of a company
without one that race in a world where every collaborator does its plain work, with an
expiry the calendar holds and fresh identifiers, end with exactly one invoice. -/
theorem single_pending_invoice_per_company :
    (∀ catalog : Store, catalog.subscriptions = [] → catalog.invoices = [] →
      ∀ writes : List Store.Write, (catalog.replay writes).SinglePending) ∧
    (∀ (company : Uuid) (start : World), Setting company start →
      ∀ checkouts : List (String × Option Int), checkouts ≠ [] →
      (∀ checkout ∈ checkouts, Passes company checkout.1 checkout.2 start) →
      ∀ (turns : List Nat) (stages : List CheckoutStage) (world : World),
        interleave (opening company checkouts) start turns = (stages, world) →
        (∀ stage ∈ stages, stage.isFinished = true) → EndsWithOneInvoice company start stages world) := by
  refine ⟨fun catalog noSubscriptions noInvoices writes => ?_,
    fun _ _ setting _ someCheckout validated turns _ _ ran allFinished =>
      racing_checkouts_store_one_invoice setting someCheckout validated turns ran allFinished⟩
  have keyed : catalog.Keyed :=
    ⟨by rw [noSubscriptions, List.map_nil]; exact List.nodup_nil,
      by rw [noInvoices, List.map_nil]; exact List.nodup_nil⟩
  have single : catalog.SinglePending := by
    intro company
    rw [Store.pendingOf_length, noInvoices, List.countP_nil]
    exact Nat.zero_le 1
  exact Store.SinglePending.replay keyed single writes

/-- The basic plan: five seats included, each further seat extra. -/
def basicPlan : Plan := ⟨"basic", "basic", 10000, 1000, 5, true, []⟩

/-- A world at the start of 2026 with the basic plan on sale, nothing else stored, nothing
armed to fail, and the local provider. -/
def quietStart : World :=
  { config := Config.standard "test-callback-token", store := Store.empty.seedPlan basicPlan,
    backend := .memory, server := Database.Server.empty, headcount := [], provider := ⟨none, [], none⟩,
    faults := [], clock := ⟨1767225600 * nanosPerSecond, 0⟩, serial := 0, timeLeft := none, logs := [] }

/-- A company of the examples. -/
def exampleCompany : Uuid := Uuid.ofSerial 1000

/-- A pending invoice of `exampleCompany` for the basic plan, under identifier `id`. -/
def examplePending (id : Uuid) : Invoice :=
  Invoicing.pendingInvoice ⟨exampleCompany, none, .checkout, "basic", 5, 10000, "basic plan, 5 seats"⟩ id
    quietStart.clock quietStart.clock

theorem two_pending_writes_and_two_racing_checkouts :
    ((Store.empty.seedPlan basicPlan).replay
      [.insertInvoice (examplePending (Uuid.ofSerial 1)), .insertInvoice (examplePending (Uuid.ofSerial 2))]).SinglePending ∧
    EndsWithOneInvoice exampleCompany quietStart
      (interleave (opening exampleCompany [("basic", none), ("basic", none)]) quietStart
        [0, 1, 0, 1, 0, 1, 0, 1, 0, 1, 0, 1]).1
      (interleave (opening exampleCompany [("basic", none), ("basic", none)]) quietStart
        [0, 1, 0, 1, 0, 1, 0, 1, 0, 1, 0, 1]).2 :=
  ⟨single_pending_invoice_per_company.1 _ rfl rfl _,
    single_pending_invoice_per_company.2 exampleCompany quietStart
      ⟨⟨rfl, rfl⟩, rfl, rfl, rfl, ⟨_, rfl⟩, fun _ member => absurd member List.not_mem_nil⟩
      _ (by simp)
      (fun checkout member => by
        simp only [List.mem_cons, List.not_mem_nil, or_false, or_self] at member
        subst member
        exact ⟨_, rfl⟩)
      _ _ _ rfl (interleave_finished _ _ _ (by decide))⟩

/-- `quietStart` with its clock at noon on the last day the calendar holds. -/
def lastDayStart : World := { quietStart with clock := ⟨253402257600 * nanosPerSecond, 0⟩ }

/-- `quietStart` with the store armed to fail the next invoice it is asked to store. -/
def failingStoreStart : World := { quietStart with faults := [⟨"insert_invoice", .database, 1, "injected"⟩] }

/-- A lone checkout that passes its validation, for a company without a pending invoice and
with the provider ready, still returns no invoice when its invoice would expire past the
calendar's end (the whole run halts) or when the store fails to take the invoice. -/
theorem lone_checkouts_without_invoice :
    (Passes exampleCompany "basic" none lastDayStart ∧ lastDayStart.store.pendingOf exampleCompany = [] ∧
      lastDayStart.provider.endpoint = none ∧ lastDayStart.provider.refusal = none ∧
      (interleave (opening exampleCompany [("basic", none)]) lastDayStart (List.replicate 6 0)).1 =
        [finished (.error .overflow)]) ∧
    (Passes exampleCompany "basic" none failingStoreStart ∧
      failingStoreStart.store.pendingOf exampleCompany = [] ∧
      failingStoreStart.provider.endpoint = none ∧ failingStoreStart.provider.refusal = none ∧
      (interleave (opening exampleCompany [("basic", none)]) failingStoreStart (List.replicate 6 0)).1 =
        [finished (.error (.failed (.database "injected")))]) :=
  ⟨⟨⟨_, rfl⟩, rfl, rfl, rfl, rfl⟩, ⟨⟨_, rfl⟩, rfl, rfl, rfl, rfl⟩⟩

end SeatBilling.Ledger
