import SeatBilling.Proofs.Services.CollaboratorFailures

/-!
# Settling an invoice on the database: all or nothing

Settling an invoice on the database is one transaction: `BEGIN`, the invoice row locked with
`SELECT status ... FOR UPDATE`, the subscription written, the invoice marked paid, `COMMIT`. What
it does is told here by how the database answers each statement (`Settlement`), for every script
of answers and every state of the connection:

- it returns `true` after a `COMMIT` that went through, and sends `COMMIT` only after the lock
  found the invoice pending, the subscription write touched exactly one row and the invoice was
  marked paid;
- it returns `false` after a `ROLLBACK` when the invoice row is missing or not pending, and reports
  the race after a `ROLLBACK` when the subscription write touched another number of rows;
- when a statement fails, or the locked row cannot be read, the transaction is abandoned (rolled
  back if the connection is still open) and the database's failure reported.

`Settlement` is the graph of the settlement's run (`settleInvoice_run_iff`), and the statements it
lists are the ones the database answered, in order (`Settlement.answered`).
-/

namespace SeatBilling.Database

variable {α β : Type}

theorem run_bind (step : Exchange α) (next : α → Exchange β) (link : Link) :
    (step >>= next).run.run link =
      match step.run.run link with
      | (.ok value, after) => (next value).run.run after
      | (.error abort, after) => (.error abort, after) := by
  simp only [ExceptT.run_bind, StateT.run_bind]
  rcases step.run.run link with ⟨_ | _, after⟩ <;> rfl

@[simp] theorem run_get (link : Link) : (get : Exchange Link).run.run link = (.ok link, link) := rfl

@[simp] theorem run_set (link new : Link) : (set new : Exchange PUnit).run.run link = (.ok ⟨⟩, new) := rfl

@[simp] theorem run_modify (link : Link) (change : Link → Link) :
    (modify change : Exchange PUnit).run.run link = (.ok ⟨⟩, change link) := rfl

@[simp] theorem run_failWith (link : Link) (error : DbError) :
    (failWith error : Exchange α).run.run link = (.error (.failed error), link) := rfl

theorem tryCatch_run (step : Exchange α) (handler : Abort → Exchange α) (link : Link) :
    (tryCatch step handler).run.run link =
      match step.run.run link with
      | (.error abort, after) => (handler abort).run.run after
      | outcome => outcome := by
  simp only [tryCatch, tryCatchThe, MonadExceptOf.tryCatch, ExceptT.tryCatch, ExceptT.run, ExceptT.mk,
    StateT.run, bind, StateT.bind]
  rcases step link with ⟨_ | _, after⟩ <;> rfl

/-- The server after answering the statements `sqls`, in order. -/
def Server.answerAll (server : Server) (sqls : List String) : Server :=
  sqls.foldl (fun server sql => (server.answer sql).2) server

theorem Server.answerAll_append (server : Server) (first second : List String) :
    server.answerAll (first ++ second) = (server.answerAll first).answerAll second :=
  List.foldl_append

/-! ## Statements and the server -/

/-- A session step that sends the one statement `sql`: it ends with a value or a database error,
never out of the calendar, and the server after it has answered `sql`. -/
structure Sends (sql : String) (step : Exchange α) : Prop where
  noOverflow : ∀ link after, step.run.run link ≠ (.error .overflow, after)
  answered : ∀ link, (step.run.run link).2.server = (link.server.answer sql).2

/-- A session step that sends nothing: it gives a value and leaves the server as it was. -/
def Quiet (step : Exchange α) : Prop :=
  ∀ link, ∃ value, (step.run.run link).1 = .ok value ∧ (step.run.run link).2.server = link.server

theorem connect_quiet : Quiet connect := by
  intro link
  rcases link with ⟨server, _ | connection⟩ <;> exact ⟨_, rfl, rfl⟩

theorem prepare_quiet (sql : String) : Quiet (prepare sql) := by
  intro link
  unfold prepare
  rw [run_bind]
  obtain ⟨connection, connected, kept⟩ := connect_quiet link
  rcases opened : connect.run.run link with ⟨_ | connection, middle⟩
  · rw [opened] at connected
    cases connected
  · rw [opened] at kept
    dsimp only
    split <;> exact ⟨_, rfl, kept⟩

theorem perform_sends (sql : String) (columns : List Column) : Sends sql (perform sql columns) where
  noOverflow link after := by
    unfold perform
    rcases answered : link.server.answer sql with ⟨_ | rule, server⟩
    all_goals simp only [run_bind, run_get, run_set, answered]
    · nofun
    · -- a rule drops the connection, fails the statement, or answers it
      split
      · nofun
      · split <;> nofun
  answered link := by
    unfold perform
    rcases answered : link.server.answer sql with ⟨_ | rule, server⟩
    all_goals simp only [run_bind, run_get, run_set, answered]
    · rfl
    · split
      · rfl
      · split <;> rfl

namespace Sends

variable {sql : String}

theorem after_quiet {first : Exchange α} {next : α → Exchange β} (quiet : Quiet first)
    (sends : ∀ value, Sends sql (next value)) : Sends sql (first >>= next) where
  noOverflow link after := by
    obtain ⟨value, gave, kept⟩ := quiet link
    rw [run_bind]
    rcases ran : first.run.run link with ⟨_ | value, middle⟩
    · rw [ran] at gave
      cases gave
    · exact (sends value).noOverflow middle after
  answered link := by
    obtain ⟨value, gave, kept⟩ := quiet link
    rw [run_bind]
    rcases ran : first.run.run link with ⟨_ | value, middle⟩
    · rw [ran] at gave
      cases gave
    · rw [ran] at kept
      dsimp only
      rw [(sends value).answered middle, kept]

theorem map {step : Exchange α} {f : α → β} (sends : Sends sql step) :
    Sends sql (step >>= fun value => pure (f value)) where
  noOverflow link after := by
    rw [run_bind]
    rcases ran : step.run.run link with ⟨(_ | _) | value, middle⟩
    · nofun
    · exact absurd ran (sends.noOverflow link middle)
    · nofun
  answered link := by
    rw [run_bind, ← sends.answered link]
    rcases step.run.run link with ⟨_ | value, middle⟩ <;> rfl

theorem server_eq {step : Exchange α} (sends : Sends sql step) {link after : Link} {result : Except Abort α}
    (ran : step.run.run link = (result, after)) : after.server = link.server.answerAll [sql] := by
  have answered := sends.answered link
  rw [ran] at answered
  exact answered

end Sends

theorem run_sends (sql : String) : Sends sql (run sql) :=
  .after_quiet (prepare_quiet sql) fun columns => perform_sends sql columns

theorem runPlain_sends (sql : String) : Sends sql (runPlain sql) :=
  .after_quiet connect_quiet fun _ => perform_sends sql []

theorem fetchOptional_sends (sql : String) : Sends sql (fetchOptional sql) := (run_sends sql).map

theorem execute_sends (sql : String) : Sends sql (execute sql) := (run_sends sql).map

theorem beginTransaction_sends : Sends "BEGIN" beginTransaction := (runPlain_sends _).map

theorem commitTransaction_sends : Sends "COMMIT" commitTransaction := (runPlain_sends _).map

theorem rollbackTransaction_sends : Sends "ROLLBACK" rollbackTransaction := (runPlain_sends _).map

/-- Abandoning a transaction always goes through; it sends `ROLLBACK` exactly when a connection
is open. -/
theorem abandonTransaction_run (link : Link) :
    ∃ after, abandonTransaction.run.run link = (.ok (), after) ∧
      after.server = link.server.answerAll (if link.connection.isSome then ["ROLLBACK"] else []) := by
  unfold abandonTransaction
  rw [run_bind, run_get]
  dsimp only
  cases connected : link.connection.isSome
  · exact ⟨link, rfl, rfl⟩
  · simp only [↓reduceIte, tryCatch_run]
    -- a failed rollback only drops the connection
    rcases rolled : rollbackTransaction.run.run link with ⟨(_ | _) | _, after⟩
    all_goals have answered := rollbackTransaction_sends.server_eq rolled
    · exact ⟨_, rfl, answered⟩
    · exact absurd rolled (rollbackTransaction_sends.noOverflow link after)
    · exact ⟨_, rfl, answered⟩

end SeatBilling.Database

namespace SeatBilling.SqlStore

open SeatBilling.Database

/-! ## The settlement's statements and its stages -/

/-- A statement of a settlement. -/
inductive Statement where
  | begin
  | lock
  | write
  | markPaid
  | commit
  | rollback
  deriving DecidableEq, Repr

/-- The statement that writes the subscription of `write`. -/
def writeSql : SubscriptionWrite → String
  | .insert _ => insertSubscriptionSql
  | .update _ _ => updateSubscriptionSql

/-- The text of a statement of the settlement that writes `write`. -/
def Statement.sql (write : SubscriptionWrite) : Statement → String
  | .begin => "BEGIN"
  | .lock => lockInvoiceSql
  | .write => writeSql write
  | .markPaid => markPaidSql
  | .commit => "COMMIT"
  | .rollback => "ROLLBACK"

/-- The status the lock statement read: none without a row, or the text of its row's first
column. -/
def lockedStatus : Option Row → Except DbError (Option String)
  | none => .ok none
  | some row => some <$> row.required (.position 0) .text Value.text?

/-- The race reported when the subscription write touches another number of rows than one. -/
def raceMessage (id : Uuid) (write : SubscriptionWrite) : String :=
  "subscription for company " ++ write.subscription.company.hyphenated ++ " changed while settling invoice " ++
    id.hyphenated

theorem raceMessage_eq (id : Uuid) (write : SubscriptionWrite) :
    "subscription for company " ++ write.subscription.company.hyphenated ++ " changed while settling invoice " ++
      id.hyphenated = raceMessage id write := rfl

section Stages

variable (write : SubscriptionWrite) (start : Link)

/-- The transaction is open. -/
def Opened (link : Link) : Prop := beginTransaction.run.run start = (.ok (), link)

/-- The invoice row is locked and was found pending. -/
def Locked (link : Link) : Prop :=
  ∃ opened found, Opened start opened ∧ (fetchOptional lockInvoiceSql).run.run opened = (.ok found, link) ∧
    lockedStatus found = .ok (some InvoiceStatus.pending.name)

/-- The subscription is written, on exactly one row. -/
def Written (link : Link) : Prop :=
  ∃ locked, Locked start locked ∧ (execute (writeSql write)).run.run locked = (.ok 1, link)

/-- The invoice is marked paid. -/
def Marked (link : Link) : Prop :=
  ∃ written rows, Written write start written ∧ (execute markPaidSql).run.run written = (.ok rows, link)

end Stages

/-- The transaction of a settlement failed with `error` after the statements `sent`, leaving the
session at `link`. -/
inductive Breaks (write : SubscriptionWrite) (start : Link) : List Statement → DbError → Link → Prop
  | lockFails {opened link : Link} {error : DbError} : Opened start opened →
      (fetchOptional lockInvoiceSql).run.run opened = (.error (.failed error), link) →
      Breaks write start [.begin, .lock] error link
  | unreadable {opened link : Link} {found : Option Row} {error : DbError} : Opened start opened →
      (fetchOptional lockInvoiceSql).run.run opened = (.ok found, link) → lockedStatus found = .error error →
      Breaks write start [.begin, .lock] error link
  | keepFails {opened locked link : Link} {found : Option Row} {status : Option String} {error : DbError} :
      Opened start opened → (fetchOptional lockInvoiceSql).run.run opened = (.ok found, locked) →
      lockedStatus found = .ok status → status ≠ some InvoiceStatus.pending.name →
      rollbackTransaction.run.run locked = (.error (.failed error), link) →
      Breaks write start [.begin, .lock, .rollback] error link
  | writeFails {locked link : Link} {error : DbError} : Locked start locked →
      (execute (writeSql write)).run.run locked = (.error (.failed error), link) →
      Breaks write start [.begin, .lock, .write] error link
  | raceFails {locked written link : Link} {rows : Nat} {error : DbError} : Locked start locked →
      (execute (writeSql write)).run.run locked = (.ok rows, written) → rows ≠ 1 →
      rollbackTransaction.run.run written = (.error (.failed error), link) →
      Breaks write start [.begin, .lock, .write, .rollback] error link
  | markFails {written link : Link} {error : DbError} : Written write start written →
      (execute markPaidSql).run.run written = (.error (.failed error), link) →
      Breaks write start [.begin, .lock, .write, .markPaid] error link
  | commitFails {marked link : Link} {error : DbError} : Marked write start marked →
      commitTransaction.run.run marked = (.error (.failed error), link) →
      Breaks write start [.begin, .lock, .write, .markPaid, .commit] error link

/-- What settling invoice `id` with the subscription write `write` does from the session `start`,
told by how the database answered each statement: its result, the session after it, and the
statements it sent, in order. -/
inductive Settlement (id : Uuid) (write : SubscriptionWrite) (start : Link) :
    Except Halt Bool → Link → List Statement → Prop
  | beginFails {link : Link} {error : DbError} : beginTransaction.run.run start = (.error (.failed error), link) →
      Settlement id write start (.error (.failed (.database error.message))) link [.begin]
  | kept {opened locked link : Link} {found : Option Row} {status : Option String} :
      Opened start opened → (fetchOptional lockInvoiceSql).run.run opened = (.ok found, locked) →
      lockedStatus found = .ok status → status ≠ some InvoiceStatus.pending.name →
      rollbackTransaction.run.run locked = (.ok (), link) →
      Settlement id write start (.ok false) link [.begin, .lock, .rollback]
  | raced {locked written link : Link} {rows : Nat} : Locked start locked →
      (execute (writeSql write)).run.run locked = (.ok rows, written) → rows ≠ 1 →
      rollbackTransaction.run.run written = (.ok (), link) →
      Settlement id write start (.error (.failed (.concurrentModification (raceMessage id write)))) link
        [.begin, .lock, .write, .rollback]
  | committed {marked link : Link} : Marked write start marked → commitTransaction.run.run marked = (.ok (), link) →
      Settlement id write start (.ok true) link [.begin, .lock, .write, .markPaid, .commit]
  | abandoned {sent : List Statement} {error : DbError} {inside link : Link} : Breaks write start sent error inside →
      abandonTransaction.run.run inside = (.ok (), link) →
      Settlement id write start (.error (.failed (.database error.message))) link
        (sent ++ if inside.connection.isSome then [.rollback] else [])

/-! ## Running store steps -/

section Running

variable {α : Type}

theorem tryCatch_run (step : StoreM α) (handler : Halt → StoreM α) (link : Link) :
    (tryCatch step handler).run.run link =
      match step.run.run link with
      | (.error halt, after) => (handler halt).run.run after
      | outcome => outcome := by
  simp only [tryCatch, tryCatchThe, MonadExceptOf.tryCatch, ExceptT.tryCatch, ExceptT.run, ExceptT.mk,
    StateT.run, bind, StateT.bind]
  rcases step link with ⟨_ | _, after⟩ <;> rfl

theorem throw_run (halt : Halt) (link : Link) : (throw halt : StoreM α).run.run link = (.error halt, link) := rfl

theorem pure_run (value : α) (link : Link) : (pure value : StoreM α).run.run link = (.ok value, link) := rfl

theorem map_run {β : Type} (f : α → β) (step : StoreM α) (link : Link) :
    (f <$> step).run.run link =
      match step.run.run link with
      | (.ok value, after) => (.ok (f value), after)
      | (.error halt, after) => (.error halt, after) := by
  simp only [ExceptT.run_map, StateT.run_map]
  rcases step.run.run link with ⟨_ | _, after⟩ <;> rfl

theorem field_run (reading : Except DbError α) (link : Link) :
    (field reading).run.run link =
      (match reading with
        | .ok value => .ok value
        | .error error => .error (.failed (.database error.message)), link) := by
  cases reading <;> rfl

theorem record_run (read : Except Failure α) (link : Link) :
    (record read).run.run link =
      (match read with
        | .ok value => .ok value
        | .error failure => .error (.failed failure), link) := by
  cases read <;> rfl

theorem writeSubscription_eq (write : SubscriptionWrite) :
    writeSubscription write = (do return (← exchange (execute (writeSql write))) == 1) := by
  cases write <;> rfl

end Running

theorem lockedStatus_ok {found : Option Row} {status : Option String} (read : lockedStatus found = .ok status) :
    (found = none ∧ status = none) ∨
      ∃ row text, found = some row ∧ status = some text ∧ row.required (.position 0) .text Value.text? = .ok text := by
  rcases found with _ | row
  · cases read
    exact .inl ⟨rfl, rfl⟩
  · cases reading : row.required (.position 0) .text Value.text? with
    | error error =>
      rw [lockedStatus, reading] at read
      cases read
    | ok text =>
      rw [lockedStatus, reading] at read
      cases read
      exact .inr ⟨row, text, rfl, rfl, reading⟩

theorem lockedStatus_error {found : Option Row} {error : DbError} (unread : lockedStatus found = .error error) :
    ∃ row, found = some row ∧ row.required (.position 0) .text Value.text? = .error error := by
  rcases found with _ | row
  · cases unread
  · cases reading : row.required (.position 0) .text Value.text? with
    | error error =>
      rw [lockedStatus, reading] at unread
      cases unread
      exact ⟨row, rfl, reading⟩
    | ok text =>
      rw [lockedStatus, reading] at unread
      cases unread

/-- The answers on the way to a locked pending invoice row. -/
theorem Locked.chain {start locked : Link} (locking : Locked start locked) :
    ∃ opened row, beginTransaction.run.run start = (.ok (), opened) ∧
      (fetchOptional lockInvoiceSql).run.run opened = (.ok (some row), locked) ∧
      row.required (.position 0) .text Value.text? = .ok InvoiceStatus.pending.name := by
  obtain ⟨opened, found, begun, fetched, pending⟩ := locking
  rcases lockedStatus_ok pending with ⟨-, ⟨⟩⟩ | ⟨row, _, rfl, ⟨⟩, reading⟩
  exact ⟨opened, row, begun, fetched, reading⟩

/-! ## The settlement's run -/

section Runs

variable {id : Uuid} {write : SubscriptionWrite} {start : Link}

/-- A settlement whose transaction breaks fails with the database's failure, once the transaction
is abandoned. -/
theorem Breaks.run_eq {sent : List Statement} {error : DbError} {inside : Link}
    (broken : Breaks write start sent error inside) :
    (settleInvoice id write).run.run start =
      (.error (.failed (.database error.message)), (abandonTransaction.run.run inside).2) := by
  obtain ⟨after, abandoned, -⟩ := abandonTransaction_run inside
  rw [abandoned]
  unfold settleInvoice inTransaction
  -- each case is brought to the answers of its statements, and the settlement run on them
  rcases broken with ⟨opening, fetched⟩ | ⟨opening, fetched, unread⟩ | ⟨opening, fetched, read, other, rolled⟩ |
    ⟨locking, writing⟩ | ⟨locking, writing, other, rolled⟩ | ⟨written, marking⟩ | ⟨marked, committing⟩
  case' lockFails | unreadable | keepFails => have begun : beginTransaction.run.run start = (.ok (), _) := opening
  case' unreadable => obtain ⟨row, rfl, reading⟩ := lockedStatus_error unread
  case' keepFails => rcases lockedStatus_ok read with ⟨rfl, rfl⟩ | ⟨row, text, rfl, rfl, reading⟩
  case' writeFails | raceFails => obtain ⟨opened, row, begun, fetched, reading⟩ := locking.chain
  case' markFails =>
    obtain ⟨locked, locking, writing⟩ := written
    obtain ⟨opened, row, begun, fetched, reading⟩ := locking.chain
  case' commitFails =>
    obtain ⟨written, rows, ⟨locked, locking, writing⟩, marking⟩ := marked
    obtain ⟨opened, row, begun, fetched, reading⟩ := locking.chain
  all_goals simp only [run_bind, exchange_run, tryCatch_run, map_run, field_run, writeSubscription_eq, pure_run,
    throw_run, beq_self_eq_true, ↓reduceIte, bne_iff_ne, Bool.not_eq_true', beq_eq_false_iff_ne, ne_eq,
    not_false_eq_true, not_true_eq_false, Bool.true_eq_false, *]

/-- A settlement ends as its answers say. -/
theorem Settlement.run_eq {result : Except Halt Bool} {link : Link} {sent : List Statement}
    (settled : Settlement id write start result link sent) :
    (settleInvoice id write).run.run start = (result, link) := by
  rcases settled with ⟨begun⟩ | ⟨opening, fetched, read, other, rolled⟩ | ⟨locking, writing, other, rolled⟩ |
    ⟨marked, committing⟩ | ⟨broken, abandoned⟩
  case' abandoned => rw [broken.run_eq, abandoned]
  all_goals unfold settleInvoice inTransaction
  case' kept =>
    have begun : beginTransaction.run.run start = (.ok (), _) := opening
    rcases lockedStatus_ok read with ⟨rfl, rfl⟩ | ⟨row, text, rfl, rfl, reading⟩
  case' raced =>
    obtain ⟨opened, row, begun, fetched, reading⟩ := locking.chain
    rw [← raceMessage_eq]
  case' committed =>
    obtain ⟨written, rows, ⟨locked, locking, writing⟩, marking⟩ := marked
    obtain ⟨opened, row, begun, fetched, reading⟩ := locking.chain
  all_goals simp only [run_bind, exchange_run, tryCatch_run, map_run, field_run, writeSubscription_eq, pure_run,
    record_run, beq_self_eq_true, ↓reduceIte, bne_iff_ne, Bool.not_eq_true', beq_eq_false_iff_ne, ne_eq,
    not_false_eq_true, not_true_eq_false, Bool.true_eq_false, *]

end Runs

/-! ## Every run is a settlement -/

section Settles

variable (id : Uuid) (write : SubscriptionWrite) (start : Link)

/-- A settlement from the answers so far and the ones to come. -/
def Settles : Prop := ∃ result link sent, Settlement id write start result link sent

variable {id write start}

theorem Breaks.settles {sent : List Statement} {error : DbError} {inside : Link}
    (broken : Breaks write start sent error inside) : Settles id write start := by
  obtain ⟨link, abandoned, -⟩ := abandonTransaction_run inside
  exact ⟨_, _, _, .abandoned broken abandoned⟩

theorem Marked.settles {marked : Link} (marking : Marked write start marked) : Settles id write start := by
  rcases committing : commitTransaction.run.run marked with ⟨(error | _) | ⟨⟩, link⟩
  · exact (Breaks.commitFails marking committing).settles
  · exact absurd committing (commitTransaction_sends.noOverflow marked link)
  · exact ⟨_, _, _, .committed marking committing⟩

theorem Written.settles {written : Link} (writing : Written write start written) : Settles id write start := by
  rcases marking : (execute markPaidSql).run.run written with ⟨(error | _) | rows, marked⟩
  · exact (Breaks.markFails writing marking).settles
  · exact absurd marking ((execute_sends _).noOverflow written marked)
  · exact Marked.settles ⟨written, rows, writing, marking⟩

theorem Locked.settles {locked : Link} (locking : Locked start locked) : Settles id write start := by
  rcases writing : (execute (writeSql write)).run.run locked with ⟨(error | _) | rows, written⟩
  · exact (Breaks.writeFails locking writing).settles
  · exact absurd writing ((execute_sends _).noOverflow locked written)
  · -- one row written goes on to mark the invoice paid; any other count is a race
    by_cases one : rows = 1
    · subst one
      exact Written.settles ⟨locked, locking, writing⟩
    · rcases rolled : rollbackTransaction.run.run written with ⟨(error | _) | ⟨⟩, link⟩
      · exact (Breaks.raceFails locking writing one rolled).settles
      · exact absurd rolled (rollbackTransaction_sends.noOverflow written link)
      · exact ⟨_, _, _, .raced locking writing one rolled⟩

theorem Opened.settles {opened : Link} (opening : Opened start opened) : Settles id write start := by
  rcases fetched : (fetchOptional lockInvoiceSql).run.run opened with ⟨(error | _) | found, locked⟩
  · exact (Breaks.lockFails opening fetched).settles
  · exact absurd fetched ((fetchOptional_sends _).noOverflow opened locked)
  · rcases read : lockedStatus found with error | status
    · exact (Breaks.unreadable opening fetched read).settles
    · -- a pending invoice goes on to the write; anything else is rolled back
      by_cases pending : status = some InvoiceStatus.pending.name
      · subst pending
        exact Locked.settles ⟨opened, found, opening, fetched, read⟩
      · rcases rolled : rollbackTransaction.run.run locked with ⟨(error | _) | ⟨⟩, link⟩
        · exact (Breaks.keepFails opening fetched read pending rolled).settles
        · exact absurd rolled (rollbackTransaction_sends.noOverflow locked link)
        · exact ⟨_, _, _, .kept opening fetched read pending rolled⟩

theorem settles (id : Uuid) (write : SubscriptionWrite) (start : Link) : Settles id write start := by
  rcases begun : beginTransaction.run.run start with ⟨(error | _) | ⟨⟩, opened⟩
  · exact ⟨_, _, _, .beginFails begun⟩
  · exact absurd begun (beginTransaction_sends.noOverflow start opened)
  · exact Opened.settles begun

end Settles

/-- A settlement's run is the settlement its answers describe. -/
theorem settleInvoice_run_iff {id : Uuid} {write : SubscriptionWrite} {start link : Link} {result : Except Halt Bool} :
    (settleInvoice id write).run.run start = (result, link) ↔ ∃ sent, Settlement id write start result link sent := by
  constructor
  · intro ran
    obtain ⟨_, _, sent, settled⟩ := settles id write start
    rw [settled.run_eq] at ran
    cases ran
    exact ⟨sent, settled⟩
  · rintro ⟨sent, settled⟩
    exact settled.run_eq

/-! ## What the database heard -/

section Heard

variable {id : Uuid} {write : SubscriptionWrite} {start : Link}

theorem Opened.server {opened : Link} (opening : Opened start opened) :
    opened.server = start.server.answerAll ["BEGIN"] :=
  beginTransaction_sends.server_eq opening

theorem Locked.server {locked : Link} (locking : Locked start locked) :
    locked.server = start.server.answerAll ["BEGIN", lockInvoiceSql] := by
  obtain ⟨opened, found, opening, fetched, -⟩ := locking
  rw [(fetchOptional_sends _).server_eq fetched, opening.server]
  rfl

theorem Written.server {written : Link} (writing : Written write start written) :
    written.server = start.server.answerAll ([Statement.begin, .lock, .write].map (·.sql write)) := by
  obtain ⟨locked, locking, wrote⟩ := writing
  rw [(execute_sends _).server_eq wrote, locking.server]
  rfl

theorem Marked.server {marked : Link} (marking : Marked write start marked) :
    marked.server = start.server.answerAll ([Statement.begin, .lock, .write, .markPaid].map (·.sql write)) := by
  obtain ⟨written, rows, writing, markedPaid⟩ := marking
  rw [(execute_sends _).server_eq markedPaid, writing.server]
  rfl

theorem Breaks.server {sent : List Statement} {error : DbError} {inside : Link}
    (broken : Breaks write start sent error inside) :
    inside.server = start.server.answerAll (sent.map (·.sql write)) := by
  rcases broken with ⟨opening, fetched⟩ | ⟨opening, fetched, -⟩ | ⟨opening, fetched, -, -, rolled⟩ |
    ⟨locking, writing⟩ | ⟨locking, writing, -, rolled⟩ | ⟨written, marking⟩ | ⟨marked, committing⟩
  · rw [(fetchOptional_sends _).server_eq fetched, opening.server]
    rfl
  · rw [(fetchOptional_sends _).server_eq fetched, opening.server]
    rfl
  · rw [rollbackTransaction_sends.server_eq rolled, (fetchOptional_sends _).server_eq fetched,
      opening.server]
    rfl
  · rw [(execute_sends _).server_eq writing, locking.server]
    rfl
  · rw [rollbackTransaction_sends.server_eq rolled, (execute_sends _).server_eq writing,
      locking.server]
    rfl
  · rw [(execute_sends _).server_eq marking, written.server]
    rfl
  · rw [commitTransaction_sends.server_eq committing, marked.server]
    rfl

/-- The statements a settlement lists are the ones the database answered, in order. -/
theorem Settlement.answered {result : Except Halt Bool} {link : Link} {sent : List Statement}
    (settled : Settlement id write start result link sent) :
    link.server = start.server.answerAll (sent.map (·.sql write)) := by
  rcases settled with ⟨begun⟩ | ⟨opening, fetched, -, -, rolled⟩ | ⟨locking, writing, -, rolled⟩ |
    ⟨marked, committing⟩ | @⟨sent, error, inside, link, broken, abandoned⟩
  · exact beginTransaction_sends.server_eq begun
  · rw [rollbackTransaction_sends.server_eq rolled, (fetchOptional_sends _).server_eq fetched,
      opening.server]
    rfl
  · rw [rollbackTransaction_sends.server_eq rolled, (execute_sends _).server_eq writing,
      locking.server]
    rfl
  · rw [commitTransaction_sends.server_eq committing, marked.server]
    rfl
  · -- the transaction is abandoned after the statements that broke it
    obtain ⟨after, ran, rolledBack⟩ := abandonTransaction_run inside
    rw [abandoned] at ran
    cases ran
    rw [rolledBack, broken.server, List.map_append, Server.answerAll_append]
    cases inside.connection.isSome <;> rfl

end Heard

/-! ## Committing -/

section Committing

variable {id : Uuid} {write : SubscriptionWrite} {start : Link}

theorem Breaks.commit_mem {sent : List Statement} {error : DbError} {inside : Link}
    (broken : Breaks write start sent error inside) (commits : Statement.commit ∈ sent) :
    ∃ marked, Marked write start marked := by
  rcases broken with _ | _ | _ | _ | _ | _ | ⟨marking, -⟩
  case commitFails => exact ⟨_, marking⟩
  all_goals simp at commits

/-- `COMMIT` is sent only once the invoice is marked paid. -/
theorem Settlement.commit_mem {result : Except Halt Bool} {link : Link} {sent : List Statement}
    (settled : Settlement id write start result link sent) (commits : Statement.commit ∈ sent) :
    ∃ marked, Marked write start marked := by
  rcases settled with _ | _ | _ | ⟨marking, -⟩ | ⟨broken, -⟩
  case committed => exact ⟨_, marking⟩
  case abandoned =>
    -- abandoning adds at most a rollback
    rcases List.mem_append.mp commits with sentBefore | rolledBack
    · exact broken.commit_mem sentBefore
    · split at rolledBack <;> simp at rolledBack
  all_goals simp at commits

/-- A settlement returns `true` exactly when a `COMMIT` sent after the invoice was marked paid
went through. -/
theorem Settlement.true_iff {result : Except Halt Bool} {link : Link} {sent : List Statement}
    (settled : Settlement id write start result link sent) :
    result = .ok true ↔ ∃ marked, Marked write start marked ∧ commitTransaction.run.run marked = (.ok (), link) := by
  constructor
  · rintro rfl
    rcases settled with _ | _ | _ | ⟨marking, committing⟩ | _
    exact ⟨_, marking, committing⟩
  · rintro ⟨marked, marking, committing⟩
    have committed := (Settlement.committed marking committing : Settlement id write start _ _ _).run_eq
    rw [settled.run_eq] at committed
    cases committed
    rfl

end Committing

/-- Settling an invoice on the database commits all or nothing. Whatever the database answers
and whatever the state of the connection, the settlement's run is the `Settlement` that its
answers describe; the statements it lists are the ones the database answered, in order; it
returns `true` exactly when a `COMMIT` sent after the invoice was marked paid went through; and
it sends `COMMIT` only once the lock found the invoice pending, the subscription write touched
exactly one row and the invoice was marked paid. -/
theorem settlement_commits_all_or_nothing (id : Uuid) (write : SubscriptionWrite) (start : Link) :
    (∀ result link, (settleInvoice id write).run.run start = (result, link) ↔
      ∃ sent, Settlement id write start result link sent) ∧
    ∀ result link sent, Settlement id write start result link sent →
      link.server = start.server.answerAll (sent.map (·.sql write)) ∧
      (result = .ok true ↔ ∃ marked, Marked write start marked ∧ commitTransaction.run.run marked = (.ok (), link)) ∧
      (Statement.commit ∈ sent → ∃ marked, Marked write start marked) :=
  ⟨fun _ _ => settleInvoice_run_iff, fun _ _ _ settled => ⟨settled.answered, settled.true_iff, settled.commit_mem⟩⟩

/-- A new subscription on the basic plan, written by the settlement of the examples. -/
def exampleWrite : SubscriptionWrite :=
  .insert {
    id := Uuid.nil, company := Uuid.nil, plan := "basic", status := .active, maxSeats := 5,
    pendingMaxSeats := none, pendingPlan := none, periodStart := ⟨0, 0⟩, periodEnd := ⟨0, 0⟩,
    createdAt := ⟨0, 0⟩, updatedAt := ⟨0, 0⟩, version := 0 }

/-- A database with no script answers every statement with no rows: the lock finds no invoice,
and the settlement rolls back and returns `false`, having been heard statement by statement. -/
theorem unscripted_settlement_rolls_back :
    ∃ link sent, Settlement Uuid.nil exampleWrite ⟨Server.empty, none⟩ (.ok false) link sent ∧
      link.server = Server.empty.answerAll (sent.map (·.sql exampleWrite)) := by
  have kept : ((settleInvoice Uuid.nil exampleWrite).run.run ⟨Server.empty, none⟩).1 = .ok false := rfl
  have ran : (settleInvoice Uuid.nil exampleWrite).run.run ⟨Server.empty, none⟩ =
      (.ok false, ((settleInvoice Uuid.nil exampleWrite).run.run ⟨Server.empty, none⟩).2) :=
    Prod.ext kept rfl
  obtain ⟨sent, settled⟩ := ((settlement_commits_all_or_nothing Uuid.nil exampleWrite _).1 _ _).mp ran
  exact ⟨_, sent, settled, ((settlement_commits_all_or_nothing Uuid.nil exampleWrite _).2 _ _ _ settled).1⟩

end SeatBilling.SqlStore
