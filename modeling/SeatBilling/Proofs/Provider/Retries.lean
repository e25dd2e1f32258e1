import SeatBilling.Provider.Http

/-!
# The hosted-invoice client: bounded, classified retries

Against a provider that answers its posts from a script (`scripted`: the post received `n`-th,
counting from 0, gets `answers n`), asking for a hosted invoice

- posts the same request each time: to the invoices address, with the secret key, the local
  invoice id as idempotency key and external id, and the amount;
- reads each answer one way (`HttpAnswer.Reading`): a 4xx status is a refusal, a 2xx body that
  decodes is the invoice, and everything else is a failure of the provider;
- tries again exactly after the transient answers (`HttpAnswer.Transient`): none came, a status
  neither 2xx nor 4xx, or a 2xx body that does not decode;
- so makes `min 3 (1 + the number of leading transient answers)` tries, and ends with the last
  answer's outcome.

The loop is followed try by try (`retryIf_run_ok`, `retryIf_run_again`, `retryIf_run_stop`), and
the whole run by induction on the pauses left (`retryIf_scripted_run`).
-/

namespace SeatBilling.Provider

open SeatBilling.Json

variable {σ ε α : Type}

/-! ## One try after another -/

section Retrying

variable (retry : ε → Bool) (action : StateM σ (Except ε α)) {state after : σ}

theorem retryIf_zero_run :
    (retryIf (fun failure => pure (retry failure)) action 0).run state = action.run state := by
  simp only [retryIf, StateT.run_bind]
  rcases action.run state with ⟨_ | _, after⟩ <;> rfl

/-- A try that succeeds ends the loop. -/
theorem retryIf_run_ok {value : α} (pauses : Nat) (ran : action.run state = (.ok value, after)) :
    (retryIf (fun failure => pure (retry failure)) action pauses).run state = (.ok value, after) := by
  cases pauses <;> rw [retryIf, StateT.run_bind, ran] <;> rfl

/-- A failure the loop retries, with a pause left, leads to the next try. -/
theorem retryIf_run_again {failure : ε} (pauses : Nat) (ran : action.run state = (.error failure, after))
    (retrying : retry failure = true) :
    (retryIf (fun failure => pure (retry failure)) action (pauses + 1)).run state =
      (retryIf (fun failure => pure (retry failure)) action pauses).run after := by
  rw [retryIf, StateT.run_bind, ran]
  show StateT.run (if retry failure = true then _ else _) after = _
  rw [if_pos retrying]

/-- A failure the loop does not retry ends it. -/
theorem retryIf_run_stop {failure : ε} (pauses : Nat) (ran : action.run state = (.error failure, after))
    (final : retry failure = false) :
    (retryIf (fun failure => pure (retry failure)) action pauses).run state = (.error failure, after) := by
  cases pauses with
  | zero => rw [retryIf, StateT.run_bind, ran]; rfl
  | succ pauses =>
    rw [retryIf, StateT.run_bind, ran]
    show StateT.run (if retry failure = true then _ else _) after = _
    rw [if_neg (by simp [final])]
    rfl

end Retrying

/-! ## Reading one answer -/

/-- How the client reads each kind of answer: the graph of `HttpAnswer.outcome`. -/
inductive HttpAnswer.Reading : HttpAnswer → Except Failure ProviderInvoice → Prop
  /-- No answer came: the transport's complaint is the provider's failure. -/
  | unsent (complaint : String) : Reading (.unsent complaint) (.error (.providerUnavailable complaint))
  /-- A 4xx status refuses the request, showing the status and the body. -/
  | refused {status : Nat} (reason body : String) (client : 400 ≤ status ∧ status < 500) :
      Reading (.replied status reason body)
        (.error (.providerRejected (toString status ++ " " ++ reason ++ ": " ++ body)))
  /-- A status neither 2xx nor 4xx is a failure of the provider. -/
  | unexpected {status : Nat} (reason body : String) (notSuccess : ¬(200 ≤ status ∧ status < 300))
      (notClient : ¬(400 ≤ status ∧ status < 500)) :
      Reading (.replied status reason body)
        (.error (.providerUnavailable ("unexpected status " ++ toString status ++ " " ++ reason)))
  /-- A 2xx body that decodes is the invoice it describes. -/
  | created {status : Nat} {invoice : ProviderInvoice} (reason body : String)
      (succeeded : 200 ≤ status ∧ status < 300) (decoded : createdRecord.decode body = .ok invoice) :
      Reading (.replied status reason body) (.ok invoice)
  /-- A 2xx body that does not decode is a failure of the provider. -/
  | malformed {status : Nat} {problem : ReadError} (reason body : String)
      (succeeded : 200 ≤ status ∧ status < 300) (undecoded : createdRecord.decode body = .error problem) :
      Reading (.replied status reason body)
        (.error (.providerUnavailable "malformed response: error decoding response body"))

@[simp] theorem clientError_eq_true {status : Nat} :
    clientError status = true ↔ 400 ≤ status ∧ status < 500 := by
  simp [clientError]

@[simp] theorem success_eq_true {status : Nat} :
    success status = true ↔ 200 ≤ status ∧ status < 300 := by
  simp [success]

namespace HttpAnswer

theorem reading_outcome (answer : HttpAnswer) : answer.Reading answer.outcome := by
  cases answer with
  | unsent complaint => exact .unsent complaint
  | replied status reason body =>
    -- the branches of `outcome`, in its order: 4xx, then 2xx with the body decoded or not
    by_cases client : 400 ≤ status ∧ status < 500
    · simpa [outcome, client] using Reading.refused reason body client
    by_cases succeeded : 200 ≤ status ∧ status < 300
    · rcases decoded : createdRecord.decode body with problem | invoice
      · simpa [outcome, client, succeeded, decoded] using Reading.malformed reason body succeeded decoded
      · simpa [outcome, client, succeeded, decoded] using Reading.created reason body succeeded decoded
    · simpa [outcome, client, succeeded] using Reading.unexpected reason body succeeded client

theorem Reading.outcome_eq {answer : HttpAnswer} {outcome : Except Failure ProviderInvoice}
    (reading : answer.Reading outcome) : answer.outcome = outcome := by
  cases reading with
  | unsent complaint => rfl
  | refused reason body client => simp [HttpAnswer.outcome, client]
  | unexpected reason body notSuccess notClient => simp [HttpAnswer.outcome, notSuccess, notClient]
  | @created status _ reason body succeeded decoded =>
    have notClient : ¬(400 ≤ status ∧ status < 500) := by omega
    simp [HttpAnswer.outcome, succeeded, notClient, decoded]
  | @malformed status _ reason body succeeded undecoded =>
    have notClient : ¬(400 ≤ status ∧ status < 500) := by omega
    simp [HttpAnswer.outcome, succeeded, notClient, undecoded]

/-- The client reads each answer one way, and `Reading` says which. -/
theorem outcome_eq_iff (answer : HttpAnswer) (outcome : Except Failure ProviderInvoice) :
    answer.outcome = outcome ↔ answer.Reading outcome :=
  ⟨fun read => read ▸ answer.reading_outcome, Reading.outcome_eq⟩

/-! ## Which answers are tried again -/

/-- Whether the client tries again after an answer: its outcome is a transient failure. -/
def retryable (answer : HttpAnswer) : Bool :=
  match answer.outcome with
  | .ok _ => false
  | .error failure => failure.isTransient

/-- The answers after which the client tries again. -/
inductive Transient : HttpAnswer → Prop
  /-- No answer came. -/
  | unsent (complaint : String) : Transient (.unsent complaint)
  /-- A status neither 2xx nor 4xx. -/
  | unexpected {status : Nat} (reason body : String) (notSuccess : ¬(200 ≤ status ∧ status < 300))
      (notClient : ¬(400 ≤ status ∧ status < 500)) : Transient (.replied status reason body)
  /-- A 2xx body that does not decode. -/
  | malformed {status : Nat} {problem : ReadError} (reason body : String)
      (succeeded : 200 ≤ status ∧ status < 300) (undecoded : createdRecord.decode body = .error problem) :
      Transient (.replied status reason body)

theorem retryable_of_error {answer : HttpAnswer} {failure : Failure}
    (answered : answer.outcome = .error failure) : answer.retryable = failure.isTransient := by
  simp [retryable, answered]

theorem retryable_of_ok {answer : HttpAnswer} {invoice : ProviderInvoice}
    (answered : answer.outcome = .ok invoice) : answer.retryable = false := by
  simp [retryable, answered]

theorem retryable_iff (answer : HttpAnswer) : answer.retryable = true ↔ answer.Transient := by
  have reading := answer.reading_outcome
  unfold retryable
  generalize answer.outcome = outcome at reading ⊢
  -- each way of reading the answer settles both sides
  cases reading with
  | unsent complaint => simpa [Failure.isTransient] using Transient.unsent complaint
  | refused reason body client =>
    simp only [Failure.isTransient, Bool.false_eq_true, false_iff]
    intro transient
    cases transient with
    | unexpected _ _ _ notClient => exact notClient client
    | malformed _ _ succeeded => omega
  | unexpected reason body notSuccess notClient =>
    simpa [Failure.isTransient] using Transient.unexpected reason body notSuccess notClient
  | created reason body succeeded decoded =>
    simp only [Bool.false_eq_true, false_iff]
    intro transient
    cases transient with
    | unexpected _ _ notSuccess => exact notSuccess succeeded
    | malformed _ _ _ undecoded => rw [decoded] at undecoded; cases undecoded
  | malformed reason body succeeded undecoded =>
    simpa [Failure.isTransient] using Transient.malformed reason body succeeded undecoded

end HttpAnswer

/-! ## Against a scripted provider -/

/-- A provider that answers the post it receives `n`-th, counting from 0, with `answers n`;
the state is the posts received so far. -/
def scripted (answers : Nat → HttpAnswer) (post : InvoicePost) : StateM (List InvoicePost) HttpAnswer :=
  modifyGet fun sent => (answers sent.length, sent ++ [post])

/-- A logger that writes nothing. -/
def quiet : Log.Level → String → List (String × String) → StateM σ Unit := fun _ _ _ => pure ()

/-- With nothing logged, asking for an invoice is the retrying loop itself. -/
theorem createInvoice_quiet (client : HttpClient) (send : InvoicePost → StateM σ HttpAnswer)
    (request : ProviderRequest) :
    client.createInvoice send quiet request =
      retryIf (fun failure => pure failure.isTransient) (HttpAnswer.outcome <$> send (client.post request))
        (maxAttempts - 1) := by
  unfold HttpClient.createInvoice
  simp only [quiet, ite_self, pure_bind]
  -- the closing match only logs, so it gives back the outcome it matched
  refine (bind_congr fun outcome => ?_).trans (bind_pure _)
  cases outcome <;> rfl

/-- How many tries a request gets with `pauses` pauses against `answers`: one, and one more
after each leading answer the client retries, while a pause is left. -/
def triesAgainst (answers : Nat → HttpAnswer) (pauses : Nat) : Nat :=
  min (pauses + 1) (1 + (((List.range (pauses + 1)).map answers).takeWhile HttpAnswer.retryable).length)

theorem triesAgainst_zero (answers : Nat → HttpAnswer) : triesAgainst answers 0 = 1 := by
  simp [triesAgainst]

theorem triesAgainst_succ (answers : Nat → HttpAnswer) (pauses : Nat) :
    triesAgainst answers (pauses + 1) =
      if (answers 0).retryable then triesAgainst (fun i => answers (i + 1)) pauses + 1 else 1 := by
  unfold triesAgainst
  rw [List.range_succ_eq_map, List.map_cons, List.map_map, List.takeWhile_cons]
  by_cases retried : (answers 0).retryable
  · -- the first answer is retried: one try, then as many as the later answers allow
    simp only [retried, ↓reduceIte, List.length_cons, Function.comp_def, Nat.succ_eq_add_one]
    omega
  · simp [retried]

theorem scripted_try (answers : Nat → HttpAnswer) (post : InvoicePost) (sent : List InvoicePost) :
    (HttpAnswer.outcome <$> scripted answers post).run sent =
      ((answers sent.length).outcome, sent ++ [post]) :=
  rfl

/-- The loop against a scripted provider that has received `sent`: it makes as many tries as
the answers from the next one on allow, and ends with the last one's outcome. By induction on
the pauses left, one try at a time. -/
theorem retryIf_scripted_run (answers : Nat → HttpAnswer) (post : InvoicePost) (pauses : Nat)
    (sent : List InvoicePost) :
    (retryIf (fun failure => pure failure.isTransient) (HttpAnswer.outcome <$> scripted answers post)
        pauses).run sent =
      ((answers (sent.length + triesAgainst (fun i => answers (sent.length + i)) pauses - 1)).outcome,
        sent ++ List.replicate (triesAgainst (fun i => answers (sent.length + i)) pauses) post) := by
  induction pauses generalizing sent with
  | zero =>
    rw [retryIf_zero_run, scripted_try, triesAgainst_zero]
    simp
  | succ pauses more =>
    have ran := scripted_try answers post sent
    rw [triesAgainst_succ]
    simp only [Nat.add_zero]
    rcases answered : (answers sent.length).outcome with failure | invoice
    · rw [answered] at ran
      cases transient : failure.isTransient
      · -- a final failure ends the loop after this try
        have final : (answers sent.length).retryable = false := by
          rw [HttpAnswer.retryable_of_error answered, transient]
        rw [retryIf_run_stop _ _ _ ran transient, if_neg (by simp [final])]
        simp [answered]
      · -- a transient failure leads to the next try, against the answers after this one
        have retried : (answers sent.length).retryable = true := by
          rw [HttpAnswer.retryable_of_error answered, transient]
        have shift :
            (fun i => answers ((sent ++ [post]).length + i)) = fun i => answers (sent.length + (i + 1)) := by
          funext i
          congr 1
          simp only [List.length_append, List.length_singleton]
          omega
        rw [retryIf_run_again _ _ _ ran transient, more, if_pos retried, shift]
        simp only [List.length_append, List.length_singleton, List.replicate_succ, List.append_assoc,
          List.singleton_append]
        congr 3
        omega
    · -- a success ends the loop after this try
      rw [answered] at ran
      have final := HttpAnswer.retryable_of_ok answered
      rw [retryIf_run_ok _ _ _ ran, if_neg (by simp [final])]
      simp [answered]

/-- Asking a scripted provider for a hosted invoice makes `min 3 (1 + k)` tries, `k` the number
of leading answers the client retries, each the same POST, and ends with the last answer's
outcome; the client reads each answer one way (`Reading`) and retries exactly after the
transient ones; each POST goes to the invoices address with the secret key, and carries the
local invoice id as idempotency key and as external id, and the amount. -/
theorem hosted_invoice_retries_bounded (client : HttpClient) (answers : Nat → HttpAnswer)
    (request : ProviderRequest) :
    let tries :=
      min maxAttempts (1 + (((List.range maxAttempts).map answers).takeWhile HttpAnswer.retryable).length)
    (client.createInvoice (scripted answers) quiet request).run [] =
        ((answers (tries - 1)).outcome, List.replicate tries (client.post request)) ∧
      (∀ (answer : HttpAnswer) outcome, answer.outcome = outcome ↔ answer.Reading outcome) ∧
      (∀ answer : HttpAnswer, answer.retryable = true ↔ answer.Transient) ∧
      (client.post request).url = client.endpoint ∧
      (client.post request).basicAuthUser = client.secretKey ∧
      (client.post request).idempotencyKey = request.invoice.hyphenated ∧
      (client.post request).body.field? "external_id" = some (.str request.invoice.hyphenated) ∧
      (client.post request).body.field? "amount" = some (.int request.amount) := by
  intro tries
  have counted :
      triesAgainst (fun i => answers (([] : List InvoicePost).length + i)) (maxAttempts - 1) = tries := by
    simp [triesAgainst, tries, maxAttempts]
  refine ⟨?_, HttpAnswer.outcome_eq_iff, HttpAnswer.retryable_iff, rfl, rfl, rfl, ?_, ?_⟩
  · rw [createInvoice_quiet, retryIf_scripted_run, counted]
    simp
  · simp [HttpClient.post, invoiceBody, Json.field?]
  · simp [HttpClient.post, invoiceBody, Json.field?]

/-- A dropped connection and a 503 are tried again; the 409 that follows is final. -/
example :
    let run := ((HttpClient.mk "http://pay.test/v2/invoices" "key" none).createInvoice
      (scripted fun n => if n = 0 then .unsent "connection reset"
        else if n = 1 then .replied 503 "Service Unavailable" "" else .replied 409 "Conflict" "taken")
      quiet ⟨Uuid.nil, Uuid.nil, 1000, "Seats", 86400⟩).run []
    run.1 = .error (.providerRejected "409 Conflict: taken") ∧ run.2.length = 3 :=
  ⟨rfl, by decide⟩

end SeatBilling.Provider
