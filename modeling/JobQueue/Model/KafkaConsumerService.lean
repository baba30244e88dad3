import JobQueue.Model.Service

/-!
# `KafkaConsumerService`

`findById(jobId)` returns the row with that id, so `job.id` below stands for
the `jobId` of the source wherever a job was found.
-/

namespace JobQueue

open Decimal

/-- The types `ExecutorFactory.getExecutor` resolves. -/
def ExecutorFactory.resolve (type : String) : Option Executor :=
  if type = "EMAIL" then some .email
  else if type = "API" then some .api
  else if type = "LOG" then some .log
  else none

/-- The `IllegalArgumentException` of any other type. -/
def ExecutorFactory.invalidType (type : String) : JavaException :=
  ⟨some ("Invalid job type: " ++ type)⟩

/-- `ExecutorFactory.getExecutor`. -/
def ExecutorFactory.getExecutor (type : String) : Service Executor :=
  match ExecutorFactory.resolve type with
  | some executor => pure executor
  | none => .throw (ExecutorFactory.invalidType type)

namespace KafkaConsumerService

/-- `KafkaConsumerService.FAILURE_THRESHOLD`. -/
def FAILURE_THRESHOLD : Nat := 5

/-- `KafkaConsumerService.CIRCUIT_TIMEOUT`. -/
def CIRCUIT_TIMEOUT : Int := 30000

/-- `KafkaConsumerService.MAX_RETRY`. -/
def MAX_RETRY : Nat := 5

/-- The limit `consume` asks the limiter for. -/
def LIMIT_PER_SEC : Nat := 5

/-! ## Incidents -/

def rateLimitedIncident (job : Job) : Incident where
  type := "RATE_LIMITED_JOB"
  severity := "MEDIUM"
  title := "Rate limit exceeded"
  jobId := some (longToString job.id)
  jobType := some job.type
  evidence := some "Rate limit hit, job deferred to retry"
  attributes := [("retryDelayMs", "2000")]

def circuitOpenIncident (job : Job) : Incident where
  type := "CIRCUIT_OPEN"
  severity := "HIGH"
  title := "Circuit breaker open"
  jobId := some (longToString job.id)
  jobType := some job.type
  evidence := some "Circuit open, job delayed"
  attributes := [("timeoutMs", longToString CIRCUIT_TIMEOUT)]

def circuitTriggeredIncident (job : Job) (e : JavaException) (failures : Nat) :
    Incident where
  type := "CIRCUIT_OPEN"
  severity := "CRITICAL"
  title := "Circuit breaker triggered"
  jobId := some (longToString job.id)
  jobType := some job.type
  evidence := e.message
  attributes := [("consecutiveFailures", longToString failures)]

def exhaustedIncident (job : Job) (e : JavaException) : Incident where
  type := "JOB_EXECUTION_FAILED"
  severity := "HIGH"
  title := "Job exhausted retries"
  jobId := some (longToString job.id)
  jobType := some job.type
  evidence := e.message
  attributes := [("retryCount", longToString job.retryCount)]

/-! ## Rows written by the consumer -/

/-- The row of a job put back with the next attempt at `time`. -/
def deferred (job : Job) (time : Int) : Job :=
  { job with status := .retry, nextRetryTime := some time }

/-- `min(2 ^ retryCount * 1000, 20000)`. -/
def backoff (retryCount : Nat) : Int := min (2 ^ retryCount * 1000) 20000

/-- The row after a failed execution that entered `consume` at `now`. -/
def failedRow (job : Job) (now : Int) : Job :=
  if MAX_RETRY ≤ job.retryCount then
    { job with status := .failed }
  else
    { deferred job (now + backoff (job.retryCount + 1)) with
      retryCount := job.retryCount + 1 }

/-! ## `consume` -/

/-- The branch of an exhausted rate limit. -/
def deferRateLimited (job : Job) : Service Unit := do
  Service.publish (rateLimitedIncident job)
  -- this branch reads the clock again, the others use the time of entry
  let later ← Service.currentTimeMillis
  Service.save (deferred job (later + 2000))
  Service.acknowledge

/-- The branch of an open circuit within its timeout. -/
def deferCircuitOpen (now : Int) (job : Job) : Service Unit := do
  Service.publish (circuitOpenIncident job)
  Service.save (deferred job (now + 5000))
  Service.acknowledge

/-- The `try` block; `true` stands for the early `return` after the
acknowledgement of a job that is not QUEUED. -/
def tryBlock (job : Job) : Service Bool :=
  if job.status ≠ .queued then do
    Service.acknowledge
    pure true
  else do
    Service.save { job with status := .processing }
    -- throws for an unknown type, which counts as a failed execution
    let executor ← ExecutorFactory.getExecutor job.type
    Service.execute executor { job with status := .processing }
    Service.save { job with status := .completed }
    Service.setFailureCount job.type 0
    pure false

/-- The circuit part of the `catch` block. -/
def countFailure (now : Int) (job : Job) (e : JavaException) : Service Unit := do
  let currentFailures ← Service.incrementFailureCount job.type
  -- `now` is when `consume` was entered, not when the executor threw
  Service.setLastFailureTime job.type now
  if FAILURE_THRESHOLD ≤ currentFailures then do
    Service.setCircuitOpen job.type true
    Service.publish (circuitTriggeredIncident job e currentFailures)
  else
    pure ()

/-- The `catch` block. -/
def catchBlock (now : Int) (job : Job) (e : JavaException) : Service Unit := do
  countFailure now job e
  Service.save (failedRow job now)
  if MAX_RETRY ≤ job.retryCount then
    Service.publish (exhaustedIncident job e)
  else
    pure ()

/-- `consume` from its `try` statement on. -/
def attempt (now : Int) (job : Job) : Service Unit := do
  let returned ← (tryBlock job).tryCatch fun e => do
    catchBlock now job e
    pure false
  if returned then pure () else Service.acknowledge

/-- `consume` from the circuit check on. -/
def guardCircuit (now : Int) (job : Job) : Service Unit := do
  if ← Service.isCircuitOpen job.type then do
    let lastFailure ← Service.getLastFailureTime job.type
    if now - lastFailure < CIRCUIT_TIMEOUT then
      deferCircuitOpen now job
    else do
      -- half-open: the circuit is closed before the attempt is made
      Service.setCircuitOpen job.type false
      attempt now job
  else
    attempt now job

/-- `consume` from the cancellation check on. -/
def consumeJob (job : Job) : Service Unit := do
  if ← Service.isCancelled job.id then do
    Service.save { job with status := .cancelled }
    Service.clearCancellation job.id
    Service.acknowledge
  else do
    let now ← Service.currentTimeMillis
    -- the guards do not look at the status; `tryBlock` does
    if ← Service.allow job.type LIMIT_PER_SEC then
      guardCircuit now job
    else
      deferRateLimited job

def consume (message : String) : Service Unit :=
  match parseLong message with
  | none => Service.acknowledge
  | some jobId => do
      match ← Service.findById jobId with
      | none => Service.acknowledge
      | some job => consumeJob job

def resetCircuit (jobType : String) : Service Unit := do
  Service.setFailureCount jobType 0
  Service.setCircuitOpen jobType false
  Service.setLastFailureTime jobType 0

/-! ## Effects -/

variable {L : Type}

/-- What the guards of `consume` decide about a job before its status is
checked. -/
inductive Verdict where
  | cancelled
  | rateLimited
  | circuitOpen
  | admitted
  deriving DecidableEq, Repr

def cancelEffect (job : Job) (s : State L) : State L :=
  (s.saveJob { job with status := .cancelled }).setCancelled job.id none

/-- The job is put back until `time`. -/
def deferEffect (incident : Incident) (job : Job) (time : Int) (s : State L) : State L :=
  (s.publish incident).saveJob (deferred job time)

/-- An open circuit past its timeout is closed for one attempt. -/
def halfOpenEffect (job : Job) (s : State L) : State L :=
  if s.circuitOpen job.type then s.setCircuitOpen job.type false else s

def countFailureEffect (now : Int) (job : Job) (e : JavaException) (s : State L) : State L :=
  let failures := s.failureCount job.type + 1
  let counted := (s.setFailureCount job.type failures).setLastFailureTime job.type now
  if FAILURE_THRESHOLD ≤ failures then
    (counted.setCircuitOpen job.type true).publish (circuitTriggeredIncident job e failures)
  else
    counted

def catchEffect (now : Int) (job : Job) (e : JavaException) (s : State L) : State L :=
  let saved := (countFailureEffect now job e s).saveJob (failedRow job now)
  if MAX_RETRY ≤ job.retryCount then saved.publish (exhaustedIncident job e) else saved

/-- How the execution of a QUEUED job ends: with the outcome of its executor, or
with the exception of an unknown type. -/
def executionResult (outcome : Except JavaException Unit) (job : Job) :
    Except JavaException Unit :=
  match ExecutorFactory.resolve job.type with
  | none => .error (ExecutorFactory.invalidType job.type)
  | some _ => outcome

/-- The row is PROCESSING while the executor runs. -/
def runExecutor (outcome : Except JavaException Unit) (job : Job) (s : State L) : State L :=
  let processing := s.saveJob { job with status := .processing }
  match ExecutorFactory.resolve job.type with
  | none => processing
  | some _ => processing.recordExecution job.id outcome.isOk

/-- A QUEUED job is executed and the outcome recorded. -/
def executeEffect (now : Int) (outcome : Except JavaException Unit) (job : Job)
    (s : State L) : State L :=
  match executionResult outcome job with
  | .ok () =>
      ((runExecutor outcome job s).saveJob
        { job with status := .completed }).setFailureCount job.type 0
  | .error e => catchEffect now job e (runExecutor outcome job s)

def attemptEffect (now : Int) (outcome : Except JavaException Unit) (job : Job)
    (s : State L) : State L :=
  if job.status = .queued then executeEffect now outcome job s else s

section Consume

variable [RateLimiter L] (env : CallEnv)

/-- The limiter's answer to the call and its state afterwards. -/
def limiterReply (job : Job) (s : State L) : Bool × L :=
  RateLimiter.allow job.type LIMIT_PER_SEC (env.millis 2) s.limiter

def askLimiter (job : Job) (s : State L) : State L :=
  { s with limiter := (limiterReply env job s).2 }

/-- Within the timeout of an open circuit. -/
def CircuitBlocks (job : Job) (s : State L) : Prop :=
  s.circuitOpen job.type = true ∧ env.millis 1 - s.lastFailureTime job.type < CIRCUIT_TIMEOUT

instance (job : Job) (s : State L) : Decidable (CircuitBlocks env job s) :=
  inferInstanceAs (Decidable (_ ∧ _))

def verdict (job : Job) (s : State L) : Verdict :=
  if s.isCancelled job.id (env.millis 0) = true then .cancelled
  else if (limiterReply env job s).1 = false then .rateLimited
  else if CircuitBlocks env job s then .circuitOpen
  else .admitted

/-- The state after `consume` for a message of the row `job`. -/
def consumeJobEffect (job : Job) (s : State L) : State L :=
  match verdict env job s with
  | .cancelled => cancelEffect job s
  | .rateLimited =>
      deferEffect (rateLimitedIncident job) job (env.millis 3 + 2000) (askLimiter env job s)
  | .circuitOpen =>
      deferEffect (circuitOpenIncident job) job (env.millis 1 + 5000) (askLimiter env job s)
  | .admitted =>
      attemptEffect (env.millis 1) env.outcome job
        (halfOpenEffect job (askLimiter env job s))

def consumeEffect (message : String) (s : State L) : State L :=
  match parseLong message with
  | none => s
  | some jobId =>
      match s.jobs.findById jobId with
      | none => s
      | some job => consumeJobEffect env job s

theorem run_countFailure (now : Int) (job : Job) (e : JavaException) (s : State L) (k : Nat) :
    Prog.run env.handle (countFailure now job e) (s, k) =
      (.ok (), (countFailureEffect now job e s, k)) := by
  have hrun : Prog.run env.handle (countFailure now job e) (s, k) =
      Prog.run env.handle
        (if FAILURE_THRESHOLD ≤ s.failureCount job.type + 1 then do
          Service.setCircuitOpen job.type true
          Service.publish (circuitTriggeredIncident job e (s.failureCount job.type + 1))
        else pure ())
        ((s.setFailureCount job.type (s.failureCount job.type + 1)).setLastFailureTime
          job.type now, k) := rfl
  rw [hrun, countFailureEffect]
  by_cases hopen : FAILURE_THRESHOLD ≤ s.failureCount job.type + 1
  · rw [if_pos hopen, if_pos hopen]
    rfl
  · rw [if_neg hopen, if_neg hopen]
    rfl

theorem run_catchBlock (now : Int) (job : Job) (e : JavaException) (s : State L) (k : Nat) :
    Prog.run env.handle (catchBlock now job e) (s, k) =
      (.ok (), (catchEffect now job e s, k)) := by
  show Prog.run env.handle ((countFailure now job e).bind _) (s, k) = _
  rw [Prog.run_bind_ok env.handle (run_countFailure env now job e s k), catchEffect]
  by_cases hexhausted : MAX_RETRY ≤ job.retryCount
  · simp only [hexhausted, if_true]
    rfl
  · simp only [hexhausted, if_false]
    rfl

/-- The `try` block of a QUEUED job ends as its execution does. -/
theorem run_tryBlock_queued {job : Job} (hqueued : job.status = .queued) (s : State L)
    (k : Nat) :
    Prog.run env.handle (tryBlock job) (s, k) =
      match executionResult env.outcome job with
      | .ok () =>
          (.ok false, (((runExecutor env.outcome job s).saveJob
            { job with status := .completed }).setFailureCount job.type 0, k))
      | .error e => (.error e, (runExecutor env.outcome job s, k)) := by
  unfold tryBlock ExecutorFactory.getExecutor executionResult runExecutor
  cases ExecutorFactory.resolve job.type with
  | none => simp [hqueued]
  | some executor =>
      cases houtcome : env.outcome with
      | ok value => simp [hqueued, CallEnv.reading, houtcome, Except.isOk, Except.toBool]
      | error e => simp [hqueued, CallEnv.reading, houtcome, Except.isOk, Except.toBool]

theorem run_attempt (now : Int) (job : Job) (s : State L) (k : Nat) :
    Prog.run env.handle (attempt now job) (s, k) =
      (.ok (), (attemptEffect now env.outcome job s, k)) := by
  by_cases hqueued : job.status = .queued
  · have htry := run_tryBlock_queued env hqueued s k
    rw [attemptEffect, if_pos hqueued, executeEffect]
    show Prog.run env.handle (((tryBlock job).tryCatch _).bind _) (s, k) = _
    cases hresult : executionResult env.outcome job with
    | ok value =>
        rw [hresult] at htry
        rw [Prog.run_bind_ok env.handle (Prog.run_tryCatch_ok env.handle htry)]
        rfl
    | error e =>
        rw [hresult] at htry
        have hcatch := run_catchBlock env now job e (runExecutor env.outcome job s) k
        rw [Prog.run_bind, Prog.run_tryCatch_error env.handle htry, Prog.bind_eq_bind,
          Prog.run_bind_ok env.handle hcatch]
        rfl
  · rw [attemptEffect, if_neg hqueued]
    simp [attempt, tryBlock, hqueued]

/-- What `consume` goes on with after its guards. -/
def afterGuards (job : Job) : Verdict → Service Unit
  | .cancelled => do
      Service.save { job with status := .cancelled }
      Service.clearCancellation job.id
      Service.acknowledge
  | .rateLimited => deferRateLimited job
  | .circuitOpen => deferCircuitOpen (env.millis 1) job
  | .admitted => attempt (env.millis 1) job

/-- The store after the guards, with the number of clock readings so far. -/
def guardedStore (job : Job) (s : State L) : Verdict → State L × Nat
  | .cancelled => (s, 1)
  | .rateLimited | .circuitOpen => (askLimiter env job s, 3)
  | .admitted => (halfOpenEffect job (askLimiter env job s), 3)

/-- The operations of the guards. -/
def isGuard : Op → Bool
  | .isCancelled _ | .currentTimeMillis | .allow _ _ | .isCircuitOpen _ | .getLastFailureTime _
  | .setCircuitOpen _ _ => true
  | _ => false

/-- Whatever executes the operations of the guards as a whole call does comes to what the
verdict says. -/
theorem interpret_consumeJob {R : Type} (interpret : Service Unit → State L × Nat → R)
    (hguard : ∀ (op : Op) (next : Except JavaException (Reply op) → Service Unit)
        (store : State L × Nat), isGuard op = true →
      interpret (Prog.call op next) store =
        interpret (next (env.handle op store).1) (env.handle op store).2)
    (job : Job) (s : State L) :
    interpret (consumeJob job) (s, 0) =
      interpret (afterGuards env job (verdict env job s))
        (guardedStore env job s (verdict env job s)) := by
  -- one guard after the other: what `interpret` makes of it, then the branch it takes
  refine (hguard _ _ _ rfl).trans ?_
  show interpret
    (if s.isCancelled job.id (env.millis 0) = true then afterGuards env job .cancelled
    else do
      let now ← Service.currentTimeMillis
      if ← Service.allow job.type LIMIT_PER_SEC then guardCircuit now job
      else deferRateLimited job) (s, 1) = _
  by_cases hcancelled : s.isCancelled job.id (env.millis 0) = true
  · rw [verdict, if_pos hcancelled, if_pos hcancelled]
    rfl
  rw [verdict, if_neg hcancelled, if_neg hcancelled]
  refine (hguard _ _ _ rfl).trans ((hguard _ _ _ rfl).trans ?_)
  show interpret
    (if (limiterReply env job s).1 = true then guardCircuit (env.millis 1) job
    else deferRateLimited job) (askLimiter env job s, 3) = _
  by_cases hallowed : (limiterReply env job s).1 = true
  swap
  · rw [if_neg hallowed, if_pos (by simpa using hallowed)]
    rfl
  rw [if_pos hallowed, if_neg (by simp [hallowed])]
  refine (hguard _ _ _ rfl).trans ?_
  show interpret
    (if s.circuitOpen job.type = true then do
      let lastFailure ← Service.getLastFailureTime job.type
      if env.millis 1 - lastFailure < CIRCUIT_TIMEOUT then deferCircuitOpen (env.millis 1) job
      else do
        Service.setCircuitOpen job.type false
        attempt (env.millis 1) job
    else attempt (env.millis 1) job) (askLimiter env job s, 3) = _
  by_cases hopen : s.circuitOpen job.type = true
  · rw [if_pos hopen]
    refine (hguard _ _ _ rfl).trans ?_
    show interpret
      (if env.millis 1 - s.lastFailureTime job.type < CIRCUIT_TIMEOUT then
        deferCircuitOpen (env.millis 1) job
      else do
        Service.setCircuitOpen job.type false
        attempt (env.millis 1) job) (askLimiter env job s, 3) = _
    by_cases hearly : env.millis 1 - s.lastFailureTime job.type < CIRCUIT_TIMEOUT
    · rw [if_pos hearly, if_pos ⟨hopen, hearly⟩]
      rfl
    · have hblocked : ¬ CircuitBlocks env job s := fun h => hearly h.2
      rw [if_neg hearly, if_neg hblocked]
      refine (hguard _ _ _ rfl).trans ?_
      rw [guardedStore, halfOpenEffect, if_pos (by exact hopen)]
      rfl
  · have hblocked : ¬ CircuitBlocks env job s := fun h => hopen h.1
    rw [if_neg hopen, if_neg hblocked, guardedStore, halfOpenEffect, if_neg (by exact hopen)]
    rfl

theorem run_consumeJob (job : Job) (s : State L) :
    (Prog.run env.handle (consumeJob job) (s, 0)).1 = .ok () ∧
      (Prog.run env.handle (consumeJob job) (s, 0)).2.1 = consumeJobEffect env job s := by
  rw [interpret_consumeJob env (Prog.run env.handle) (fun _ _ _ _ => rfl), consumeJobEffect]
  cases verdict env job s with
  | cancelled => exact ⟨rfl, rfl⟩
  | rateLimited => exact ⟨rfl, rfl⟩
  | circuitOpen => exact ⟨rfl, rfl⟩
  | admitted =>
      rw [afterGuards, guardedStore, run_attempt]
      exact ⟨rfl, rfl⟩

/-- A call of `consume` returns normally; its effect is decided by the verdict
of the guards. -/
theorem call_consume (message : String) (s : State L) :
    Service.call (consume message) env s = (.ok (), consumeEffect env message s) := by
  unfold consumeEffect
  cases hparse : parseLong message with
  | none => simp [Service.call, consume, hparse]
  | some jobId =>
      cases hrow : s.jobs.findById jobId with
      | none => simp [Service.call, consume, hparse, hrow]
      | some job =>
          obtain ⟨hok, heffect⟩ := run_consumeJob env job s
          have hrun : Prog.run env.handle (consume message) (s, 0) =
              Prog.run env.handle (consumeJob job) (s, 0) := by
            simp [consume, hparse, hrow]
          simp only [Service.call, hrun, hok, heffect, hrow]

end Consume

end KafkaConsumerService

end JobQueue
