import JobQueue.Model.WatcherService
import JobQueue.Model.KafkaConsumerService

/-!
# `AdminService`
-/

namespace JobQueue

open Decimal

/-- What an admin action reports, less its time stamp. -/
structure AdminActionResult where
  action : String
  success : Bool
  message : String
  affectedCount : Nat
  details : List String
  deriving DecidableEq, Repr

namespace AdminActionResult

def ok (action message : String) (affectedCount : Nat) (details : List String) :
    AdminActionResult :=
  ⟨action, true, message, affectedCount, details⟩

def fail (action message : String) : AdminActionResult :=
  ⟨action, false, message, 0, []⟩

end AdminActionResult

namespace AdminService

def recoverWatcher : Service AdminActionResult := do
  let recovered ← WatcherService.triggerRecovery
  pure (.ok "RECOVER_MISSED_SCHEDULE_WINDOWS" "Watcher recovery completed" recovered
    ["Recovered jobs reinserted into Redis delay queue"])

/-- The local variables `count` and `details` of `reconcileRedis`. -/
structure Tally where
  count : Nat
  details : List String

def Tally.add (tally : Tally) (detail : String) : Tally :=
  ⟨tally.count + 1, tally.details ++ [detail]⟩

/-- One row of the loop over overdue SCHEDULED jobs. -/
def reinsertOverdue (job : Job) (tally : Tally) : Service Tally :=
  if job.status ≠ .scheduled then
    pure tally
  else do
    Service.scheduleJob job.id job.scheduleTime
    pure (tally.add ("Reinserted jobId=" ++ longToString job.id))

/-- One row of the loop over due RETRY jobs. -/
def requeueRetry (job : Job) (tally : Tally) : Service Tally :=
  if job.status ≠ .retry then
    pure tally
  else do
    Service.save { job with status := .scheduled }
    Service.scheduleJobAt job.id job.nextRetryTime
    pure (tally.add ("Requeued retry jobId=" ++ longToString job.id))

def reconcileRedis : Service AdminActionResult := do
  let now ← Service.currentTimeMillis
  let overdue ← Service.query (.findOverdueScheduled now 500)
  let tally ← Prog.foldEach reinsertOverdue overdue ⟨0, []⟩
  let retryDue ← Service.query (.findRetryDue now 500)
  let tally ← Prog.foldEach requeueRetry retryDue tally
  pure (.ok "RECONCILE_REDIS_DELAY_QUEUE" "Redis reconciliation completed"
    tally.count tally.details)

def requeueJob (jobId : Int) : Service AdminActionResult := do
  match ← Service.findById jobId with
  | none =>
      pure (.fail "REQUEUE_JOB" ("Job not found: " ++ longToString jobId))
  | some job =>
      if job.status = .completed ∨ job.status = .cancelled then
        pure (.fail "REQUEUE_JOB"
          ("Cannot requeue terminal job in status " ++ job.status.name))
      else do
        -- a job that is QUEUED or PROCESSING already is requeued as well
        Service.save { job with status := .queued }
        Service.sendJob (longToString jobId)
        pure (.ok "REQUEUE_JOB" "Job requeued to Kafka" 1
          ["jobId=" ++ longToString jobId ++ " status=QUEUED"])

def resetCircuit (jobType : String) : Service AdminActionResult := do
  KafkaConsumerService.resetCircuit jobType
  pure (.ok "RESET_CIRCUIT" ("Circuit breaker reset for " ++ jobType) 1
    ["type=" ++ jobType])

/-! ## Effects -/

variable {L : Type}

def reinsertOverdueEffect (job : Job) (s : State L) : State L :=
  if job.status = .scheduled then s.scheduleJob job.id job.scheduleTime else s

def reconcileEffect (env : CallEnv) (now : Int) (s : State L) : State L :=
  let reinserted := (env.page (.findOverdueScheduled now 500) s).foldl
    (fun t job => reinsertOverdueEffect job t) s
  (env.page (.findRetryDue now 500) reinserted).foldl
    (fun t job => WatcherService.scheduleRetryEffect job t) reinserted

def requeueEffect (jobId : Int) (s : State L) : State L :=
  match s.jobs.findById jobId with
  | none => s
  | some job =>
      if job.status = .completed ∨ job.status = .cancelled then
        s
      else
        (s.saveJob { job with status := .queued }).sendJob (longToString jobId)

/-- The tally after a row of the first loop. -/
def reinsertedTally (job : Job) (tally : Tally) : Tally :=
  if job.status = .scheduled then
    tally.add ("Reinserted jobId=" ++ longToString job.id)
  else
    tally

/-- The tally after a row of the second loop. -/
def requeuedTally (job : Job) (tally : Tally) : Tally :=
  if job.status = .retry then
    tally.add ("Requeued retry jobId=" ++ longToString job.id)
  else
    tally

variable [RateLimiter L] (env : CallEnv)

theorem run_reinsertOverdue (job : Job) (tally : Tally) (s : State L) (k : Nat) :
    Prog.run env.handle (reinsertOverdue job tally) (s, k) =
      (.ok (reinsertedTally job tally), (reinsertOverdueEffect job s, k)) := by
  unfold reinsertOverdue reinsertOverdueEffect reinsertedTally
  by_cases hscheduled : job.status = .scheduled <;> simp [hscheduled]

theorem run_requeueRetry {job : Job} {time : Int} (htime : job.nextRetryTime = some time)
    (tally : Tally) (s : State L) (k : Nat) :
    Prog.run env.handle (requeueRetry job tally) (s, k) =
      (.ok (requeuedTally job tally), (WatcherService.scheduleRetryEffect job s, k)) := by
  unfold requeueRetry WatcherService.scheduleRetryEffect requeuedTally
  by_cases hretry : job.status = .retry <;> simp [hretry, htime]

/-- A call of `reconcileRedis` has the effect of its two loops. -/
theorem call_reconcileRedis (s : State L) :
    (Service.call reconcileRedis env s).2 = reconcileEffect env (env.millis 0) s := by
  let now := env.millis 0
  let rows := env.page (.findOverdueScheduled now 500) s
  let reinserted := rows.foldl (fun t job => reinsertOverdueEffect job t) s
  let retryRows := env.page (.findRetryDue now 500) reinserted
  have hrows := Service.run_foldEach env.handle reinsertedTally reinsertOverdueEffect rows
    (fun job _ tally t m => run_reinsertOverdue env job tally t m) ⟨0, []⟩ s 1
  have hretries := fun tally => Service.run_foldEach env.handle requeuedTally
    WatcherService.scheduleRetryEffect retryRows
    (fun job hjob tally t m => by
      obtain ⟨time, htime⟩ := WatcherService.retryTime_of_mem_page env hjob trivial
      exact run_requeueRetry env htime tally t m) tally reinserted 1
  have hrun : (Prog.run env.handle reconcileRedis (s, 0)).2 =
      (reconcileEffect env now s, 1) := by
    show (Prog.run env.handle
      ((Prog.foldEach reinsertOverdue rows ⟨0, []⟩).bind _) (s, 1)).2 = _
    rw [Prog.run_bind_ok env.handle hrows]
    show (Prog.run env.handle
      ((Prog.foldEach requeueRetry retryRows _).bind _) (reinserted, 1)).2 = _
    rw [Prog.run_bind_ok env.handle (hretries _)]
    rfl
  exact congrArg Prod.fst hrun

theorem call_recoverWatcher (s : State L) :
    (Service.call recoverWatcher env s).2 =
      WatcherService.recoverEffect env (env.millis 0) s := by
  obtain ⟨count, hrecover⟩ := WatcherService.run_recoverMissedJobs env (env.millis 0) s 1
  have hrun : (Prog.run env.handle recoverWatcher (s, 0)).2 =
      (WatcherService.recoverEffect env (env.millis 0) s, 1) := by
    show (Prog.run env.handle
      ((WatcherService.recoverMissedJobs (env.millis 0)).bind _) (s, 1)).2 = _
    rw [Prog.run_bind_ok env.handle hrecover]
    rfl
  exact congrArg Prod.fst hrun

theorem call_requeueJob (jobId : Int) (s : State L) :
    (Service.call (requeueJob jobId) env s).2 = requeueEffect jobId s := by
  unfold requeueJob requeueEffect Service.call
  cases hrow : s.jobs.findById jobId with
  | none => simp [hrow]
  | some job =>
      by_cases hterminal : job.status = .completed ∨ job.status = .cancelled <;>
        simp [hrow, hterminal]

theorem call_resetCircuit (jobType : String) (s : State L) :
    (Service.call (resetCircuit jobType) env s).2 =
      ((s.setFailureCount jobType 0).setCircuitOpen jobType false).setLastFailureTime
        jobType 0 := rfl

end AdminService

end JobQueue
