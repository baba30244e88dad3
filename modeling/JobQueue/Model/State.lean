import JobQueue.Model.Job
import JobQueue.Model.RateLimiterService
import Mathlib.Data.String.Basic

/-!
# The stores and their atomic operations

One `State` holds everything the services share: the jobs table, the Redis
keys, the circuit maps of the consumer, the `job-topic` messages and what was
handed to the outside world.  An `Op` is one repository call, one Redis
command, one access to a circuit map, one Kafka send, one executor call or one
reading of the clock; `Op.exec` says what it does.

What the environment decides is a `Reading`: the instant, the row order of the
database and the outcome of an executor call.
-/

namespace JobQueue

open Decimal

/-- A thrown `Exception`; `getMessage` may be `null`. -/
structure JavaException where
  message : Option String
  deriving DecidableEq, Repr

/-- The `NumberFormatException` of `parseLong` and `parseInt`. -/
def JavaException.numberFormat (text : String) : JavaException :=
  ⟨some ("For input string: \"" ++ text ++ "\"")⟩

/-- The arguments of `IncidentPublisherService.publish`. -/
structure Incident where
  type : String
  severity : String
  title : String
  jobId : Option String
  jobType : Option String
  evidence : Option String
  attributes : List (String × String)
  deriving DecidableEq, Repr

inductive Executor where
  | email
  | api
  | log
  deriving DecidableEq, Repr

/-! ## The delay queue -/

/-- The sorted set `scheduled_jobs`.  Only `scheduleJob` writes it, so every
member is the decimal text of an id. -/
structure DelayQueue where
  set : SortedSet String
  decimal : ∀ member score, set.score? member = some score →
    ∃ id : Int, member = longToString id

namespace DelayQueue

def empty : DelayQueue :=
  ⟨SortedSet.empty, fun member score h => by simp at h⟩

/-- `RedisDelayQueueService.scheduleJob`. -/
def scheduleJob (queue : DelayQueue) (jobId scheduleTime : Int) : DelayQueue where
  set := queue.set.add (longToString jobId) scheduleTime
  decimal := by
    intro member score h
    rw [SortedSet.score?_add] at h
    by_cases hm : member = longToString jobId
    · exact ⟨jobId, hm⟩
    · rw [if_neg hm] at h
      exact queue.decimal member score h

/-- `RedisDelayQueueService.getReadyJobs`. -/
def getReadyJobs (queue : DelayQueue) (now : Int) : List String :=
  queue.set.rangeByScore 0 now

/-- `RedisDelayQueueService.removeJob`. -/
def removeJob (queue : DelayQueue) (jobId : String) : DelayQueue where
  set := queue.set.remove jobId
  decimal := by
    intro member score h
    rw [SortedSet.score?_remove] at h
    by_cases hm : member = jobId
    · simp [hm] at h
    · rw [if_neg hm] at h
      exact queue.decimal member score h

/-- The score under which a job id is queued. -/
def score? (queue : DelayQueue) (id : Int) : Option Int :=
  queue.set.score? (longToString id)

end DelayQueue

/-! ## The state -/

/-- One executor call: the job it was given and whether it returned. -/
structure Execution where
  jobId : Int
  succeeded : Bool
  deriving DecidableEq, Repr

/-- The shared stores.  `cancelled` maps a job id to the deadline of its
cancellation flag, `topic` holds the `job-topic` messages not yet delivered and
`sent` all messages ever sent.  `executions` and `incidents` record what the
executors and the incident topic have received so far.

An `AtomicInteger` of `failureCountMap` is a `Nat`: a count that `2 ^ 31` failures
without a success between them would turn negative is out of range here. -/
structure State (L : Type) where
  jobs : JobTable
  scheduledJobs : DelayQueue
  cancelled : Int → Option Int
  lastRun : Option Int
  limiter : L
  failureCount : String → Nat
  circuitOpen : String → Bool
  lastFailureTime : String → Int
  topic : List String
  sent : List String
  executions : List Execution
  incidents : List Incident

/-- Nothing created, nothing scheduled, nothing sent. -/
def State.empty {L : Type} (limiter : L) : State L where
  jobs := JobTable.empty
  scheduledJobs := DelayQueue.empty
  cancelled := fun _ => none
  lastRun := none
  limiter := limiter
  failureCount := fun _ => 0
  circuitOpen := fun _ => false
  lastFailureTime := fun _ => 0
  topic := []
  sent := []
  executions := []
  incidents := []

/-! ## Operations -/

inductive Op where
  -- the clock: `System.currentTimeMillis()`, and `Instant.now()` in nanoseconds
  | currentTimeMillis
  | instantNow
  -- `JobRepository`
  | findById (id : Int)
  | query (q : JobQuery)
  | insert (data : JobData)
  | save (job : Job)
  -- `RedisDelayQueueService`
  | scheduleJob (jobId scheduleTime : Int)
  | getReadyJobs (now : Int)
  | removeJob (jobId : String)
  -- the key `watcher:lastRun`
  | getLastRun
  | setLastRun (now : Int)
  -- `RedisService`
  | cancelJob (jobId : Int)
  | isCancelled (jobId : Int)
  | clearCancellation (jobId : Int)
  -- `RateLimiterService`
  | allow (type : String) (limitPerSec : Nat)
  -- the circuit maps of `KafkaConsumerService`
  | isCircuitOpen (type : String)
  | setCircuitOpen (type : String) (value : Bool)
  | setFailureCount (type : String) (value : Nat)
  | incrementFailureCount (type : String)
  | getLastFailureTime (type : String)
  | setLastFailureTime (type : String) (value : Int)
  -- Kafka
  | sendJob (message : String)
  | publish (incident : Incident)
  | acknowledge
  -- `JobExecutor.execute`
  | execute (executor : Executor) (job : Job)

/-- What an operation returns. -/
@[reducible] def Reply : Op → Type
  | .currentTimeMillis => Int
  | .instantNow => Int
  | .findById _ => Option Job
  | .query _ => List Job
  | .insert _ => Job
  | .save _ => Unit
  | .scheduleJob _ _ => Unit
  | .getReadyJobs _ => List String
  | .removeJob _ => Unit
  | .getLastRun => Option Int
  | .setLastRun _ => Unit
  | .cancelJob _ => Unit
  | .isCancelled _ => Bool
  | .clearCancellation _ => Unit
  | .allow _ _ => Bool
  | .isCircuitOpen _ => Bool
  | .setCircuitOpen _ _ => Unit
  | .setFailureCount _ _ => Unit
  | .incrementFailureCount _ => Nat
  | .getLastFailureTime _ => Int
  | .setLastFailureTime _ _ => Unit
  | .sendJob _ => Unit
  | .publish _ => Unit
  | .acknowledge => Unit
  | .execute _ _ => Unit

/-- What the environment decides about one operation.  `instant` counts
nanoseconds since the epoch; Redis and the application read the same clock. -/
structure Reading where
  instant : Int
  order : JobQuery → RowOrder
  outcome : Except JavaException Unit

/-- `System.currentTimeMillis()` at the instant of the reading. -/
def Reading.millis (reading : Reading) : Int := reading.instant / 1000000

/-- `RedisService.CANCEL_TTL`: ten minutes. -/
def CANCEL_TTL : Int := 10 * 60 * 1000

namespace State

variable {L : Type}

/-- `RedisService.isCancelled`: the flag is set and its time to live has not
elapsed. -/
def isCancelled (s : State L) (jobId now : Int) : Bool :=
  match s.cancelled jobId with
  | none => false
  | some deadline => now < deadline

def setCancelled (s : State L) (jobId : Int) (deadline : Option Int) : State L :=
  { s with cancelled := Function.update s.cancelled jobId deadline }

def insertJob (s : State L) (data : JobData) : State L :=
  { s with jobs := s.jobs.insert data }

def saveJob (s : State L) (job : Job) : State L :=
  { s with jobs := s.jobs.save job }

def scheduleJob (s : State L) (jobId scheduleTime : Int) : State L :=
  { s with scheduledJobs := s.scheduledJobs.scheduleJob jobId scheduleTime }

def removeJob (s : State L) (jobId : String) : State L :=
  { s with scheduledJobs := s.scheduledJobs.removeJob jobId }

def setFailureCount (s : State L) (type : String) (value : Nat) : State L :=
  { s with failureCount := Function.update s.failureCount type value }

def setCircuitOpen (s : State L) (type : String) (value : Bool) : State L :=
  { s with circuitOpen := Function.update s.circuitOpen type value }

def setLastFailureTime (s : State L) (type : String) (value : Int) : State L :=
  { s with lastFailureTime := Function.update s.lastFailureTime type value }

def sendJob (s : State L) (message : String) : State L :=
  { s with topic := s.topic ++ [message], sent := s.sent ++ [message] }

def publish (s : State L) (incident : Incident) : State L :=
  { s with incidents := s.incidents ++ [incident] }

def recordExecution (s : State L) (jobId : Int) (succeeded : Bool) : State L :=
  { s with executions := s.executions ++ [⟨jobId, succeeded⟩] }

end State

/-- One atomic operation: its reply, or the exception it throws, and the state
after it. -/
@[simp] def Op.exec {L : Type} [RateLimiter L] (reading : Reading) :
    (op : Op) → State L → Except JavaException (Reply op) × State L
  | .currentTimeMillis, s => (.ok reading.millis, s)
  | .instantNow, s => (.ok reading.instant, s)
  | .findById id, s => (.ok (s.jobs.findById id), s)
  | .query q, s => (.ok (s.jobs.select (reading.order q) q), s)
  | .insert data, s => (.ok { data with id := s.jobs.nextId }, s.insertJob data)
  | .save job, s => (.ok (), s.saveJob job)
  | .scheduleJob jobId scheduleTime, s => (.ok (), s.scheduleJob jobId scheduleTime)
  | .getReadyJobs now, s => (.ok (s.scheduledJobs.getReadyJobs now), s)
  | .removeJob jobId, s => (.ok (), s.removeJob jobId)
  | .getLastRun, s => (.ok s.lastRun, s)
  | .setLastRun now, s => (.ok (), { s with lastRun := some now })
  | .cancelJob jobId, s => (.ok (), s.setCancelled jobId (some (reading.millis + CANCEL_TTL)))
  | .isCancelled jobId, s => (.ok (s.isCancelled jobId reading.millis), s)
  | .clearCancellation jobId, s => (.ok (), s.setCancelled jobId none)
  | .allow type limitPerSec, s =>
      let result := RateLimiter.allow type limitPerSec reading.millis s.limiter
      (.ok result.1, { s with limiter := result.2 })
  | .isCircuitOpen type, s => (.ok (s.circuitOpen type), s)
  | .setCircuitOpen type value, s => (.ok (), s.setCircuitOpen type value)
  | .setFailureCount type value, s => (.ok (), s.setFailureCount type value)
  | .incrementFailureCount type, s =>
      (.ok (s.failureCount type + 1), s.setFailureCount type (s.failureCount type + 1))
  | .getLastFailureTime type, s => (.ok (s.lastFailureTime type), s)
  | .setLastFailureTime type value, s => (.ok (), s.setLastFailureTime type value)
  | .sendJob message, s => (.ok (), s.sendJob message)
  | .publish incident, s => (.ok (), s.publish incident)
  | .acknowledge, s => (.ok (), s)
  | .execute _ job, s =>
      -- the executor was called, whether it returns or throws
      match reading.outcome with
      | .ok () => (.ok (), s.recordExecution job.id true)
      | .error e => (.error e, s.recordExecution job.id false)

end JobQueue
