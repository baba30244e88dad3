import JobQueue.Model.Call

/-!
# What a state says about one job

The stores mention a job in six places: its row, its entry in the delay queue,
the messages that carry its id, the messages ever sent for it, its cancellation
flag and its executor calls.  A `JobView` collects the six, and every operation
on the stores either changes the view of the one job it names or no view.
-/

namespace JobQueue

open Decimal

/-- `consume` reads the message as this id. -/
def carries (id : Int) (message : String) : Bool :=
  parseLong message = some id

theorem carries_longToString (id other : Int) :
    carries id (longToString other) = decide (id = other) := by
  simp [carries, eq_comm]

/-- One job across all stores. -/
structure JobView where
  row : Option Job
  score : Option Int
  inFlight : Nat
  sent : Nat
  flag : Option Int
  executions : List Bool

namespace JobView

/-- The status of the row, if there is a row. -/
def status? (v : JobView) : Option JobStatus := v.row.map fun job => job.status

/-- The retry time of the row, if it is set. -/
def retryTime? (v : JobView) : Option Int := v.row.bind fun job => job.nextRetryTime

theorem status?_of_row {v : JobView} {job : Job} (h : v.row = some job) :
    v.status? = some job.status := by
  rw [status?, h, Option.map_some]

theorem retryTime?_of_row {v : JobView} {job : Job} (h : v.row = some job) :
    v.retryTime? = job.nextRetryTime := by
  rw [retryTime?, h, Option.bind_some]

theorem exists_row {v : JobView} {status : JobStatus} (h : v.status? = some status) :
    ∃ job, v.row = some job ∧ job.status = status :=
  Option.map_eq_some_iff.mp h

end JobView

namespace State

variable {L : Type}

/-- The state as the job `id` sees it. -/
def view (s : State L) (id : Int) : JobView where
  row := s.jobs.findById id
  score := s.scheduledJobs.score? id
  inFlight := s.topic.countP (carries id)
  sent := s.sent.countP (carries id)
  flag := s.cancelled id
  executions := (s.executions.filter fun e => e.jobId = id).map fun e => e.succeeded

theorem view_row (s : State L) (id : Int) :
    (s.view id).row = s.jobs.findById id := rfl

theorem view_empty (limiter : L) (id : Int) :
    (State.empty limiter).view id = ⟨none, none, 0, 0, none, []⟩ := rfl

variable (s : State L) (id : Int)

/-! ## Operations on the job itself -/

theorem view_saveJob (job : Job) :
    (s.saveJob job).view id =
      if id = job.id then { s.view id with row := (s.view id).row.map fun _ => job }
      else s.view id := by
  by_cases h : id = job.id <;> simp [view, saveJob, JobTable.findById_save, h]

theorem status?_saveJob (job : Job) :
    ((s.saveJob job).view job.id).status? = (s.view job.id).status?.map fun _ => job.status := by
  rw [view_saveJob, if_pos rfl, JobView.status?, JobView.status?]
  cases (s.view job.id).row <;> rfl

theorem view_insertJob (data : JobData) :
    (s.insertJob data).view id =
      if id = s.jobs.nextId then { s.view id with row := some { data with id := id } }
      else s.view id := by
  by_cases h : id = s.jobs.nextId <;> simp [view, insertJob, JobTable.findById_insert, h]

theorem view_scheduleJob (jobId time : Int) :
    (s.scheduleJob jobId time).view id =
      if id = jobId then { s.view id with score := some time } else s.view id := by
  by_cases h : id = jobId <;>
    simp [view, scheduleJob, DelayQueue.score?, DelayQueue.scheduleJob, SortedSet.score?_add, h]

theorem view_removeJob (jobId : Int) :
    (s.removeJob (longToString jobId)).view id =
      if id = jobId then { s.view id with score := none } else s.view id := by
  by_cases h : id = jobId <;>
    simp [view, removeJob, DelayQueue.score?, DelayQueue.removeJob, SortedSet.score?_remove, h]

theorem view_sendJob (jobId : Int) :
    (s.sendJob (longToString jobId)).view id =
      if id = jobId then
        { s.view id with inFlight := (s.view id).inFlight + 1, sent := (s.view id).sent + 1 }
      else s.view id := by
  by_cases h : id = jobId <;> simp [view, sendJob, carries_longToString, h]

theorem view_setCancelled (jobId : Int) (deadline : Option Int) :
    (s.setCancelled jobId deadline).view id =
      if id = jobId then { s.view id with flag := deadline } else s.view id := by
  by_cases h : id = jobId <;> simp [view, setCancelled, h]

theorem view_recordExecution (jobId : Int) (succeeded : Bool) :
    (s.recordExecution jobId succeeded).view id =
      if id = jobId then
        { s.view id with executions := (s.view id).executions ++ [succeeded] }
      else s.view id := by
  by_cases h : id = jobId
  · simp [view, recordExecution, h]
  · simp [view, recordExecution, h, Ne.symm h]

theorem inFlight_pos {message : String} (hmem : message ∈ s.topic)
    (hcarries : carries id message = true) : 1 ≤ (s.view id).inFlight :=
  List.countP_pos_iff.mpr ⟨message, hmem, hcarries⟩

/-- Taking an undelivered message off the topic. -/
theorem view_erase_topic {message : String} (hmem : message ∈ s.topic) :
    ({ s with topic := s.topic.erase message } : State L).view id =
      if carries id message then { s.view id with inFlight := (s.view id).inFlight - 1 }
      else s.view id := by
  have hcount := List.countP_erase (carries id) s.topic message
  by_cases h : carries id message = true
  · simp [view, h, hcount, hmem]
  · simp [view, h, hcount]

/-! ## Operations no job sees -/

@[simp] theorem view_publish (incident : Incident) :
    (s.publish incident).view id = s.view id := rfl

@[simp] theorem view_setFailureCount (type : String) (value : Nat) :
    (s.setFailureCount type value).view id = s.view id := rfl

@[simp] theorem view_setCircuitOpen (type : String) (value : Bool) :
    (s.setCircuitOpen type value).view id = s.view id := rfl

@[simp] theorem view_setLastFailureTime (type : String) (value : Int) :
    (s.setLastFailureTime type value).view id = s.view id := rfl

@[simp] theorem view_setLastRun (time : Option Int) :
    ({ s with lastRun := time } : State L).view id = s.view id := rfl

@[simp] theorem view_setLimiter (limiter : L) :
    ({ s with limiter := limiter } : State L).view id = s.view id := rfl

end State

end JobQueue
