import JobQueue.Lib.Transition
import JobQueue.Lifecycle.View

/-!
# The life of one job

The abstract model of the system, as one job experiences it.  A `Move` is what
can happen to the job: it is created, scheduled, dispatched, consumed, put back,
requeued.  Each move has a guard and an effect on the job's view, and nothing
else ever happens to a job; that whole calls of the services are sequences of
moves is proved in `Refinement`.
-/

namespace JobQueue

open KafkaConsumerService

/-- How a delivery of a message ends for its job. -/
inductive Outcome where
  | honour (now : Int)
  | defer (time : Int)
  | ignore
  | complete
  | fail (now : Int)
  deriving DecidableEq, Repr

/-- A message comes for the first time, or once more. -/
inductive Delivery where
  | first
  | again
  deriving DecidableEq, Repr

inductive Move where
  | create (data : JobData)
  | sendNow
  | requestCancel (deadline : Int)
  | schedule
  | scheduleRetry
  | reinsert (now : Int)
  | dispatch (now : Int)
  | drop (now : Int)
  | requeue
  | consume (delivery : Delivery) (outcome : Outcome)
  deriving DecidableEq, Repr

namespace JobView

/-- The row with another status. -/
def withStatus (v : JobView) (status : JobStatus) : JobView :=
  { v with row := v.row.map fun job => { job with status := status } }

/-- One more message in the topic. -/
def withMessage (v : JobView) : JobView :=
  { v with inFlight := v.inFlight + 1, sent := v.sent + 1 }

/-- The cancellation flag is set and has not expired at `now`. -/
def Flagged (v : JobView) (now : Int) : Prop :=
  ∃ deadline, v.flag = some deadline ∧ now < deadline

/-- The job is in the delay queue with a score a dispatch at `now` asks for. -/
def Ready (v : JobView) (now : Int) : Prop :=
  ∃ score, v.score = some score ∧ 0 ≤ score ∧ score ≤ now

/-- Whether the type of the row names an executor. -/
def HasExecutor (v : JobView) : Prop :=
  ∃ job executor, v.row = some job ∧ ExecutorFactory.resolve job.type = some executor

@[simp] theorem status?_withMessage (v : JobView) : v.withMessage.status? = v.status? := rfl

@[simp] theorem retryTime?_withMessage (v : JobView) :
    v.withMessage.retryTime? = v.retryTime? := rfl

@[simp] theorem status?_withStatus (v : JobView) (status : JobStatus) :
    (v.withStatus status).status? = v.row.map fun _ => status := by
  cases hrow : v.row <;> simp [withStatus, status?, hrow]

@[simp] theorem retryTime?_withStatus (v : JobView) (status : JobStatus) :
    (v.withStatus status).retryTime? = v.retryTime? := by
  cases hrow : v.row <;> simp [withStatus, retryTime?, hrow]

end JobView

/-! ## Outcomes -/

namespace Outcome

def Enabled : Outcome → JobView → Prop
  | honour now, v => v.row.isSome ∧ v.Flagged now
  | defer _, v => v.row.isSome
  | ignore, v => v.status? ≠ some .queued
  | complete, v => v.status? = some .queued ∧ v.HasExecutor
  | fail _, v => v.status? = some .queued

/-- The executor call of a failed attempt, if the type names an executor. -/
def failedExecutions (job : Job) : List Bool :=
  match ExecutorFactory.resolve job.type with
  | none => []
  | some _ => [false]

def apply : Outcome → JobView → JobView
  | honour _, v => { v.withStatus .cancelled with flag := none }
  | defer time, v => { v with row := v.row.map fun job => deferred job time }
  | ignore, v => v
  | complete, v =>
      { v.withStatus .completed with executions := v.executions ++ [true] }
  | fail now, v =>
      { v with
        row := v.row.map fun job => failedRow job now
        executions := v.executions ++ v.row.elim [] failedExecutions }

end Outcome

/-! ## Moves -/

namespace Delivery

/-- How many undelivered messages a delivery takes. -/
def taken : Delivery → Nat
  | first => 1
  | again => 0

end Delivery

namespace Move

def Enabled : Move → JobView → Prop
  | create data, v => v.row = none ∧ data.status = .pending ∧ data.nextRetryTime = none
  | sendNow, v => v.status? = some .pending
  | requestCancel _, _ => True
  | schedule, v => v.status? = some .pending
  | scheduleRetry, v => v.status? = some .retry ∧ v.retryTime? ≠ none
  | reinsert now, v =>
      v.status? = some .scheduled ∧ ∃ job, v.row = some job ∧ job.scheduleTime ≤ now
  | dispatch now, v => v.status? = some .scheduled ∧ v.Ready now
  | drop now, v => v.status? ≠ some .scheduled ∧ v.Ready now
  | requeue, v => ∃ status, v.status? = some status ∧ status ≠ .completed ∧ status ≠ .cancelled
  | consume delivery outcome, v => delivery.taken ≤ v.inFlight ∧ outcome.Enabled v

/-- The view of job `id` after the move. -/
def apply (id : Int) : Move → JobView → JobView
  | create data, v => { v with row := some { data with id := id } }
  | sendNow, v => (v.withStatus .queued).withMessage
  | requestCancel deadline, v => { v with flag := some deadline }
  | schedule, v =>
      { v.withStatus .scheduled with score := v.row.map fun job => job.scheduleTime }
  | scheduleRetry, v => { v.withStatus .scheduled with score := v.retryTime? }
  | reinsert _, v => { v with score := v.row.map fun job => job.scheduleTime }
  | dispatch _, v => { (v.withStatus .queued).withMessage with score := none }
  | drop _, v => { v with score := none }
  | requeue, v => (v.withStatus .queued).withMessage
  | consume delivery outcome, v =>
      { outcome.apply v with inFlight := v.inFlight - delivery.taken }

end Move

/-- One allowed move of job `id`. -/
def LifeStep (allowed : Move → Prop) (id : Int) (v w : JobView) : Prop :=
  ∃ m, allowed m ∧ m.Enabled v ∧ w = m.apply id v

/-- At most one allowed move. -/
abbrev AtMostOne (allowed : Move → Prop) (id : Int) : JobView → JobView → Prop :=
  Relation.ReflGen (LifeStep allowed id)

/-- A sequence of allowed moves. -/
abbrev Life (allowed : Move → Prop) (id : Int) : JobView → JobView → Prop :=
  Relation.ReflTransGen (LifeStep allowed id)

namespace Life

variable {allowed allowed' : Move → Prop} {id : Int} {v w : JobView}

theorem atMostOne {m : Move} (hallowed : allowed m) (henabled : m.Enabled v) :
    AtMostOne allowed id v (m.apply id v) :=
  .single ⟨m, hallowed, henabled, rfl⟩

theorem one (id : Int) (m : Move) (hallowed : allowed m) (henabled : m.Enabled v) :
    Life allowed id v (m.apply id v) :=
  .single ⟨m, hallowed, henabled, rfl⟩

theorem mono (himp : ∀ m, allowed m → allowed' m) (h : Life allowed id v w) :
    Life allowed' id v w :=
  Relation.ReflTransGen.mono
    (fun _ _ ⟨m, hallowed, hrest⟩ => ⟨m, himp m hallowed, hrest⟩) _ _ h

/-- What every allowed move keeps, a sequence of moves keeps. -/
theorem invariant (Inv : JobView → Prop) (h : Life allowed id v w)
    (hmove : ∀ m v, allowed m → m.Enabled v → Inv v → Inv (m.apply id v)) (hv : Inv v) :
    Inv w := by
  induction h with
  | refl => exact hv
  | tail _ hstep ih =>
      obtain ⟨m, hallowed, henabled, rfl⟩ := hstep
      exact hmove m _ hallowed henabled ih

/-- Scheduling passes leave a SCHEDULED job alone. -/
theorem eq_of_scheduled
    (h : Life (fun m => m = .schedule ∨ m = .scheduleRetry) id v w)
    (hstatus : v.status? = some .scheduled) : w = v := by
  refine h.invariant (fun w => w = v) ?_ rfl
  rintro m _ (rfl | rfl) hm rfl
  · rw [Move.Enabled, hstatus] at hm
    cases hm
  · rw [Move.Enabled, hstatus] at hm
    cases hm.1

end Life

end JobQueue
