import JobQueue.Lifecycle.Refinement

/-!
# Who carries a job

A job that is not finished has to be somewhere from where the system picks it
up: in the jobs table under a status the watcher looks for, in the delay queue,
or in a message.  This carrier is unique as long as no message is duplicated
(`Carried`), and exists in any case (`Kept`).
-/

namespace JobQueue

open KafkaConsumerService Call

/-! ## Without duplicates -/

/-- The carrier of a job is the one its status names, and there is no other. -/
structure Carried (v : JobView) : Prop where
  inFlight : v.inFlight = if v.status? = some .queued then 1 else 0
  score : v.score ≠ none ↔ v.status? = some .scheduled
  settled : v.status? ≠ some .processing
  retryTime : v.status? = some .retry → v.retryTime? ≠ none

/-- The moves of a system without duplicates. -/
def Move.Regular : Move → Prop
  | requeue => False
  | consume .again _ => False
  | _ => True

theorem Call.Regular.allows {L : Type} [RateLimiter L] {c : Call} (hregular : c.Regular)
    {env : CallEnv} {s : State L} {id : Int} {m : Move} (h : c.Allows env s id m) :
    m.Regular := by
  cases m with
  | requeue =>
      obtain rfl : c = .requeueJob id := h
      exact hregular.elim
  | consume delivery outcome =>
      cases delivery with
      | first => trivial
      | again =>
          obtain ⟨⟨message, rfl, -⟩, -⟩ := h
          exact hregular.elim
  | create | sendNow | requestCancel | schedule | scheduleRetry | reinsert | dispatch | drop =>
      trivial

theorem Call.NoRequeue.allows {L : Type} [RateLimiter L] {c : Call} (h : c.NoRequeue)
    {env : CallEnv} {s : State L} {id : Int} {m : Move} (hallowed : c.Allows env s id m) :
    m ≠ .requeue := by
  rintro rfl
  obtain rfl : c = .requeueJob id := hallowed
  exact h

/-- The row a failed attempt leaves is FAILED, or RETRY with its retry time. -/
theorem failedRow_cases (job : Job) (now : Int) :
    (failedRow job now).status = .failed ∨
      ((failedRow job now).status = .retry ∧ (failedRow job now).nextRetryTime ≠ none) := by
  unfold failedRow
  split_ifs
  · exact .inl rfl
  · exact .inr ⟨rfl, by simp [deferred]⟩

namespace Carried

variable {v : JobView} {id : Int}

/-- An undelivered message means that the job is QUEUED. -/
theorem queued_of_inFlight (h : Carried v) (hpos : 1 ≤ v.inFlight) :
    v.status? = some .queued ∧ v.inFlight = 1 ∧ v.score = none := by
  have hin := h.inFlight
  split_ifs at hin with hqueued
  · refine ⟨hqueued, hin, ?_⟩
    by_contra hscore
    have hscheduled := h.score.mp hscore
    rw [hqueued] at hscheduled
    cases hscheduled
  · omega

/-- The last delivery of a QUEUED job leaves it without a carrier, so any new
status but QUEUED, SCHEDULED and PROCESSING is right. -/
theorem of_row (h : Carried v) (hpos : 1 ≤ v.inFlight) {w : JobView} (job : Job)
    (hrow : w.row = some job) (hscore : w.score = v.score)
    (hin : w.inFlight = v.inFlight - 1)
    (hstatus : job.status = .cancelled ∨ job.status = .completed ∨ job.status = .failed ∨
      (job.status = .retry ∧ job.nextRetryTime ≠ none)) : Carried w := by
  obtain ⟨-, hone, hnone⟩ := h.queued_of_inFlight hpos
  have hw := JobView.status?_of_row hrow
  have htime := JobView.retryTime?_of_row hrow
  constructor
  · rw [hw, hin, hone]
    rcases hstatus with hs | hs | hs | ⟨hs, -⟩ <;> simp [hs]
  · rw [hw, hscore, hnone]
    rcases hstatus with hs | hs | hs | ⟨hs, -⟩ <;> simp [hs]
  · rw [hw]
    rcases hstatus with hs | hs | hs | ⟨hs, -⟩ <;> simp [hs]
  · intro hretry
    rw [hw] at hretry
    rw [htime]
    rcases hstatus with hs | hs | hs | ⟨hs, ht⟩
    · simp [hs] at hretry
    · simp [hs] at hretry
    · simp [hs] at hretry
    · exact ht

/-- A delivery that ends with `outcome`. -/
theorem consume (h : Carried v) {outcome : Outcome}
    (henabled : (Move.consume .first outcome).Enabled v) :
    Carried ((Move.consume .first outcome).apply id v) := by
  obtain ⟨hpos, houtcome⟩ := henabled
  have hpos : 1 ≤ v.inFlight := hpos
  obtain ⟨hqueued, -, -⟩ := h.queued_of_inFlight hpos
  obtain ⟨job, hrow, hstatus⟩ := JobView.exists_row hqueued
  cases outcome with
  | honour now =>
      exact h.of_row hpos { job with status := .cancelled }
        (by simp [Move.apply, Outcome.apply, JobView.withStatus, hrow]) rfl rfl (.inl rfl)
  | defer time =>
      exact h.of_row hpos (deferred job time)
        (by simp [Move.apply, Outcome.apply, hrow]) rfl rfl
        (.inr (.inr (.inr ⟨rfl, by simp [deferred]⟩)))
  | ignore => exact absurd hqueued houtcome
  | complete =>
      exact h.of_row hpos { job with status := .completed }
        (by simp [Move.apply, Outcome.apply, JobView.withStatus, hrow]) rfl rfl
        (.inr (.inl rfl))
  | fail now =>
      exact h.of_row hpos (failedRow job now)
        (by simp [Move.apply, Outcome.apply, hrow]) rfl rfl
        (.inr (.inr (failedRow_cases job now)))

/-- Every move of a system without duplicates moves the carrier with the
status. -/
theorem move (m : Move) (hregular : m.Regular) (henabled : m.Enabled v) (h : Carried v) :
    Carried (m.apply id v) := by
  have hin := h.inFlight
  have hscore := h.score
  -- the guard of a move names the status, and the status the old carrier
  cases m with
  | create data =>
      obtain ⟨hnone, hpending, -⟩ := henabled
      have hstatus : v.status? = none := by rw [JobView.status?, hnone, Option.map_none]
      rw [hstatus] at hin hscore
      constructor <;> simp_all [Move.apply, JobView.status?]
  | sendNow =>
      obtain ⟨job, hrow, hpending⟩ := JobView.exists_row henabled
      rw [henabled] at hin hscore
      constructor <;> simp_all [Move.apply, JobView.withMessage, JobView.withStatus,
        JobView.status?]
  | requestCancel deadline => exact ⟨h.inFlight, h.score, h.settled, h.retryTime⟩
  | schedule =>
      obtain ⟨job, hrow, hpending⟩ := JobView.exists_row henabled
      rw [henabled] at hin hscore
      constructor <;> simp_all [Move.apply, JobView.withStatus, JobView.status?]
  | scheduleRetry =>
      obtain ⟨hstatus, htime⟩ := henabled
      obtain ⟨job, hrow, -⟩ := JobView.exists_row hstatus
      rw [hstatus] at hin hscore
      constructor <;> simp_all [Move.apply, JobView.withStatus, JobView.status?,
        JobView.retryTime?]
  | reinsert now =>
      obtain ⟨hstatus, job, hrow, -⟩ := henabled
      rw [hstatus] at hin hscore
      constructor <;> simp_all [Move.apply, JobView.status?]
  | dispatch now =>
      obtain ⟨hstatus, -⟩ := henabled
      obtain ⟨job, hrow, -⟩ := JobView.exists_row hstatus
      rw [hstatus] at hin hscore
      constructor <;> simp_all [Move.apply, JobView.withMessage, JobView.withStatus,
        JobView.status?]
  | drop now =>
      -- without duplicates the queue holds no entry of a job that is not SCHEDULED
      obtain ⟨hstatus, score, hready, -⟩ := henabled
      exact absurd (hscore.mp (by simp [hready])) hstatus
  | requeue => exact hregular.elim
  | consume delivery outcome =>
      cases delivery with
      | first => exact h.consume henabled
      | again => exact hregular.elim

end Carried

/-! ## With duplicates -/

/-- Some carrier exists: stale messages and stale queue entries may exist as
well. -/
structure Kept (v : JobView) : Prop where
  scheduled : v.status? = some .scheduled → v.score ≠ none
  queued : v.status? = some .queued → 1 ≤ v.inFlight
  retry : v.status? = some .retry → v.retryTime? ≠ none
  settled : v.status? ≠ some .processing

namespace Kept

variable {v : JobView} {id : Int}

/-- A status without a carrier of its own. -/
theorem of_status {w : JobView} (status : JobStatus) (hstatus : w.status? = some status)
    (hquiet : status = .pending ∨ status = .cancelled ∨ status = .completed ∨
      status = .failed ∨ (status = .retry ∧ w.retryTime? ≠ none)) : Kept w := by
  rcases hquiet with rfl | rfl | rfl | rfl | ⟨rfl, htime⟩ <;>
    constructor <;> simp_all

/-- A delivery takes a message only from a job it moves out of QUEUED. -/
theorem consume (h : Kept v) {delivery : Delivery} {outcome : Outcome}
    (henabled : outcome.Enabled v) : Kept ((Move.consume delivery outcome).apply id v) := by
  cases outcome with
  | honour now =>
      obtain ⟨job, hrow⟩ := Option.isSome_iff_exists.mp henabled.1
      exact of_status .cancelled
        (by simp [Move.apply, Outcome.apply, JobView.withStatus, JobView.status?, hrow])
        (.inr (.inl rfl))
  | defer time =>
      obtain ⟨job, hrow⟩ := Option.isSome_iff_exists.mp henabled
      exact of_status .retry
        (by simp [Move.apply, Outcome.apply, JobView.status?, hrow, deferred])
        (.inr (.inr (.inr (.inr ⟨rfl, by
          simp [Move.apply, Outcome.apply, JobView.retryTime?, hrow, deferred]⟩))))
  | ignore =>
      -- the message is gone, but the job does not depend on it
      exact ⟨h.scheduled, fun hqueued => absurd hqueued henabled, h.retry, h.settled⟩
  | complete =>
      obtain ⟨job, hrow, -⟩ := JobView.exists_row henabled.1
      exact of_status .completed
        (by simp [Move.apply, Outcome.apply, JobView.withStatus, JobView.status?, hrow])
        (.inr (.inr (.inl rfl)))
  | fail now =>
      obtain ⟨job, hrow, -⟩ := JobView.exists_row henabled
      have hstatus : ((Move.consume delivery (.fail now)).apply id v).status? =
          some (failedRow job now).status := by
        simp [Move.apply, Outcome.apply, JobView.status?, hrow]
      have htime : ((Move.consume delivery (.fail now)).apply id v).retryTime? =
          (failedRow job now).nextRetryTime := by
        simp [Move.apply, Outcome.apply, JobView.retryTime?, hrow]
      apply of_status _ hstatus
      rcases failedRow_cases job now with hfailed | ⟨hretry, hset⟩
      · exact .inr (.inr (.inr (.inl hfailed)))
      · exact .inr (.inr (.inr (.inr ⟨hretry, htime ▸ hset⟩)))

/-- No move takes the last carrier of a job. -/
theorem move (m : Move) (henabled : m.Enabled v) (h : Kept v) : Kept (m.apply id v) := by
  cases m with
  | create data =>
      exact of_status .pending (by simp [Move.apply, JobView.status?, henabled.2.1])
        (.inl rfl)
  | sendNow =>
      obtain ⟨job, hrow, -⟩ := JobView.exists_row henabled
      constructor <;> simp_all [Move.apply, JobView.withMessage, JobView.withStatus,
        JobView.status?]
  | requestCancel deadline => exact ⟨h.scheduled, h.queued, h.retry, h.settled⟩
  | schedule =>
      obtain ⟨job, hrow, -⟩ := JobView.exists_row henabled
      constructor <;> simp_all [Move.apply, JobView.withStatus, JobView.status?]
  | scheduleRetry =>
      obtain ⟨hstatus, htime⟩ := henabled
      obtain ⟨job, hrow, -⟩ := JobView.exists_row hstatus
      constructor <;> simp_all [Move.apply, JobView.withStatus, JobView.status?]
  | reinsert now =>
      obtain ⟨hstatus, job, hrow, -⟩ := henabled
      constructor <;> simp_all [Move.apply, JobView.status?]
  | dispatch now =>
      obtain ⟨job, hrow, -⟩ := JobView.exists_row henabled.1
      constructor <;> simp_all [Move.apply, JobView.withMessage, JobView.withStatus,
        JobView.status?]
  | drop now =>
      exact ⟨fun hstatus => absurd hstatus henabled.1, h.queued, h.retry, h.settled⟩
  | requeue =>
      obtain ⟨status, hstatus, -⟩ := henabled
      obtain ⟨job, hrow, -⟩ := JobView.exists_row hstatus
      constructor <;> simp_all [Move.apply, JobView.withMessage, JobView.withStatus,
        JobView.status?]
  | consume delivery outcome => exact h.consume henabled.2

end Kept

/-! ## Runs -/

section Runs

variable {L : Type} [RateLimiter L] {limiter : L} {labels : List (Call × CallEnv)} {s t : State L}

theorem Carried.step {label : Call × CallEnv} (hstep : RegularStep s label t) (id : Int)
    (h : Carried (s.view id)) : Carried (t.view id) := by
  obtain ⟨hregular, henabled, rfl⟩ := hstep
  refine (Call.life_exec label.2 s id label.1 henabled).invariant (fun v => Carried v) ?_ h
  intro m v hallowed hm hv
  exact Carried.move m (hregular.allows hallowed) hm hv

theorem Kept.step {label : Call × CallEnv} (hstep : Call.Step s label t) (id : Int)
    (h : Kept (s.view id)) : Kept (t.view id) := by
  obtain ⟨henabled, rfl⟩ := hstep
  exact (Call.life_exec label.2 s id label.1 henabled).invariant
    (fun v => Kept v) (fun m v _ hm hv => Kept.move m hm hv) h

theorem carried_of_run (hrun : Run RegularStep (State.empty limiter) labels s) (id : Int) :
    Carried (s.view id) := by
  refine hrun.invariant (fun s => Carried (s.view id))
    (fun s label t _ hs hstep => Carried.step hstep id hs) ?_
  rw [State.view_empty]
  constructor <;> simp [JobView.status?]

theorem kept_of_run (hrun : Run Call.Step (State.empty limiter) labels s) (id : Int) :
    Kept (s.view id) := by
  refine hrun.invariant (fun s => Kept (s.view id))
    (fun s label t _ hs hstep => Kept.step hstep id hs) ?_
  rw [State.view_empty]
  constructor <;> simp [JobView.status?]

/-- The unique-carrier invariant.  A run without duplicates, with any clock
readings, executor outcomes and limiter, has for every job one undelivered
message if it is QUEUED and none otherwise, has it in the delay queue exactly
when it is SCHEDULED, and leaves no job PROCESSING or in RETRY without a retry
time. -/
theorem unique_carrier (hrun : Run RegularStep (State.empty limiter) labels s) {id : Int}
    {job : Job} (hrow : s.jobs.findById id = some job) :
    s.topic.countP (carries id) = (if job.status = .queued then 1 else 0) ∧
      (s.scheduledJobs.score? id ≠ none ↔ job.status = .scheduled) ∧
      job.status ≠ .processing ∧
      (job.status = .retry → job.nextRetryTime ≠ none) := by
  have hcarried := carried_of_run hrun id
  have hview : (s.view id).row = some job := hrow
  have hstatus := JobView.status?_of_row hview
  have hin : (s.view id).inFlight = if job.status = .queued then 1 else 0 := by
    simpa [hstatus] using hcarried.inFlight
  have hscore : (s.view id).score ≠ none ↔ job.status = .scheduled := by
    simpa [hstatus] using hcarried.score
  have hsettled : job.status ≠ .processing := by
    simpa [hstatus] using hcarried.settled
  have htime : job.status = .retry → job.nextRetryTime ≠ none := by
    simpa [hstatus, JobView.retryTime?_of_row hview] using hcarried.retryTime
  exact ⟨hin, hscore, hsettled, htime⟩

/-- No job is lost, with duplicate deliveries and manual requeues in any
order. -/
theorem no_job_lost (hrun : Run Call.Step (State.empty limiter) labels s) {id : Int}
    {job : Job} (hrow : s.jobs.findById id = some job) :
    (job.status = .scheduled → s.scheduledJobs.score? id ≠ none) ∧
      (job.status = .queued → 1 ≤ s.topic.countP (carries id)) ∧
      (job.status = .retry → job.nextRetryTime ≠ none) ∧
      job.status ≠ .processing := by
  have hkept := kept_of_run hrun id
  have hview : (s.view id).row = some job := hrow
  have hstatus := JobView.status?_of_row hview
  refine ⟨fun h => hkept.scheduled ?_, fun h => hkept.queued ?_, fun h => ?_, fun h => ?_⟩
  · rw [hstatus, h]
  · rw [hstatus, h]
  · rw [← JobView.retryTime?_of_row hview]
    exact hkept.retry (by rw [hstatus, h])
  · exact hkept.settled (by rw [hstatus, h])

end Runs

/-- A job for 10:00 that the watcher schedules, the dispatcher sends, and whose
executor fails once. -/
def oneRetry : List (Call × CallEnv) :=
  let fails : Except JavaException Unit := .error ⟨some "connection refused"⟩
  [(.createJob (.scheduled "API" "10:00"), .within 1000 (.ok ())),
    (.watch, .within 16190000 (.ok ())),
    (.dispatch, .within 16200500 (.ok ())),
    (.consume "1", .within 16201000 fails)]

theorem unique_carrier_oneRetry :
    (Call.execAll oneRetry (State.empty LuaLimiter.empty)).topic.countP (carries 1) = 0 := by
  have hrun : Run RegularStep (State.empty LuaLimiter.empty) oneRetry
      (Call.execAll oneRetry (State.empty LuaLimiter.empty)) :=
    Call.run_execAll (by decide) (by decide)
  have hrow : (Call.execAll oneRetry (State.empty LuaLimiter.empty)).jobs.findById 1 =
      some ⟨⟨"API", .retry, none, none, none, 1, 16200000, some 16203000⟩, 1⟩ := by decide
  exact (unique_carrier hrun hrow).1

/-- A job that is requeued while QUEUED, delivered twice, fails, is delivered
once more and is scheduled again. -/
def requeuedTwice : List (Call × CallEnv) :=
  [(.createJob (.immediate "LOG"), .within 1000 (.ok ())),
    (.requeueJob 1, .within 2000 (.ok ())),
    (.consume "1", .within 3000 (.error ⟨none⟩)),
    (.redeliver "1", .within 4000 (.ok ())),
    (.watch, .within 4500 (.ok ()))]

theorem no_job_lost_requeuedTwice :
    (Call.execAll requeuedTwice (State.empty LuaLimiter.empty)).scheduledJobs.score? 1 ≠
      none := by
  have hrun : Run (fun s label t => True ∧ Call.Step s label t) (State.empty LuaLimiter.empty)
      requeuedTwice (Call.execAll requeuedTwice (State.empty LuaLimiter.empty)) :=
    Call.run_execAll (P := fun _ => True) (fun _ _ => trivial) (by decide)
  have hrow : (Call.execAll requeuedTwice (State.empty LuaLimiter.empty)).jobs.findById 1 =
      some ⟨⟨"LOG", .scheduled, none, none, none, 1, 1000, some 5000⟩, 1⟩ := by decide
  exact (no_job_lost (hrun.mono fun _ _ _ h => h.2) hrow).1 rfl

end JobQueue
