import JobQueue.Lifecycle.Move

/-!
# Whole calls are sequences of moves

Every whole call, seen by one job, is a sequence of the moves `Call.Allows`
lists for it.  The loops of the services handle each job at most once, so each
loop contributes at most one move.

The consumer and the dispatcher make at most one move per job; for them the
move itself is determined (`consumeOutcome`, `life_dispatch`).
-/

namespace JobQueue

open Decimal JobService RedisDispatcherService WatcherService KafkaConsumerService AdminService

variable {L : Type}

/-! ## Loops over a page -/

section Pages

variable {env : CallEnv} {q : JobQuery} (s : State L) (effect : Job → State L → State L)
variable (hother : ∀ id row t, id ≠ row.id → (effect row t).view id = t.view id)

include hother

/-- A job with a row on the page sees the iteration of its own row and no
other. -/
theorem view_page_of_mem {row : Job} (hrow : row ∈ env.page q s) :
    ∃ t, t.view row.id = s.view row.id ∧
      ((env.page q s).foldl (fun t row => effect row t) s).view row.id =
        (effect row t).view row.id := by
  have hnodup : ((env.page q s).map Job.id).Nodup := JobTable.nodup_select _ _ _
  have hunseen : ∀ other ∈ env.page q s, other ≠ row →
      ∀ t, (effect other t).view row.id = t.view row.id := by
    intro other hmem hne t
    apply hother
    intro heq
    exact hne (List.inj_on_of_nodup_map hnodup hmem hrow heq.symm)
  exact observe_foldl_of_mem (fun t => t.view row.id) effect hrow hnodup.of_map hunseen s

/-- A job without a row on the page sees nothing of the loop. -/
theorem view_page_of_not_mem {id : Int} (hnone : ∀ row ∈ env.page q s, row.id ≠ id) :
    ((env.page q s).foldl (fun t row => effect row t) s).view id = s.view id :=
  observe_foldl_of_unseen (fun t => t.view id) effect _
    (fun row hrow t => hother id row t (Ne.symm (hnone row hrow))) s

/-- A loop over a page of rows makes at most one move of a job: that of its own
row. -/
theorem atMostOne_page {allowed : Move → Prop} (id : Int)
    (hown : ∀ row t, row ∈ env.page q s → row.id = id → (t.view id).row = some row →
      AtMostOne allowed id (t.view id) ((effect row t).view id)) :
    AtMostOne allowed id (s.view id)
      (((env.page q s).foldl (fun t row => effect row t) s).view id) := by
  by_cases hmem : ∃ row ∈ env.page q s, row.id = id
  · obtain ⟨row, hrow, rfl⟩ := hmem
    obtain ⟨t, ht, hfold⟩ := view_page_of_mem s effect hother hrow
    have hfind : (t.view row.id).row = some row := by
      rw [ht]
      exact (JobTable.mem_select hrow).1
    rw [hfold, ← ht]
    exact hown row t hrow rfl hfind
  · rw [view_page_of_not_mem s effect hother fun row hrow hid => hmem ⟨row, hrow, hid⟩]

end Pages

/-! ## The watcher and the reconciliation -/

/-- The job is SCHEDULED and on the page of `q`. -/
def Selects (env : CallEnv) (q : JobQuery) (s : State L) (id : Int) : Prop :=
  ∃ job ∈ env.page q s, job.id = id ∧ job.status = .scheduled

section Loops

variable {allowed : Move → Prop} (env : CallEnv) (s : State L) (id : Int)

theorem view_recoverRowEffect_of_ne (job : Job) (t : State L) (h : id ≠ job.id) :
    (recoverRowEffect job t).view id = t.view id := by
  unfold recoverRowEffect
  split_ifs <;> simp [State.view_saveJob, State.view_scheduleJob, h]

theorem view_scheduleRetryEffect_of_ne (job : Job) (t : State L) (h : id ≠ job.id) :
    (scheduleRetryEffect job t).view id = t.view id := by
  unfold scheduleRetryEffect
  split_ifs <;> simp [State.view_saveJob, State.view_scheduleJob, h]

theorem view_schedulePendingEffect_of_ne (job : Job) (t : State L) (h : id ≠ job.id) :
    (schedulePendingEffect job t).view id = t.view id := by
  unfold schedulePendingEffect
  split_ifs <;> simp [State.view_saveJob, State.view_scheduleJob, h]

theorem view_reinsertOverdueEffect_of_ne (job : Job) (t : State L) (h : id ≠ job.id) :
    (reinsertOverdueEffect job t).view id = t.view id := by
  unfold reinsertOverdueEffect
  split_ifs <;> simp [State.view_scheduleJob, h]

variable {env s} in
/-- The first loop of the watcher makes every row of its page SCHEDULED. -/
theorem status?_schedulePending {job : Job} {now : Int}
    (hmem : job ∈ env.page (.findWindow 0 (now + 20000) 200) s) :
    (((env.page (.findWindow 0 (now + 20000) 200) s).foldl
      (fun t job => schedulePendingEffect job t) s).view job.id).status? = some .scheduled := by
  obtain ⟨t, ht, hfold⟩ := view_page_of_mem s schedulePendingEffect
    (fun id row t h => view_schedulePendingEffect_of_ne id row t h) hmem
  obtain ⟨hrow, hsel⟩ := JobTable.mem_select hmem
  have hview : (s.view job.id).row = some job := hrow
  have hpending := (JobQuery.of_selects_window hsel).1
  rw [hfold]
  simp [schedulePendingEffect, hpending, State.view_saveJob, State.view_scheduleJob, ht, hview,
    JobView.status?]

/-- The first loop of the recovery schedules a PENDING job and re-inserts a
SCHEDULED one. -/
theorem atMostOne_recoverRows (now : Int)
    (hschedule : allowed .schedule)
    (hreinsert : Selects env (.findPendingOrScheduledInRange (now - 60000) now 500) s id →
      allowed (.reinsert now)) :
    AtMostOne allowed id (s.view id)
      (((env.page (.findPendingOrScheduledInRange (now - 60000) now 500) s).foldl
        (fun t job => recoverRowEffect job t) s).view id) := by
  apply atMostOne_page s recoverRowEffect
    fun id row t h => view_recoverRowEffect_of_ne id row t h
  · rintro row t hmem rfl hrow
    obtain ⟨hstatus | hstatus, -, hdue⟩ :=
      JobQuery.of_selects_inRange (JobTable.mem_select hmem).2
    · have henabled : Move.schedule.Enabled (t.view row.id) := by
        rw [Move.Enabled, JobView.status?_of_row hrow, hstatus]
      convert Life.atMostOne hschedule henabled using 1
      simp only [recoverRowEffect, hstatus, if_true, State.view_saveJob,
        State.view_scheduleJob, hrow, Move.apply, JobView.withStatus, Option.map_some]
    · have hallowed : allowed (.reinsert now) := hreinsert ⟨row, hmem, rfl, hstatus⟩
      have henabled : (Move.reinsert now).Enabled (t.view row.id) :=
        ⟨by rw [JobView.status?_of_row hrow, hstatus], row, hrow, hdue⟩
      convert Life.atMostOne hallowed henabled using 1
      simp [recoverRowEffect, hstatus, State.view_scheduleJob, hrow, Move.apply]

/-- A loop that schedules the RETRY rows of a page. -/
theorem atMostOne_scheduleRetry (q : JobQuery)
    (hq : q.ForRetry) (hallowed : allowed .scheduleRetry) :
    AtMostOne allowed id (s.view id)
      (((env.page q s).foldl (fun t job => scheduleRetryEffect job t) s).view id) := by
  apply atMostOne_page s scheduleRetryEffect
    fun id row t h => view_scheduleRetryEffect_of_ne id row t h
  · rintro row t hmem rfl hrow
    obtain ⟨hstatus, time, htime⟩ := JobQuery.retry_of_selects hq (JobTable.mem_select hmem).2
    have henabled : Move.scheduleRetry.Enabled (t.view row.id) := by
      rw [Move.Enabled, JobView.status?_of_row hrow, JobView.retryTime?_of_row hrow, hstatus,
        htime]
      simp
    convert Life.atMostOne hallowed henabled using 1
    simp only [scheduleRetryEffect, hstatus, if_true, State.view_saveJob,
      State.view_scheduleJob, hrow, Move.apply, JobView.withStatus, Option.map_some,
      JobView.retryTime?_of_row hrow, htime, Option.getD_some]

/-- The recovery writes its rows in the other order, to the same effect. -/
theorem recoverRetryRowEffect_eq (job : Job) (t : State L) :
    recoverRetryRowEffect job t = scheduleRetryEffect job t := rfl

/-- A recovery schedules waiting jobs and re-inserts SCHEDULED ones. -/
theorem life_recover (now : Int)
    (hschedule : allowed .schedule) (hretry : allowed .scheduleRetry)
    (hreinsert : Selects env (.findPendingOrScheduledInRange (now - 60000) now 500) s id →
      allowed (.reinsert now)) :
    Life allowed id (s.view id) ((recoverEffect env now s).view id) := by
  have hrows := atMostOne_recoverRows env s id now hschedule hreinsert
  have hretries := atMostOne_scheduleRetry env
    ((env.page (.findPendingOrScheduledInRange (now - 60000) now 500) s).foldl
      (fun t job => recoverRowEffect job t) s)
    id (.findRetryInRange (now - 60000) now 500) trivial hretry
  simp only [recoverEffect, recoverRetryRowEffect_eq]
  exact hrows.to_reflTransGen.trans hretries.to_reflTransGen

/-- The first loop of the watcher schedules a PENDING row of its page. -/
theorem atMostOne_schedulePending (now : Int) (hschedule : allowed .schedule) :
    AtMostOne allowed id (s.view id)
      (((env.page (.findWindow 0 (now + 20000) 200) s).foldl
        (fun t job => schedulePendingEffect job t) s).view id) := by
  apply atMostOne_page s schedulePendingEffect
    fun id row t h => view_schedulePendingEffect_of_ne id row t h
  rintro row t hmem rfl hrow
  have hstatus := (JobQuery.of_selects_window (JobTable.mem_select hmem).2).1
  have henabled : Move.schedule.Enabled (t.view row.id) := by
    rw [Move.Enabled, JobView.status?_of_row hrow, hstatus]
  convert Life.atMostOne hschedule henabled using 1
  simp only [schedulePendingEffect, hstatus, if_true, State.view_saveJob,
    State.view_scheduleJob, hrow, Move.apply, JobView.withStatus, Option.map_some]

/-- The scheduling loops of the watcher. -/
theorem life_window (now : Int)
    (hschedule : allowed .schedule) (hretry : allowed .scheduleRetry) :
    Life allowed id (s.view id) ((windowEffect env now s).view id) := by
  have hrows := atMostOne_schedulePending env s id now hschedule
  have hretries := atMostOne_scheduleRetry env
    ((env.page (.findWindow 0 (now + 20000) 200) s).foldl
      (fun t job => schedulePendingEffect job t) s)
    id (.findRetryWindow 0 (now + 20000) 200) trivial hretry
  exact hrows.to_reflTransGen.trans hretries.to_reflTransGen

/-- The watcher recovers only when it finds a gap. -/
theorem life_gap (now : Int) (last : Option Int)
    (hschedule : allowed .schedule) (hretry : allowed .scheduleRetry)
    (hreinsert : GapDetected now last →
      Selects env (.findPendingOrScheduledInRange (now - 60000) now 500) s id →
      allowed (.reinsert now)) :
    Life allowed id (s.view id)
      ((gapEffect env now last { s with lastRun := some now }).view id) := by
  unfold gapEffect
  split_ifs with hgap
  · -- the incident is published first, which no job sees
    exact life_recover env
      (({ s with lastRun := some now } : State L).publish _) id now hschedule hretry
      (hreinsert hgap)
  · exact .refl

theorem life_watch (now : Int)
    (hschedule : allowed .schedule) (hretry : allowed .scheduleRetry)
    (hreinsert : GapDetected now s.lastRun →
      Selects env (.findPendingOrScheduledInRange (now - 60000) now 500) s id →
      allowed (.reinsert now)) :
    Life allowed id (s.view id) ((watchEffect env now s).view id) :=
  (life_gap env s id now s.lastRun hschedule hretry hreinsert).trans
    (life_window env _ id now hschedule hretry)

/-- A reconciliation re-inserts overdue SCHEDULED jobs and schedules due RETRY
ones. -/
theorem life_reconcile (now : Int) (hretry : allowed .scheduleRetry)
    (hreinsert : Selects env (.findOverdueScheduled now 500) s id →
      allowed (.reinsert now)) :
    Life allowed id (s.view id) ((reconcileEffect env now s).view id) := by
  have hrows : AtMostOne allowed id (s.view id)
      (((env.page (.findOverdueScheduled now 500) s).foldl
        (fun t job => reinsertOverdueEffect job t) s).view id) := by
    apply atMostOne_page s reinsertOverdueEffect
      fun id row t h => view_reinsertOverdueEffect_of_ne id row t h
    rintro row t hmem rfl hrow
    obtain ⟨hstatus, hdue⟩ := JobQuery.of_selects_overdue (JobTable.mem_select hmem).2
    have hallowed : allowed (.reinsert now) := hreinsert ⟨row, hmem, rfl, hstatus⟩
    have henabled : (Move.reinsert now).Enabled (t.view row.id) :=
      ⟨by rw [JobView.status?_of_row hrow, hstatus], row, hrow, hdue⟩
    convert Life.atMostOne hallowed henabled using 1
    simp only [reinsertOverdueEffect, hstatus, if_true, State.view_scheduleJob, hrow,
      Move.apply, Option.map_some]
  have hretries := atMostOne_scheduleRetry env
    ((env.page (.findOverdueScheduled now 500) s).foldl
      (fun t job => reinsertOverdueEffect job t) s)
    id (.findRetryDue now 500) trivial hretry
  exact hrows.to_reflTransGen.trans hretries.to_reflTransGen

end Loops

/-! ## The dispatcher -/

section Dispatcher

variable (s : State L) (id : Int) (now : Int)

/-- The ready members are the texts of the ready ids. -/
theorem mem_getReadyJobs {member : String} (h : member ∈ s.scheduledJobs.getReadyJobs now) :
    ∃ jobId : Int, member = longToString jobId ∧ (s.view jobId).Ready now := by
  obtain ⟨score, hscore, hlow, hhigh⟩ := (SortedSet.mem_rangeByScore _ _ _ _).mp h
  obtain ⟨jobId, rfl⟩ := s.scheduledJobs.decimal _ _ hscore
  exact ⟨jobId, rfl, score, hscore, hlow, hhigh⟩

theorem longToString_mem_getReadyJobs :
    longToString id ∈ s.scheduledJobs.getReadyJobs now ↔ (s.view id).Ready now :=
  SortedSet.mem_rangeByScore _ _ _ _

theorem view_dispatchOneEffect_of_ne {jobId : Int} (h : id ≠ jobId) (t : State L) :
    (dispatchOneEffect (longToString jobId) t).view id = t.view id := by
  rw [dispatchOneEffect, parseLong_longToString]
  cases hrow : t.jobs.findById jobId with
  | none => simp [hrow, State.view_removeJob, h]
  | some job =>
      have hid := JobTable.id_of_findById hrow
      by_cases hstatus : job.status = .scheduled <;>
        simp [hrow, hstatus, hid, State.view_removeJob, State.view_sendJob,
          State.view_saveJob, h]

/-- What a dispatch at `now` does to a ready job. -/
def dispatchMove (now : Int) (v : JobView) : Move :=
  if v.status? = some .scheduled then .dispatch now else .drop now

theorem view_dispatchOneEffect_self (t : State L) :
    (dispatchOneEffect (longToString id) t).view id =
      (dispatchMove now (t.view id)).apply id (t.view id) := by
  rw [dispatchOneEffect, parseLong_longToString]
  cases hrow : t.jobs.findById id with
  | none =>
      have hstatus : (t.view id).status? ≠ some .scheduled := by
        simp [JobView.status?, State.view_row, hrow]
      -- an entry without a row is dropped
      rw [dispatchMove, if_neg hstatus]
      simp only [hrow, State.view_removeJob, if_true, Move.apply]
  | some job =>
      have hid := JobTable.id_of_findById hrow
      have hview : (t.view id).row = some job := hrow
      by_cases hscheduled : job.status = .scheduled
      · have hstatus : (t.view id).status? = some .scheduled := by
          rw [JobView.status?_of_row hview, hscheduled]
        rw [dispatchMove, if_pos hstatus]
        simp only [hrow, hscheduled, hid, hview, if_true, State.view_removeJob,
          State.view_sendJob, State.view_saveJob, Move.apply, JobView.withStatus,
          JobView.withMessage, Option.map_some]
      · have hstatus : (t.view id).status? ≠ some .scheduled := by
          rw [JobView.status?_of_row hview]
          exact fun h => hscheduled (Option.some.inj h)
        rw [dispatchMove, if_neg hstatus]
        simp only [hrow, hscheduled, if_false, State.view_removeJob, if_true, Move.apply]

/-- A dispatch handles a ready job once. -/
theorem view_dispatchEffect_of_ready (hready : (s.view id).Ready now) :
    (dispatchEffect now s).view id =
      (dispatchMove now (s.view id)).apply id (s.view id) := by
  have hmem := (longToString_mem_getReadyJobs s id now).mpr hready
  have hnodup : (s.scheduledJobs.getReadyJobs now).Nodup := SortedSet.nodup_rangeByScore _ _ _
  have hunseen : ∀ other ∈ s.scheduledJobs.getReadyJobs now, other ≠ longToString id →
      ∀ t : State L, (dispatchOneEffect other t).view id = t.view id := by
    intro other hother hne t
    obtain ⟨jobId, rfl, -⟩ := mem_getReadyJobs s now hother
    exact view_dispatchOneEffect_of_ne id (fun h => hne (by rw [h])) t
  obtain ⟨t, ht, hfold⟩ := observe_foldl_of_mem (fun t => t.view id)
    dispatchOneEffect hmem hnodup hunseen s
  rw [dispatchEffect, hfold, view_dispatchOneEffect_self id now t, ht]

/-- A dispatch does not touch a job that is not ready. -/
theorem view_dispatchEffect_of_not_ready (hready : ¬ (s.view id).Ready now) :
    (dispatchEffect now s).view id = s.view id := by
  apply observe_foldl_of_unseen (fun t : State L => t.view id) dispatchOneEffect
  intro other hother t
  obtain ⟨jobId, rfl, hjob⟩ := mem_getReadyJobs s now hother
  exact view_dispatchOneEffect_of_ne id (fun h => hready (h ▸ hjob)) t

theorem dispatchMove_enabled {v : JobView} (hready : v.Ready now) :
    (dispatchMove now v).Enabled v := by
  unfold dispatchMove
  split_ifs with hstatus
  · exact ⟨hstatus, hready⟩
  · exact ⟨hstatus, hready⟩

end Dispatcher

/-! ## The consumer -/

section Consumer

variable (s : State L) (id : Int)

theorem isCancelled_iff (now : Int) :
    s.isCancelled id now = true ↔ (s.view id).Flagged now := by
  unfold State.isCancelled JobView.Flagged State.view
  cases s.cancelled id <;> simp

@[simp] theorem view_halfOpenEffect (job : Job) :
    (halfOpenEffect job s).view id = s.view id := by
  unfold halfOpenEffect
  split_ifs <;> rfl

@[simp] theorem view_countFailureEffect (now : Int) (job : Job) (e : JavaException) :
    (countFailureEffect now job e s).view id = s.view id := by
  unfold countFailureEffect
  dsimp only
  split_ifs <;> rfl

theorem failedRow_id (job : Job) (now : Int) : (failedRow job now).id = job.id := by
  unfold failedRow
  split_ifs <;> rfl

theorem view_catchEffect (now : Int) (job : Job) (e : JavaException) :
    (catchEffect now job e s).view id =
      if id = job.id then
        { s.view id with row := (s.view id).row.map fun _ => failedRow job now }
      else s.view id := by
  unfold catchEffect
  dsimp only
  split_ifs <;> simp_all [State.view_saveJob, failedRow_id]

theorem view_runExecutor_of_ne (outcome : Except JavaException Unit) {job : Job}
    (h : id ≠ job.id) : (runExecutor outcome job s).view id = s.view id := by
  unfold runExecutor
  cases ExecutorFactory.resolve job.type <;>
    simp [State.view_saveJob, State.view_recordExecution, h]

theorem view_runExecutor_self (outcome : Except JavaException Unit) {job : Job}
    (hrow : (s.view job.id).row = some job) :
    (runExecutor outcome job s).view job.id =
      { s.view job.id with
        row := some { job with status := .processing }
        executions := (s.view job.id).executions ++
          (ExecutorFactory.resolve job.type).elim [] fun _ => [outcome.isOk] } := by
  unfold runExecutor
  cases ExecutorFactory.resolve job.type <;>
    simp [State.view_saveJob, State.view_recordExecution, hrow]

theorem view_executeEffect_of_ne (now : Int) (outcome : Except JavaException Unit) {job : Job}
    (h : id ≠ job.id) : (executeEffect now outcome job s).view id = s.view id := by
  unfold executeEffect
  cases executionResult outcome job with
  | ok value => simp [State.view_saveJob, view_runExecutor_of_ne, h]
  | error e => simp [view_catchEffect, view_runExecutor_of_ne, h]

/-- The outcome of executing a QUEUED job. -/
def executeOutcome (now : Int) (outcome : Except JavaException Unit) (job : Job) : Outcome :=
  match executionResult outcome job with
  | .ok () => .complete
  | .error _ => .fail now

theorem view_executeEffect_self (now : Int) (outcome : Except JavaException Unit) {job : Job}
    (hrow : (s.view job.id).row = some job) :
    (executeEffect now outcome job s).view job.id =
      (executeOutcome now outcome job).apply (s.view job.id) := by
  have hrun := view_runExecutor_self s outcome hrow
  unfold executeEffect executeOutcome
  cases hresolve : ExecutorFactory.resolve job.type with
  | none =>
      -- the attempt fails without an executor call
      simp [executionResult, hresolve, view_catchEffect, hrun, Outcome.apply, hrow,
        Outcome.failedExecutions]
  | some executor =>
      cases outcome with
      | ok value =>
          simp [executionResult, hresolve, State.view_saveJob, hrun, Outcome.apply, hrow,
            JobView.withStatus, Except.isOk, Except.toBool]
      | error e =>
          simp [executionResult, hresolve, view_catchEffect, hrun, Outcome.apply, hrow,
            Outcome.failedExecutions, Except.isOk, Except.toBool]

theorem executeOutcome_enabled (now : Int) (outcome : Except JavaException Unit) {job : Job}
    (hrow : (s.view job.id).row = some job) (hqueued : job.status = .queued) :
    (executeOutcome now outcome job).Enabled (s.view job.id) := by
  have hstatus : (s.view job.id).status? = some .queued := by
    rw [JobView.status?_of_row hrow, hqueued]
  unfold executeOutcome executionResult
  cases hresolve : ExecutorFactory.resolve job.type with
  | none => exact hstatus
  | some executor =>
      cases outcome with
      | ok value => exact ⟨hstatus, job, executor, hrow, hresolve⟩
      | error e => exact hstatus

variable [RateLimiter L] (env : CallEnv)

/-- How a delivery of a message for the row `job` ends. -/
def consumeOutcome (job : Job) : Outcome :=
  match verdict env job s with
  | .cancelled => .honour (env.millis 0)
  | .rateLimited => .defer (env.millis 3 + 2000)
  | .circuitOpen => .defer (env.millis 1 + 5000)
  | .admitted =>
      if job.status = .queued then executeOutcome (env.millis 1) env.outcome job else .ignore

/-- How a delivery of a message for the job `id` ends. -/
def deliveryOutcome : Outcome :=
  match s.jobs.findById id with
  | none => .ignore
  | some job => consumeOutcome s env job

@[simp] theorem view_askLimiter (job : Job) :
    (askLimiter env job s).view id = s.view id := rfl

theorem view_consumeJobEffect_of_ne {job : Job} (h : id ≠ job.id) :
    (consumeJobEffect env job s).view id = s.view id := by
  unfold consumeJobEffect
  cases verdict env job s with
  | cancelled => simp [cancelEffect, State.view_setCancelled, State.view_saveJob, h]
  | rateLimited => simp [deferEffect, State.view_saveJob, deferred, h]
  | circuitOpen => simp [deferEffect, State.view_saveJob, deferred, h]
  | admitted =>
      dsimp only [attemptEffect]
      split_ifs
      · simp [view_executeEffect_of_ne, h]
      · simp

/-- A consumer changes its job as the outcome says. -/
theorem view_consumeJobEffect_self {job : Job} (hrow : (s.view job.id).row = some job) :
    (consumeJobEffect env job s).view job.id =
      (consumeOutcome s env job).apply (s.view job.id) := by
  unfold consumeJobEffect consumeOutcome
  cases verdict env job s with
  | cancelled =>
      simp [cancelEffect, State.view_setCancelled, State.view_saveJob, Outcome.apply, hrow,
        JobView.withStatus]
  | rateLimited =>
      simp [deferEffect, State.view_saveJob, Outcome.apply, deferred, hrow]
  | circuitOpen =>
      simp [deferEffect, State.view_saveJob, Outcome.apply, deferred, hrow]
  | admitted =>
      dsimp only [attemptEffect]
      split_ifs with hqueued
      · rw [view_executeEffect_self _ _ _ (by simpa using hrow)]
        simp
      · simp [Outcome.apply]

theorem verdict_eq_cancelled_iff (job : Job) :
    verdict env job s = .cancelled ↔ (s.view job.id).Flagged (env.millis 0) := by
  rw [← isCancelled_iff, verdict]
  split_ifs with hcancelled <;> simp [hcancelled]

theorem consumeOutcome_enabled {job : Job} (hrow : (s.view job.id).row = some job) :
    (consumeOutcome s env job).Enabled (s.view job.id) := by
  have hsome : (s.view job.id).row.isSome = true := by
    rw [hrow]
    rfl
  unfold consumeOutcome
  cases hverdict : verdict env job s with
  | cancelled => exact ⟨hsome, (verdict_eq_cancelled_iff s env job).mp hverdict⟩
  | rateLimited => exact hsome
  | circuitOpen => exact hsome
  | admitted =>
      dsimp only
      split_ifs with hqueued
      · exact executeOutcome_enabled s _ _ hrow hqueued
      · rw [Outcome.Enabled, JobView.status?_of_row hrow]
        exact fun h => hqueued (Option.some.inj h)

theorem deliveryOutcome_enabled : (deliveryOutcome s id env).Enabled (s.view id) := by
  unfold deliveryOutcome
  cases hrow : s.jobs.findById id with
  | none => simp [Outcome.Enabled, JobView.status?, State.view_row, hrow]
  | some job =>
      obtain rfl := JobTable.id_of_findById hrow
      exact consumeOutcome_enabled s env hrow

theorem view_consumeEffect_of_carries {message : String} (h : carries id message = true) :
    (consumeEffect env message s).view id = (deliveryOutcome s id env).apply (s.view id) := by
  have hparse : parseLong message = some id := by simpa [carries] using h
  simp only [consumeEffect, hparse, deliveryOutcome]
  cases hrow : s.jobs.findById id with
  | none => rfl
  | some job =>
      obtain rfl := JobTable.id_of_findById hrow
      exact view_consumeJobEffect_self s env hrow

theorem view_consumeEffect_of_not_carries {message : String} (h : carries id message = false) :
    (consumeEffect env message s).view id = s.view id := by
  unfold consumeEffect
  cases hparse : parseLong message with
  | none => rfl
  | some jobId =>
      cases hrow : s.jobs.findById jobId with
      | none => simp [hrow]
      | some job =>
          obtain rfl := JobTable.id_of_findById hrow
          have hne : id ≠ job.id := by
            rintro rfl
            simp [carries, hparse] at h
          simp [hrow, view_consumeJobEffect_of_ne, hne]

end Consumer

/-! ## Every call -/

namespace Call

/-- The call re-inserts the SCHEDULED job `id` with its schedule time. -/
def Reinserts (c : Call) (env : CallEnv) (s : State L) (id : Int) : Prop :=
  let now := env.millis 0
  let missed := Selects env (.findPendingOrScheduledInRange (now - 60000) now 500) s id
  match c with
  | watch => GapDetected now s.lastRun ∧ missed
  | triggerRecovery => missed
  | reconcileRedis => Selects env (.findOverdueScheduled now 500) s id
  | _ => False

/-- The call delivers a message of the job `id`. -/
def Delivers (c : Call) (id : Int) : Delivery → Prop
  | .first => ∃ message, c = consume message ∧ carries id message = true
  | .again => ∃ message, c = redeliver message ∧ carries id message = true

/-- The moves of job `id` that a call makes in state `s`. -/
def Allows [RateLimiter L] (c : Call) (env : CallEnv) (s : State L) (id : Int) : Move → Prop
  | .create data =>
      ∃ request time, c = createJob request ∧ id = s.jobs.nextId ∧ data = newJob request time
  | .sendNow => ∃ request, c = createJob request ∧ id = s.jobs.nextId
  | .requestCancel deadline => c = cancelJob id ∧ deadline = env.millis 0 + CANCEL_TTL
  | .schedule => c = watch ∨ c = triggerRecovery
  | .scheduleRetry => c = watch ∨ c = triggerRecovery ∨ c = reconcileRedis
  | .reinsert now => now = env.millis 0 ∧ c.Reinserts env s id
  | .dispatch now => c = dispatch ∧ now = env.millis 0
  | .drop now => c = dispatch ∧ now = env.millis 0
  | .requeue => c = requeueJob id
  | .consume delivery outcome => c.Delivers id delivery ∧ outcome = deliveryOutcome s id env

theorem Delivers.consumes {c : Call} {id : Int} {delivery : Delivery}
    (h : c.Delivers id delivery) : c.Consumes id := by
  cases delivery with
  | first =>
      obtain ⟨message, rfl, hcarries⟩ := h
      simpa [Consumes, carries] using hcarries
  | again =>
      obtain ⟨message, rfl, hcarries⟩ := h
      simpa [Consumes, carries] using hcarries

section Views

variable (env : CallEnv) (s : State L) (id : Int)

theorem view_createEffect_of_ne (request : JobRequest) (time now : Int)
    (h : id ≠ s.jobs.nextId) : (createEffect request time now s).view id = s.view id := by
  unfold createEffect routeEffect
  split_ifs <;> simp [State.view_sendJob, State.view_saveJob, State.view_insertJob, h]

theorem view_createEffect_self (request : JobRequest) (time now : Int) :
    (createEffect request time now s).view s.jobs.nextId =
      let created := (Move.create (newJob request time)).apply s.jobs.nextId
        (s.view s.jobs.nextId)
      if time - now ≤ IMMEDIATE_THRESHOLD then Move.sendNow.apply s.jobs.nextId created
      else created := by
  have hinsert : (s.insertJob (newJob request time)).view s.jobs.nextId =
      (Move.create (newJob request time)).apply s.jobs.nextId (s.view s.jobs.nextId) := by
    rw [State.view_insertJob, if_pos rfl]
    rfl
  dsimp only
  by_cases himmediate : time - now ≤ IMMEDIATE_THRESHOLD
  · let sent : Job := { newJob request time with id := s.jobs.nextId, status := .queued }
    have hroute : createEffect request time now s =
        ((s.insertJob (newJob request time)).saveJob sent).sendJob
          (longToString s.jobs.nextId) := if_pos himmediate
    rw [hroute, if_pos himmediate, State.view_sendJob, if_pos rfl, State.view_saveJob,
      if_pos rfl, hinsert]
    rfl
  · have hroute : createEffect request time now s = s.insertJob (newJob request time) :=
      if_neg himmediate
    rw [hroute, if_neg himmediate, hinsert]

/-- Creating a job gives the next id a row, and maybe a message at once. -/
theorem life_createEffect {allowed : Move → Prop} (request : JobRequest) (time now : Int)
    (hcreate : id = s.jobs.nextId → allowed (.create (newJob request time)))
    (hsend : id = s.jobs.nextId → time - now ≤ IMMEDIATE_THRESHOLD → allowed .sendNow) :
    Life allowed id (s.view id) ((createEffect request time now s).view id) := by
  by_cases hid : id = s.jobs.nextId
  · subst hid
    have hnone : (s.view s.jobs.nextId).row = none :=
      JobTable.findById_eq_none (by rw [JobTable.nextId]; omega)
    have hcreated := Life.one s.jobs.nextId (.create (newJob request time)) (hcreate rfl)
      ⟨hnone, rfl, rfl⟩
    rw [view_createEffect_self]
    dsimp only
    split_ifs with himmediate
    · exact hcreated.trans (Life.one s.jobs.nextId .sendNow (hsend rfl himmediate) rfl)
    · exact hcreated
  · rw [view_createEffect_of_ne s id request time now hid]

theorem life_requeueEffect {allowed : Move → Prop} (jobId : Int)
    (hrequeue : id = jobId → allowed .requeue) :
    AtMostOne allowed id (s.view id) ((requeueEffect jobId s).view id) := by
  unfold requeueEffect
  cases hrow : s.jobs.findById jobId with
  | none => exact .refl
  | some job =>
      have hjob := JobTable.id_of_findById hrow
      dsimp only
      split_ifs with hterminal
      · exact .refl
      · by_cases hid : id = jobId
        · subst hid
          have hview : (s.view id).row = some job := hrow
          have henabled : Move.requeue.Enabled (s.view id) :=
            ⟨job.status, JobView.status?_of_row hview,
              fun h => hterminal (.inl h), fun h => hterminal (.inr h)⟩
          convert Life.atMostOne (hrequeue rfl) henabled using 1
          simp only [State.view_sendJob, State.view_saveJob, hjob, hview, if_true, Move.apply,
            JobView.withMessage, JobView.withStatus, Option.map_some]
        · have hview : ((s.saveJob { job with status := .queued }).sendJob
              (longToString jobId)).view id = s.view id := by
            simp [State.view_sendJob, State.view_saveJob, hjob, hid]
          rw [hview]

variable [RateLimiter L]

/-- The first delivery of a message takes it off the topic. -/
theorem view_exec_consume {message : String} (hmem : message ∈ s.topic)
    (hcarries : carries id message = true) :
    ((consume message).exec env s).view id =
      (Move.consume .first (deliveryOutcome s id env)).apply id (s.view id) := by
  rw [exec_consume, view_consumeEffect_of_carries _ _ _ hcarries,
    State.view_erase_topic s id hmem, if_pos hcarries]
  show (deliveryOutcome s id env).apply _ = _
  cases deliveryOutcome s id env <;> rfl

theorem view_exec_redeliver {message : String} (hcarries : carries id message = true) :
    ((redeliver message).exec env s).view id =
      (Move.consume .again (deliveryOutcome s id env)).apply id (s.view id) := by
  rw [exec_redeliver, view_consumeEffect_of_carries _ _ _ hcarries]
  cases deliveryOutcome s id env <;> rfl

/-- A whole call is a sequence of the moves it allows. -/
theorem life_exec (c : Call) (henabled : c.Enabled s) :
    Life (c.Allows env s id) id (s.view id) ((c.exec env s).view id) := by
  cases c with
  | createJob request =>
      rcases exec_createJob env s request with hexec | ⟨time, k, hexec⟩
      · rw [hexec]
      · rw [hexec]
        exact life_createEffect s id request time _
          (fun hid => ⟨request, time, rfl, hid, rfl⟩) (fun hid _ => ⟨request, rfl, hid⟩)
  | cancelJob jobId =>
      rw [exec_cancelJob, State.view_setCancelled]
      split_ifs with hid
      · subst hid
        exact Life.one id (.requestCancel _) ⟨rfl, rfl⟩ trivial
      · exact .refl
  | watch =>
      rw [exec_watch]
      exact life_watch env s id _ (.inl rfl) (.inl rfl)
        (fun hgap hselects => ⟨rfl, hgap, hselects⟩)
  | triggerRecovery =>
      rw [exec_triggerRecovery]
      exact life_recover env s id _ (.inr rfl) (.inr (.inl rfl))
        (fun hselects => ⟨rfl, hselects⟩)
  | reconcileRedis =>
      rw [exec_reconcileRedis]
      exact life_reconcile env s id _ (.inr (.inr rfl)) (fun hselects => ⟨rfl, hselects⟩)
  | dispatch =>
      rw [exec_dispatch]
      by_cases hready : (s.view id).Ready (env.millis 0)
      · rw [view_dispatchEffect_of_ready s id _ hready]
        refine Life.one id _ ?_ (dispatchMove_enabled _ hready)
        unfold dispatchMove
        split_ifs
        · exact ⟨rfl, rfl⟩
        · exact ⟨rfl, rfl⟩
      · rw [view_dispatchEffect_of_not_ready s id _ hready]
  | resetCircuit type =>
      rw [exec_resetCircuit]
      exact .refl
  | requeueJob jobId =>
      rw [exec_requeueJob]
      exact (life_requeueEffect s id jobId fun hid => by rw [Allows, hid]).to_reflTransGen
  | consume message =>
      by_cases hcarries : carries id message = true
      · rw [view_exec_consume env s id henabled hcarries]
        exact Life.one id (.consume _ _) ⟨⟨message, rfl, hcarries⟩, rfl⟩
          ⟨State.inFlight_pos s id henabled hcarries, deliveryOutcome_enabled s id env⟩
      · have hother : carries id message = false := by simpa using hcarries
        -- a delivery for another job takes its message from the topic, and that is all
        rw [exec_consume, view_consumeEffect_of_not_carries _ _ _ hother,
          State.view_erase_topic s id henabled, if_neg hcarries]
  | redeliver message =>
      by_cases hcarries : carries id message = true
      · rw [view_exec_redeliver env s id hcarries]
        exact Life.one id (.consume _ _) ⟨⟨message, rfl, hcarries⟩, rfl⟩
          ⟨Nat.zero_le _, deliveryOutcome_enabled s id env⟩
      · have hother : carries id message = false := by simpa using hcarries
        rw [exec_redeliver, view_consumeEffect_of_not_carries _ _ _ hother]

end Views

end Call

end JobQueue
