import JobQueue.Lib.Protocol
import JobQueue.Lifecycle.Carrier
import JobQueue.Lifecycle.RecoveryPages

/-!
# A failing incident

`IncidentPublisherService.publish` logs an event it cannot serialize and goes on,
but lets the exception of the Kafka send through.  The services call it in the
middle of what they have to do: the `catch` block of the consumer after opening
the circuit and before saving the row, the watcher after renewing its heartbeat
and before the recovery.  When the send throws there, the rest is not done.
-/

namespace JobQueue

open Decimal KafkaConsumerService WatcherService

/-- The publications that throw, as a set of operations. -/
def publishFailures (fails : Incident → Option JavaException) : Op → Option JavaException
  | .publish incident => fails incident
  | _ => none

/-- The operation is not a publication. -/
def Quiet (fails : Incident → Option JavaException) (op : Op) : Prop :=
  publishFailures fails op = none

variable {L : Type} [RateLimiter L]

/-! ## The consumer -/

section Consumer

variable (fails : Incident → Option JavaException) (env : CallEnv)

/-- The handler of a call during which publications throw. -/
abbrev CallEnv.faulty (op : Op) (store : State L × Nat) :
    Except JavaException (Reply op) × State L × Nat :=
  Prog.failing env.handle (publishFailures fails) op store

theorem only_quiet_tryBlock (job : Job) : (tryBlock job).Only (Quiet fails) := by
  unfold tryBlock ExecutorFactory.getExecutor
  split_ifs
  · simp [Quiet, publishFailures]
  · cases ExecutorFactory.resolve job.type <;> simp [Quiet, publishFailures]

/-- The circuit part of the `catch` block up to the publication. -/
def countedEffect (now : Int) (job : Job) (s : State L) : State L :=
  let failures := s.failureCount job.type + 1
  let counted := (s.setFailureCount job.type failures).setLastFailureTime job.type now
  if FAILURE_THRESHOLD ≤ failures then counted.setCircuitOpen job.type true else counted

/-- The failure opens the circuit, and the incident of that cannot be
published. -/
def TriggerLost (job : Job) (e : JavaException) (s : State L) : Prop :=
  FAILURE_THRESHOLD ≤ s.failureCount job.type + 1 ∧
    fails (circuitTriggeredIncident job e (s.failureCount job.type + 1)) ≠ none

theorem run_countFailure_faulty (now : Int) (job : Job) (e : JavaException) (s : State L)
    (k : Nat) :
    Prog.run (env.faulty fails) (countFailure now job e) (s, k) =
      Prog.run (env.faulty fails)
        (if FAILURE_THRESHOLD ≤ s.failureCount job.type + 1 then
          Service.publish (circuitTriggeredIncident job e (s.failureCount job.type + 1))
        else pure ()) (countedEffect now job s, k) := by
  have hrun : Prog.run (env.faulty fails) (countFailure now job e) (s, k) =
      Prog.run (env.faulty fails)
        (if FAILURE_THRESHOLD ≤ s.failureCount job.type + 1 then do
          Service.setCircuitOpen job.type true
          Service.publish (circuitTriggeredIncident job e (s.failureCount job.type + 1))
        else pure ())
        ((s.setFailureCount job.type (s.failureCount job.type + 1)).setLastFailureTime
          job.type now, k) := rfl
  rw [hrun, countedEffect]
  split_ifs <;> rfl

/-- A call that loses the incident ends with the circuit opened and no row
saved. -/
theorem run_catchBlock_lost (now : Int) {job : Job} {e : JavaException} {s : State L}
    (hlost : TriggerLost fails job e s) (k : Nat) :
    ∃ error, Prog.run (env.faulty fails) (catchBlock now job e) (s, k) =
      (.error error, (countedEffect now job s, k)) := by
  obtain ⟨hopen, hfails⟩ := hlost
  obtain ⟨error, herror⟩ := Option.ne_none_iff_exists'.mp hfails
  refine ⟨error, ?_⟩
  have hcount : Prog.run (env.faulty fails) (countFailure now job e) (s, k) =
      (.error error, (countedEffect now job s, k)) := by
    rw [run_countFailure_faulty, if_pos hopen]
    simp [Prog.failing, publishFailures, herror]
  exact Prog.run_bind_error (env.faulty fails) hcount

/-- Otherwise the failure is recorded; only incidents may be missing. -/
theorem run_catchBlock_kept (now : Int) {job : Job} {e : JavaException} {s : State L}
    (hkept : ¬ TriggerLost fails job e s) (k : Nat) :
    ∃ result incidents, Prog.run (env.faulty fails) (catchBlock now job e) (s, k) =
      (result, ({ catchEffect now job e s with incidents := incidents }, k)) := by
  have hcount : Prog.run (env.faulty fails) (countFailure now job e) (s, k) =
      (.ok (), (countFailureEffect now job e s, k)) := by
    rw [run_countFailure_faulty]
    by_cases hopen : FAILURE_THRESHOLD ≤ s.failureCount job.type + 1
    · have hfails : fails (circuitTriggeredIncident job e (s.failureCount job.type + 1)) =
          none := by
        by_contra h
        exact hkept ⟨hopen, h⟩
      rw [if_pos hopen, countedEffect, if_pos hopen, countFailureEffect, if_pos hopen]
      simp [Prog.failing, publishFailures, hfails]
    · rw [if_neg hopen, countedEffect, if_neg hopen, countFailureEffect, if_neg hopen]
      rfl
  show ∃ result incidents, Prog.run (env.faulty fails) ((countFailure now job e).bind _) (s, k) =
    _
  rw [Prog.run_bind_ok (env.faulty fails) hcount, catchEffect]
  by_cases hexhausted : MAX_RETRY ≤ job.retryCount
  · cases hfails : fails (exhaustedIncident job e) with
    | none =>
        simp only [hexhausted, if_true]
        refine ⟨.ok (), (countFailureEffect now job e s).incidents ++ [exhaustedIncident job e], ?_⟩
        simp [Prog.failing, publishFailures, hfails, State.publish, State.saveJob]
    | some error =>
        simp only [hexhausted, if_true]
        refine ⟨.error error, (countFailureEffect now job e s).incidents, ?_⟩
        simp [Prog.failing, publishFailures, hfails, State.publish, State.saveJob]
  · simp only [hexhausted, if_false]
    exact ⟨.ok (), _, rfl⟩

/-- The row of a QUEUED job is PROCESSING when its execution fails, and nothing
is published until then. -/
theorem run_tryBlock_faulty {job : Job} (hqueued : job.status = .queued) {e : JavaException}
    (hresult : executionResult env.outcome job = .error e) (s : State L) (k : Nat) :
    Prog.run (env.faulty fails) (tryBlock job) (s, k) =
      (.error e, (runExecutor env.outcome job s, k)) := by
  rw [(only_quiet_tryBlock fails job).run_failing, run_tryBlock_queued env hqueued, hresult]

theorem run_attempt_lost (now : Int) {job : Job} (hqueued : job.status = .queued)
    {e : JavaException} (hresult : executionResult env.outcome job = .error e) {s : State L}
    (hlost : TriggerLost fails job e (runExecutor env.outcome job s)) (k : Nat) :
    (Prog.run (env.faulty fails) (attempt now job) (s, k)).2 =
      (countedEffect now job (runExecutor env.outcome job s), k) := by
  have htry := run_tryBlock_faulty fails env hqueued hresult s k
  obtain ⟨error, hcatch⟩ := run_catchBlock_lost fails env now hlost k
  show (Prog.run (env.faulty fails) (((tryBlock job).tryCatch _).bind _) (s, k)).2 = _
  rw [Prog.run_bind, Prog.run_tryCatch_error (env.faulty fails) htry, Prog.bind_eq_bind,
    Prog.run_bind_error (env.faulty fails) hcatch]

theorem run_attempt_kept (now : Int) {job : Job} (hqueued : job.status = .queued)
    {e : JavaException} (hresult : executionResult env.outcome job = .error e) {s : State L}
    (hkept : ¬ TriggerLost fails job e (runExecutor env.outcome job s)) (k : Nat) :
    ∃ incidents, (Prog.run (env.faulty fails) (attempt now job) (s, k)).2 =
      ({ catchEffect now job e (runExecutor env.outcome job s) with incidents := incidents },
        k) := by
  have htry := run_tryBlock_faulty fails env hqueued hresult s k
  obtain ⟨result, incidents, hcatch⟩ := run_catchBlock_kept fails env now hkept k
  refine ⟨incidents, ?_⟩
  show (Prog.run (env.faulty fails) (((tryBlock job).tryCatch _).bind _) (s, k)).2 = _
  rw [Prog.run_bind, Prog.run_tryCatch_error (env.faulty fails) htry, Prog.bind_eq_bind]
  cases result with
  | ok value =>
      rw [Prog.run_bind_ok (env.faulty fails) hcatch]
      rfl
  | error error =>
      rw [Prog.run_bind_error (env.faulty fails) hcatch]

/-- Before the attempt, an admitted job is not published about. -/
theorem run_consume_faulty {message : String} {job : Job} {s : State L}
    (hparse : parseLong message = some job.id) (hrow : s.jobs.findById job.id = some job)
    (hverdict : verdict env job s = .admitted) :
    Prog.run (env.faulty fails) (consume message) (s, 0) =
      Prog.run (env.faulty fails) (attempt (env.millis 1) job)
        (halfOpenEffect job (askLimiter env job s), 3) := by
  have hconsume : Prog.run (env.faulty fails) (consume message) (s, 0) =
      Prog.run (env.faulty fails) (consumeJob job) (s, 0) := by
    simp [consume, hparse, hrow, Prog.failing, publishFailures]
  rw [hconsume, interpret_consumeJob env (Prog.run (env.faulty fails)) ?_, hverdict]
  · rfl
  · -- no guard publishes an incident
    intro op next store hguard
    cases op <;> first | rfl | cases hguard

end Consumer

/-! ### What the consumer records -/

/-- The message comes to the attempt of the QUEUED job, and the execution fails
with `e`. -/
structure ExecutionFails (env : CallEnv) (message : String) (s : State L) (job : Job)
    (e : JavaException) : Prop where
  parse : parseLong message = some job.id
  row : s.jobs.findById job.id = some job
  admitted : verdict env job s = .admitted
  queued : job.status = .queued
  result : executionResult env.outcome job = .error e

/-- Status, retry count and retry time of a row. -/
def Job.record (job : Job) : JobStatus × Nat × Option Int :=
  (job.status, job.retryCount, job.nextRetryTime)

/-- The two states agree on the record of the job and on the circuits. -/
def SameRecord {L : Type} (id : Int) (t u : State L) : Prop :=
  (t.jobs.findById id).map Job.record = (u.jobs.findById id).map Job.record ∧
    t.circuitOpen = u.circuitOpen ∧ t.failureCount = u.failureCount ∧
    t.lastFailureTime = u.lastFailureTime

/-- The failure is recorded as if every publication succeeded, exactly if the
incident of a circuit that it opens is not lost. -/
theorem sameRecord_consume_iff (fails : Incident → Option JavaException) {env : CallEnv}
    {message : String} {s : State L} {job : Job} {e : JavaException}
    (h : ExecutionFails env message s job e) :
    SameRecord job.id
        (Service.callFailing (consume message) (publishFailures fails) env s).2
        (Service.call (consume message) env s).2 ↔
      ¬ TriggerLost fails job e s := by
  let admitted := halfOpenEffect job (askLimiter env job s)
  let executed := runExecutor env.outcome job admitted
  have hplain : (Service.call (consume message) env s).2 =
      catchEffect (env.millis 1) job e executed := by
    rw [call_consume, consumeEffect, h.parse]
    simp only [h.row, consumeJobEffect, h.admitted, attemptEffect, h.queued, if_true, executeEffect,
      h.result]
    rfl
  have hfaulty : (Service.callFailing (consume message) (publishFailures fails) env s).2 =
      (Prog.run (env.faulty fails) (attempt (env.millis 1) job) (admitted, 3)).2.1 := by
    rw [Service.callFailing, ← run_consume_faulty fails env h.parse h.row h.admitted]
  have hcount : executed.failureCount = s.failureCount := by
    simp only [executed, admitted, runExecutor, halfOpenEffect]
    cases ExecutorFactory.resolve job.type <;> split_ifs <;> rfl
  have hlost : TriggerLost fails job e executed ↔ TriggerLost fails job e s := by
    rw [TriggerLost, hcount, TriggerLost]
  rw [hplain, hfaulty, ← hlost]
  constructor
  · rintro ⟨hrecord, -⟩ hlost
    -- the row was saved as PROCESSING, and not again
    rw [run_attempt_lost fails env (env.millis 1) h.queued h.result hlost] at hrecord
    have hview : (admitted.view job.id).row = some job := by
      rw [view_halfOpenEffect]
      exact h.row
    have hexecuted : executed.jobs.findById job.id = some { job with status := .processing } :=
      congrArg JobView.row (view_runExecutor_self admitted env.outcome hview)
    have hlostRow : (countedEffect (env.millis 1) job executed).jobs.findById job.id =
        some { job with status := .processing } := by
      rw [← hexecuted, countedEffect]
      split_ifs <;> rfl
    have hplainRow : (catchEffect (env.millis 1) job e executed).jobs.findById job.id =
        some (failedRow job (env.millis 1)) := by
      rw [← State.view_row, view_catchEffect, if_pos rfl, State.view_row, hexecuted]
      rfl
    rw [hlostRow, hplainRow, Option.map_some, Option.map_some, Job.record, Job.record] at hrecord
    have hstatus : (failedRow job (env.millis 1)).status = .processing :=
      (congrArg Prod.fst (Option.some.inj hrecord)).symm
    rcases failedRow_cases job (env.millis 1) with hs | ⟨hs, -⟩ <;> rw [hs] at hstatus <;>
      cases hstatus
  · intro hkept
    obtain ⟨incidents, hattempt⟩ :=
      run_attempt_kept fails env (env.millis 1) h.queued h.result hkept 3
    rw [hattempt]
    exact ⟨rfl, rfl, rfl, rfl⟩

/-! ## The watcher -/

section Watcher

variable (fails : Incident → Option JavaException)

theorem only_quiet_recoverMissedJobs (now : Int) :
    (recoverMissedJobs now).Only (Quiet fails) := by
  have hrow : ∀ job count, (recoverRow job count).Only (Quiet fails) := by
    intro job count
    unfold recoverRow
    split_ifs <;> simp [Quiet, publishFailures]
  have hretry : ∀ job count, (recoverRetryRow job count).Only (Quiet fails) := by
    intro job count
    unfold recoverRetryRow
    cases job.nextRetryTime <;> split_ifs <;> simp [Quiet, publishFailures]
  unfold recoverMissedJobs
  simp only [Prog.bind_eq_bind, Service.query, Prog.perform, Prog.bind_call, Prog.only_call,
    Prog.only_done_bind]
  refine ⟨rfl, fun jobs => (Prog.Only.foldEach hrow jobs 0).bind fun count => ?_⟩
  simp only [Prog.only_call, Prog.only_done_bind]
  exact ⟨rfl, fun retryJobs => Prog.Only.foldEach hretry retryJobs count⟩

theorem only_quiet_scheduleWindow (now : Int) :
    (scheduleWindow now).Only (Quiet fails) := by
  have hpending : ∀ job (_ : Unit), (schedulePending job).Only (Quiet fails) := by
    intro job _
    unfold schedulePending
    split_ifs <;> simp [Quiet, publishFailures]
  have hretry : ∀ job (_ : Unit), (scheduleRetry job).Only (Quiet fails) := by
    intro job _
    unfold scheduleRetry
    cases job.nextRetryTime <;> split_ifs <;> simp [Quiet, publishFailures]
  unfold scheduleWindow
  simp only [Prog.bind_eq_bind, Service.query, Prog.perform, Prog.bind_call, Prog.only_call,
    Prog.only_done_bind]
  refine ⟨rfl, fun jobs => (Prog.Only.foldEach hpending jobs ()).bind fun _ => ?_⟩
  simp only [Prog.only_call, Prog.only_done_bind]
  exact ⟨rfl, fun retryJobs => Prog.Only.foldEach hretry retryJobs ()⟩

variable (env : CallEnv) {s : State L} {last : Int}

/-- The incident of the gap since `last` cannot be published. -/
def GapLost (now last : Int) : Prop :=
  fails (gapIncident now last) ≠ none

theorem run_watch_faulty (hlast : s.lastRun = some last) :
    Prog.run (env.faulty fails) watch (s, 0) =
      Prog.run (env.faulty fails)
        ((recoverAfterGap (env.millis 0) (some last)).bind fun _ => scheduleWindow (env.millis 0))
        ({ s with lastRun := some (env.millis 0) }, 1) := by
  rw [← hlast]
  rfl

/-- A watcher that loses the incident has renewed its heartbeat and does nothing
else. -/
theorem watch_lost (hlast : s.lastRun = some last) (hgap : env.millis 0 - last > 25000)
    (hlost : GapLost fails (env.millis 0) last) :
    (Service.callFailing watch (publishFailures fails) env s).2 =
      { s with lastRun := some (env.millis 0) } := by
  obtain ⟨error, herror⟩ := Option.ne_none_iff_exists'.mp hlost
  have hrecover : Prog.run (env.faulty fails) (recoverAfterGap (env.millis 0) (some last))
      ({ s with lastRun := some (env.millis 0) }, 1) =
      (.error error, ({ s with lastRun := some (env.millis 0) }, 1)) := by
    rw [recoverAfterGap, if_pos hgap]
    simp [Prog.failing, publishFailures, herror]
  rw [Service.callFailing, run_watch_faulty fails env hlast,
    Prog.run_bind_error (env.faulty fails) hrecover]

/-- A watcher that does not lose it runs as without failures. -/
theorem watch_kept (hlast : s.lastRun = some last)
    (hkept : ¬ GapLost fails (env.millis 0) last) :
    (Service.callFailing watch (publishFailures fails) env s).2 =
      (Service.call watch env s).2 := by
  have hnone : fails (gapIncident (env.millis 0) last) = none := by
    by_contra h
    exact hkept h
  have hrecover : ∀ store : State L × Nat,
      Prog.run (env.faulty fails) (recoverAfterGap (env.millis 0) (some last)) store =
        Prog.run env.handle (recoverAfterGap (env.millis 0) (some last)) store := by
    refine Prog.Only.run_failing ?_
    unfold recoverAfterGap
    dsimp only
    split_ifs
    · simp only [Prog.bind_eq_bind, Service.publish, Prog.perform, Prog.bind_call, Prog.only_call,
        Prog.only_done_bind]
      exact ⟨hnone, fun _ => (only_quiet_recoverMissedJobs fails _).bind fun _ => trivial⟩
    · trivial
  have hplain : Prog.run env.handle watch (s, 0) =
      Prog.run env.handle
        ((recoverAfterGap (env.millis 0) (some last)).bind fun _ => scheduleWindow (env.millis 0))
        ({ s with lastRun := some (env.millis 0) }, 1) := by
    rw [← hlast]
    rfl
  rw [Service.callFailing, Service.call, run_watch_faulty fails env hlast, hplain, Prog.run_bind,
    Prog.run_bind, hrecover]
  split
  · rw [(only_quiet_scheduleWindow fails _).run_failing]
  · rfl

end Watcher

/-! ### What the watcher misses -/

section Missed

omit [RateLimiter L]

/-- The two states hold the same rows and the same delay queue. -/
def SameStores (t u : State L) : Prop :=
  ∀ id, t.jobs.findById id = u.jobs.findById id ∧
    t.scheduledJobs.score? id = u.scheduledJobs.score? id

variable (env : CallEnv) (now : Int) (s : State L)

/-- A watcher at `now` that recovers finds nothing to do: the recovery finds
SCHEDULED jobs only, with their schedule times in the delay queue, and the other
pages are empty. -/
structure NothingToDo : Prop where
  recovered : ∀ job ∈ env.page (.findPendingOrScheduledInRange (now - 60000) now 500) s,
    job.status = .scheduled ∧ s.scheduledJobs.score? job.id = some job.scheduleTime
  retries : env.page (.findRetryInRange (now - 60000) now 500) s = []
  window : env.page (.findWindow 0 (now + 20000) 200) s = []
  retryWindow : env.page (.findRetryWindow 0 (now + 20000) 200) s = []

/-- The state after the first loop of the recovery. -/
def recoveredRows : State L :=
  (env.page (.findPendingOrScheduledInRange (now - 60000) now 500) s).foldl
    (fun t job => recoverRowEffect job t) s

/-- A recovery that finds SCHEDULED jobs only writes no row. -/
theorem jobs_recoveredRows
    (h : ∀ job ∈ env.page (.findPendingOrScheduledInRange (now - 60000) now 500) s,
      job.status = .scheduled) : (recoveredRows env now s).jobs = s.jobs := by
  unfold recoveredRows
  generalize env.page (.findPendingOrScheduledInRange (now - 60000) now 500) s = rows at h
  induction rows generalizing s with
  | nil => rfl
  | cons row rest ih =>
      have hrow : row.status = .scheduled := h row List.mem_cons_self
      have hfirst : (recoverRowEffect row s).jobs = s.jobs := by
        simp [recoverRowEffect, hrow, State.scheduleJob]
      exact (ih (recoverRowEffect row s) fun job hjob =>
        h job (List.mem_cons_of_mem row hjob)).trans hfirst

theorem page_of_jobs {t : State L} (h : t.jobs = s.jobs) (q : JobQuery) :
    env.page q t = env.page q s := by
  rw [CallEnv.page, CallEnv.page, h]

variable {env now s} {job : Job}

/-- Without RETRY rows a recovery is its first loop. -/
theorem recoverEffect_eq_recoveredRows (hjobs : (recoveredRows env now s).jobs = s.jobs)
    (hretries : env.page (.findRetryInRange (now - 60000) now 500) s = []) :
    recoverEffect env now s = recoveredRows env now s := by
  show (env.page (.findRetryInRange (now - 60000) now 500) (recoveredRows env now s)).foldl _
    (recoveredRows env now s) = _
  rw [page_of_jobs env s hjobs, hretries]
  rfl

/-- The scheduling loops leave a SCHEDULED job alone. -/
theorem view_window_of_scheduled (env : CallEnv) (now : Int) {id : Int}
    (h : (s.view id).status? = some .scheduled) :
    (windowEffect env now s).view id = s.view id :=
  (life_window env s id now (.inl rfl) (.inr rfl)).eq_of_scheduled h

/-- So does a loop over RETRY rows. -/
theorem view_retryLoop_of_scheduled (env : CallEnv) (q : JobQuery) (hq : q.ForRetry) {id : Int}
    (h : (s.view id).status? = some .scheduled) :
    ((env.page q s).foldl (fun t job => scheduleRetryEffect job t) s).view id = s.view id := by
  have hlife : Life (fun m => m = .schedule ∨ m = .scheduleRetry) id (s.view id)
      (((env.page q s).foldl (fun t job => scheduleRetryEffect job t) s).view id) :=
    (atMostOne_scheduleRetry env s id q hq (.inr rfl)).to_reflTransGen
  exact hlife.eq_of_scheduled h

theorem status?_recoveredRows (hmem : job ∈ env.page
      (.findPendingOrScheduledInRange (now - 60000) now 500) s) :
    ((recoveredRows env now s).view job.id).status? = some .scheduled ∧
      ((recoveredRows env now s).view job.id).score = some job.scheduleTime := by
  have hrow : (s.view job.id).row = some job := (JobTable.mem_select hmem).1
  have hview : (recoveredRows env now s).view job.id =
      { (s.view job.id).withStatus .scheduled with score := some job.scheduleTime } :=
    view_found_of_mem (schedulesRows_recover now) hmem
  rw [hview]
  refine ⟨?_, rfl⟩
  show ((s.view job.id).withStatus .scheduled).status? = some .scheduled
  rw [JobView.status?_withStatus, hrow, Option.map_some]

/-- A watcher with nothing to do changes no row and no score. -/
theorem sameStores_of_nothingToDo (h : NothingToDo env now s) :
    SameStores s (windowEffect env now (recoverEffect env now s)) := by
  have hjobs := jobs_recoveredRows env now s fun job hjob => (h.recovered job hjob).1
  have hrecover := recoverEffect_eq_recoveredRows hjobs h.retries
  have hwindow : windowEffect env now (recoveredRows env now s) = recoveredRows env now s := by
    simp only [windowEffect, page_of_jobs env s hjobs, h.window, h.retryWindow, List.foldl_nil]
  rw [hrecover, hwindow]
  intro id
  refine ⟨by rw [hjobs], ?_⟩
  by_cases hmem : ∃ job ∈ env.page (.findPendingOrScheduledInRange (now - 60000) now 500) s,
      job.id = id
  · obtain ⟨job, hjob, rfl⟩ := hmem
    exact (h.recovered job hjob).2.trans (status?_recoveredRows hjob).2.symm
  · have hview : (recoveredRows env now s).view id = s.view id :=
      view_found_of_not_mem (schedulesRows_recover now) fun job hjob hid => hmem ⟨job, hjob, hid⟩
    exact (congrArg JobView.score hview).symm

/-- A job that is SCHEDULED after the watcher was SCHEDULED before, if the watcher
changed no row. -/
theorem scheduled_of_sameStores {u : State L} (hsame : SameStores s u)
    (hrow : s.jobs.findById job.id = some job)
    (hscheduled : (u.view job.id).status? = some .scheduled) : job.status = .scheduled := by
  have hrow' : (u.view job.id).row = some job := by
    rw [State.view_row, ← (hsame job.id).1, hrow]
  rw [JobView.status?_of_row hrow'] at hscheduled
  exact Option.some.inj hscheduled

theorem nothingToDo_of_sameStores
    (hsame : SameStores s (windowEffect env now (recoverEffect env now s))) :
    NothingToDo env now s := by
  -- what is SCHEDULED after one of the loops is left alone by the rest
  have hrecovered : ∀ job ∈ env.page (.findPendingOrScheduledInRange (now - 60000) now 500) s,
      job.status = .scheduled ∧ s.scheduledJobs.score? job.id = some job.scheduleTime := by
    intro job hjob
    obtain ⟨hstatus, hscore⟩ := status?_recoveredRows hjob
    have hrest : (recoverEffect env now s).view job.id = (recoveredRows env now s).view job.id :=
      view_retryLoop_of_scheduled env (.findRetryInRange (now - 60000) now 500) trivial hstatus
    have hview := (view_window_of_scheduled env now (hrest ▸ hstatus)).trans hrest
    refine ⟨scheduled_of_sameStores hsame (JobTable.mem_select hjob).1 (hview ▸ hstatus), ?_⟩
    rw [(hsame job.id).2]
    exact (congrArg JobView.score hview).trans hscore
  have hjobs := jobs_recoveredRows env now s fun job hjob => (hrecovered job hjob).1
  have hretries : env.page (.findRetryInRange (now - 60000) now 500) s = [] := by
    refine List.eq_nil_iff_forall_not_mem.mpr fun job hjob => ?_
    obtain ⟨hrow, hsel⟩ := JobTable.mem_select hjob
    have hstatus : ((recoverEffect env now s).view job.id).status? = some .scheduled := by
      rw [← page_of_jobs env s hjobs] at hjob
      exact status?_scheduleRetry trivial hjob
    have hview := view_window_of_scheduled env now hstatus
    have hscheduled := scheduled_of_sameStores hsame hrow (hview ▸ hstatus)
    have hretry := JobQuery.retry_of_selects (q := .findRetryInRange (now - 60000) now 500) trivial
      hsel
    rw [hretry.1] at hscheduled
    cases hscheduled
  rw [recoverEffect_eq_recoveredRows hjobs hretries] at hsame
  have hpending : env.page (.findWindow 0 (now + 20000) 200) s = [] := by
    refine List.eq_nil_iff_forall_not_mem.mpr fun job hjob => ?_
    obtain ⟨hrow, hsel⟩ := JobTable.mem_select hjob
    rw [← page_of_jobs env s hjobs] at hjob
    have hstatus := status?_schedulePending hjob
    have hview := view_retryLoop_of_scheduled env (.findRetryWindow 0 (now + 20000) 200) trivial
      hstatus
    have hscheduled := scheduled_of_sameStores hsame hrow (hview ▸ hstatus)
    simp [JobQuery.selects, hscheduled] at hsel
  refine ⟨hrecovered, hretries, hpending, ?_⟩
  refine List.eq_nil_iff_forall_not_mem.mpr fun job hjob => ?_
  obtain ⟨hrow, hsel⟩ := JobTable.mem_select hjob
  rw [← page_of_jobs env s hjobs] at hjob
  have hlast : windowEffect env now (recoveredRows env now s) =
      (env.page (.findRetryWindow 0 (now + 20000) 200) (recoveredRows env now s)).foldl
        (fun t job => scheduleRetryEffect job t) (recoveredRows env now s) := by
    simp only [windowEffect, page_of_jobs env s hjobs, hpending, List.foldl_nil]
  rw [hlast] at hsame
  have hscheduled := scheduled_of_sameStores hsame hrow (status?_scheduleRetry trivial hjob)
  have hretry := JobQuery.retry_of_selects (q := .findRetryWindow 0 (now + 20000) 200) trivial hsel
  rw [hretry.1] at hscheduled
  cases hscheduled

theorem sameStores_iff_nothingToDo :
    SameStores s (windowEffect env now (recoverEffect env now s)) ↔ NothingToDo env now s :=
  ⟨nothingToDo_of_sameStores, sameStores_of_nothingToDo⟩

end Missed

/-- A watcher that found a gap leaves the stores as if its publication
succeeded, exactly if it does or there is nothing to do. -/
theorem sameStores_watch_iff (fails : Incident → Option JavaException) {env : CallEnv}
    {s : State L} {last : Int} (hlast : s.lastRun = some last)
    (hgap : env.millis 0 - last > 25000) :
    SameStores (Service.callFailing watch (publishFailures fails) env s).2
        (Service.call watch env s).2 ↔
      ¬ GapLost fails (env.millis 0) last ∨ NothingToDo env (env.millis 0) s := by
  by_cases hlost : GapLost fails (env.millis 0) last
  · let published : State L :=
      { s with
        lastRun := some (env.millis 0)
        incidents := s.incidents ++ [gapIncident (env.millis 0) last] }
    have hdetected : GapDetected (env.millis 0) (some last) := ⟨last, rfl, hgap⟩
    have hplain : (Service.call watch env s).2 =
        windowEffect env (env.millis 0) (recoverEffect env (env.millis 0) published) := by
      rw [call_watch, watchEffect, hlast, gapEffect, if_pos hdetected]
      rfl
    rw [watch_lost fails env hlast hgap hlost, hplain]
    have hiff : SameStores published _ ↔ NothingToDo env (env.millis 0) published :=
      sameStores_iff_nothingToDo
    -- neither side looks at the heartbeat or the incidents
    constructor
    · intro hsame
      obtain ⟨hrecovered, hretries, hwindow, hretryWindow⟩ := hiff.mp hsame
      exact .inr ⟨hrecovered, hretries, hwindow, hretryWindow⟩
    · rintro (hkept | ⟨hrecovered, hretries, hwindow, hretryWindow⟩)
      · exact (hkept hlost).elim
      · exact hiff.mpr ⟨hrecovered, hretries, hwindow, hretryWindow⟩
  · rw [watch_kept fails env hlast hlost]
    exact ⟨fun _ => .inl hlost, fun _ _ => ⟨rfl, rfl⟩⟩

/-- Publishing is best effort exactly where no incident of a circuit that opens
and no incident of a gap with something to do behind it is lost. -/
theorem publishing_best_effort_iff (fails : Incident → Option JavaException) (env : CallEnv)
    (s : State L) :
    (∀ message job e, ExecutionFails env message s job e →
      (SameRecord job.id
          (Service.callFailing (consume message) (publishFailures fails) env s).2
          (Service.call (consume message) env s).2 ↔
        ¬ TriggerLost fails job e s)) ∧
      ∀ last, s.lastRun = some last → env.millis 0 - last > 25000 →
        (SameStores (Service.callFailing watch (publishFailures fails) env s).2
            (Service.call watch env s).2 ↔
          ¬ GapLost fails (env.millis 0) last ∨ NothingToDo env (env.millis 0) s) :=
  ⟨fun _ _ _ h => sameRecord_consume_iff fails h,
    fun _ hlast hgap => sameStores_watch_iff fails hlast hgap⟩

/-- Four of five jobs of one type have failed. -/
def fourFailures : State LuaLimiter :=
  let create : Call × CallEnv := (.createJob (.immediate "API"), .within 1000 (.ok ()))
  let fails : CallEnv := .within 2000 (.error ⟨some "timeout"⟩)
  Call.execAll [create, create, create, create, create, (.consume "1", fails),
    (.consume "2", fails), (.consume "3", fails), (.consume "4", fails)]
    (State.empty LuaLimiter.empty)

/-- The watcher ran last before a job for 10:00 was created. -/
def stoppedWatcher : State LuaLimiter :=
  Call.execAll [(.watch, .within 16100000 (.ok ())),
    (.createJob (.scheduled "LOG" "10:00"), .within 16105000 (.ok ()))]
    (State.empty LuaLimiter.empty)

theorem publishing_best_effort_iff_fourFailures :
    let fails : Incident → Option JavaException := fun _ => some ⟨some "broker unavailable"⟩
    let env := CallEnv.within 2000 (.error ⟨some "timeout"⟩)
    ¬ SameRecord 5 (Service.callFailing (consume "5") (publishFailures fails) env fourFailures).2
      (Service.call (consume "5") env fourFailures).2 := by
  intro fails env hsame
  have hfails : ExecutionFails env "5" fourFailures
      ⟨⟨"API", .queued, none, none, none, 0, 1000, none⟩, 5⟩ ⟨some "timeout"⟩ :=
    ⟨by decide, by decide, by decide, rfl, by decide⟩
  have hiff := (publishing_best_effort_iff fails env fourFailures).1 _ _ _ hfails
  exact hiff.mp hsame ⟨by decide, by decide⟩

/-- The incident of the circuit that the fifth failure opens is lost: the row
stays PROCESSING, and so does it when the message is delivered again.  And the
incident of a gap is lost: the job that became due in it is not recovered, nor by
the next watcher. -/
theorem record_lost_with_incident :
    let fails : Incident → Option JavaException := fun _ => some ⟨some "broker unavailable"⟩
    let failing := CallEnv.within 2000 (.error ⟨some "timeout"⟩)
    let lost := (Service.callFailing (consume "5") (publishFailures fails) failing fourFailures).2
    let recorded := (Service.call (consume "5") failing fourFailures).2
    let late := CallEnv.within 16230000 (.ok ())
    let missed := (Service.callFailing watch (publishFailures fails) late stoppedWatcher).2
    let recovered := (Service.call watch late stoppedWatcher).2
    (recorded.view 5).status? = some .retry ∧
      (lost.view 5).status? = some .processing ∧
      ((Call.exec (.redeliver "5") (.within 40000 (.ok ())) lost).view 5).status? =
        some .processing ∧
      (recovered.view 1).status? = some .scheduled ∧ (missed.view 1).status? = some .pending := by
  decide

end JobQueue
