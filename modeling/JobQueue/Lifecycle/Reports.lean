import JobQueue.Lifecycle.Carrier
import JobQueue.Lifecycle.Unseen

/-!
# The report of a failure

The consumer publishes JOB_EXECUTION_FAILED after it has saved FAILED, and nothing else
publishes it.  In a system without duplicates a FAILED job is not executed again, so there is
one such incident for every FAILED job and none for any other: what the agent is told about a
job is still so whenever it looks.
-/

namespace JobQueue

open Decimal Call KafkaConsumerService

/-- The incident reports that the job `id` is out of retries. -/
def Incident.reportsFailure (id : Int) (incident : Incident) : Bool :=
  incident.type = "JOB_EXECUTION_FAILED" && incident.jobId = some (longToString id)

/-- The reports about a job, the oldest first. -/
def State.failureReports {L : Type} (id : Int) (s : State L) : List Incident :=
  s.incidents.filter (Incident.reportsFailure id)

/-- One report while the job is FAILED, of the row as it is, and none otherwise. -/
structure Reported (v : JobView) (reports : List Incident) : Prop where
  failed : ∀ row, v.row = some row → row.status = .failed →
    ∃ e, reports = [exhaustedIncident row e]
  other : v.status? ≠ some .failed → reports = []

namespace Reported

variable {v : JobView}

theorem of_not_failed (h : v.status? ≠ some .failed) : Reported v [] where
  failed row hrow hfailed := by
    rw [JobView.status?_of_row hrow, hfailed] at h
    exact absurd rfl h
  other _ := rfl

theorem of_failed {row : Job} (hrow : v.row = some row) (hfailed : row.status = .failed)
    (e : JavaException) : Reported v [exhaustedIncident row e] where
  failed other hother _ := by
    rw [hrow] at hother
    exact ⟨e, by rw [Option.some.inj hother]⟩
  other h := by
    rw [JobView.status?_of_row hrow, hfailed] at h
    exact absurd rfl h

/-- Only the row matters. -/
theorem congr {w : JobView} {reports : List Incident} (h : Reported v reports)
    (hrow : w.row = v.row) : Reported w reports where
  failed row hw := h.failed row (hrow ▸ hw)
  other hw := h.other (by rwa [JobView.status?, ← hrow])

end Reported

/-! ## Calls that do not deliver -/

/-- A job that is FAILED keeps its row, unless it is requeued or delivered. -/
theorem Move.failed_kept {m : Move} {v : JobView} {id : Int} (henabled : m.Enabled v)
    (hregular : m.Regular) (hother : ∀ delivery outcome, m ≠ .consume delivery outcome)
    (hstatus : v.status? = some .failed) : (m.apply id v).row = v.row := by
  cases m with
  | create data =>
      obtain ⟨row, hrow, -⟩ := JobView.exists_row hstatus
      rw [henabled.1] at hrow
      cases hrow
  | requestCancel | reinsert | drop => rfl
  | sendNow | schedule =>
      rw [Move.Enabled, hstatus] at henabled
      cases henabled
  | scheduleRetry | dispatch =>
      rw [Move.Enabled, hstatus] at henabled
      cases henabled.1
  | requeue => exact hregular.elim
  | consume delivery outcome => exact absurd rfl (hother delivery outcome)

/-- Nothing but a delivery makes a job FAILED. -/
theorem Move.not_failed {m : Move} {v : JobView} {id : Int} (henabled : m.Enabled v)
    (hregular : m.Regular) (hother : ∀ delivery outcome, m ≠ .consume delivery outcome)
    (hstatus : v.status? ≠ some .failed) : (m.apply id v).status? ≠ some .failed := by
  cases m with
  | create data =>
      obtain ⟨-, hpending, -⟩ := henabled
      simp [Move.apply, JobView.status?, hpending]
  | requestCancel | reinsert | drop => exact hstatus
  | sendNow | schedule | scheduleRetry | dispatch =>
      cases hrow : v.row <;> simp [Move.apply, JobView.withStatus, JobView.withMessage,
        JobView.status?, hrow]
  | requeue => exact hregular.elim
  | consume delivery outcome => exact absurd rfl (hother delivery outcome)

section Steps

variable {L : Type} [RateLimiter L] {s : State L} {id : Int}

/-- A call that plans and duplicates nothing neither makes a job FAILED nor changes one that
is. -/
theorem failed_of_plans {c : Call} (hplans : c.Plans) (hregular : c.Regular) (env : CallEnv)
    (s : State L) (id : Int) :
    ((s.view id).status? = some .failed → ((c.exec env s).view id).row = (s.view id).row) ∧
      ((s.view id).status? ≠ some .failed →
        ((c.exec env s).view id).status? ≠ some .failed) := by
  have henabled : c.Enabled s := by
    cases c with
    | consume | redeliver => exact hplans.elim
    | _ => trivial
  have hother : ∀ m, c.Allows env s id m → ∀ delivery outcome, m ≠ .consume delivery outcome := by
    rintro m hallows delivery outcome rfl
    obtain ⟨hdelivers, -⟩ := hallows
    cases delivery <;>
    · obtain ⟨message, rfl, -⟩ := hdelivers
      exact hplans
  have hlife := life_exec env s id c henabled
  constructor
  · intro hfailed
    refine hlife.invariant (fun v => v.row = (s.view id).row) ?_ rfl
    intro m v hallows hm hrow
    have hstatus : v.status? = some .failed := by rw [JobView.status?, hrow]; exact hfailed
    rw [← hrow]
    exact Move.failed_kept hm (hregular.allows hallows) (hother m hallows) hstatus
  · intro hnot
    refine hlife.invariant (fun v => v.status? ≠ some .failed) ?_ hnot
    intro m v hallows hm hstatus
    exact Move.not_failed hm (hregular.allows hallows) (hother m hallows) hstatus

omit [RateLimiter L] in
theorem unseen_failureReports (id : Int) : Unseen (State.failureReports (L := L) id) := by
  have hgap : ∀ now last, (WatcherService.gapIncident now last).reportsFailure id = false := by
    intro now last
    simp [Incident.reportsFailure, WatcherService.gapIncident]
  have hpublish : ∀ (s : State L) now last,
      (s.publish (WatcherService.gapIncident now last)).failureReports id =
        s.failureReports id := by
    intro s now last
    simp [State.failureReports, State.publish, hgap]
  refine ⟨⟨?_, ?_⟩, ?_, ?_, ?_, ?_, ?_, hpublish⟩ <;> intros <;> rfl

/-! ## Deliveries -/

/-- What a delivery publishes about a job that is out of retries. -/
def exhaustion (env : CallEnv) (job : Job) (s : State L) : List Incident :=
  match consumeOutcome s env job, executionResult env.outcome job with
  | .fail _, .error e => if MAX_RETRY ≤ job.retryCount then [exhaustedIncident job e] else []
  | _, _ => []

omit [RateLimiter L] in
theorem failureReports_publish (incident : Incident) (s : State L) (id : Int) :
    (s.publish incident).failureReports id =
      s.failureReports id ++ [incident].filter (Incident.reportsFailure id) :=
  List.filter_append _ _

omit [RateLimiter L] in
theorem failureReports_catchEffect (now : Int) (job : Job) (e : JavaException) (s : State L)
    (id : Int) : (catchEffect now job e s).failureReports id = s.failureReports id ++
      (if MAX_RETRY ≤ job.retryCount then [exhaustedIncident job e] else []).filter
        (Incident.reportsFailure id) := by
  have hcount : (countFailureEffect now job e s).failureReports id = s.failureReports id := by
    unfold countFailureEffect
    dsimp only
    split_ifs
    · -- the circuit that opens is reported as such
      rw [failureReports_publish]
      exact List.append_nil _
    · rfl
  unfold catchEffect
  dsimp only
  split_ifs
  · rw [failureReports_publish]
    exact congrArg (· ++ _) hcount
  · exact hcount.trans (List.append_nil _).symm

/-- Of what a delivery publishes, only the last failure is reported as a failure. -/
theorem failureReports_consumeJobEffect (env : CallEnv) (job : Job) (s : State L) (id : Int) :
    (consumeJobEffect env job s).failureReports id =
      s.failureReports id ++ (exhaustion env job s).filter (Incident.reportsFailure id) := by
  unfold consumeJobEffect exhaustion consumeOutcome
  cases verdict env job s with
  | cancelled => exact (List.append_nil _).symm
  | rateLimited | circuitOpen => exact failureReports_publish _ s id
  | admitted =>
      have hhalf : (halfOpenEffect job (askLimiter env job s)).failureReports id =
          s.failureReports id := by
        unfold halfOpenEffect
        split_ifs <;> rfl
      have hrun : ∀ t : State L, (runExecutor env.outcome job t).failureReports id =
          t.failureReports id := by
        intro t
        unfold runExecutor
        split <;> rfl
      dsimp only [attemptEffect]
      by_cases hqueued : job.status = .queued
      · rw [if_pos hqueued, if_pos hqueued, executeEffect, executeOutcome]
        cases executionResult env.outcome job with
        | ok value => exact ((hrun _).trans hhalf).trans (List.append_nil _).symm
        | error e =>
            dsimp only
            rw [failureReports_catchEffect, hrun, hhalf]
      · rw [if_neg hqueued, if_neg hqueued]
        exact hhalf.trans (List.append_nil _).symm

omit [RateLimiter L] in
theorem reportsFailure_exhaustedIncident (job : Job) (e : JavaException) (id : Int) :
    (exhaustedIncident job e).reportsFailure id = decide (id = job.id) := by
  simp [Incident.reportsFailure, exhaustedIncident, eq_comm]

/-- A delivery of the message of a QUEUED job ends FAILED exactly if it reports a failure. -/
theorem reported_consumeOutcome (env : CallEnv) {job : Job}
    (hrow : (s.view job.id).row = some job) (hqueued : job.status = .queued) :
    Reported ((consumeOutcome s env job).apply (s.view job.id)) (exhaustion env job s) := by
  unfold exhaustion consumeOutcome
  cases verdict env job s with
  | cancelled =>
      refine .of_not_failed ?_
      simp [Outcome.apply, JobView.withStatus, JobView.status?, hrow]
  | rateLimited | circuitOpen =>
      refine .of_not_failed ?_
      simp [Outcome.apply, JobView.status?, hrow, deferred]
  | admitted =>
      dsimp only
      rw [if_pos hqueued, executeOutcome]
      cases executionResult env.outcome job with
      | ok value =>
          refine .of_not_failed ?_
          simp [Outcome.apply, JobView.withStatus, JobView.status?, hrow]
      | error e =>
          dsimp only
          have hafter : ((Outcome.fail (env.millis 1)).apply (s.view job.id)).row =
              some (failedRow job (env.millis 1)) := by
            simp [Outcome.apply, hrow]
          unfold failedRow at hafter
          split_ifs at hafter ⊢ with hexhausted
          · exact .of_failed hafter rfl e
          · refine .of_not_failed ?_
            rw [JobView.status?_of_row hafter]
            simp [deferred]

/-- A delivery for another job reports nothing about this one. -/
theorem failureReports_consumeEffect_of_not_carries (env : CallEnv) {message : String}
    (h : carries id message = false) (s : State L) :
    (consumeEffect env message s).failureReports id = s.failureReports id := by
  unfold consumeEffect
  cases hparse : parseLong message with
  | none => rfl
  | some jobId =>
      cases hrow : s.jobs.findById jobId with
      | none => simp only [hrow]
      | some job =>
          have hne : ∀ e, (exhaustedIncident job e).reportsFailure id = false := by
            intro e
            rw [reportsFailure_exhaustedIncident, decide_eq_false_iff_not]
            rintro rfl
            rw [carries, hparse, JobTable.id_of_findById hrow] at h
            simp at h
          simp only [hrow]
          rw [failureReports_consumeJobEffect, exhaustion]
          split
          · split_ifs <;> simp [hne]
          · exact List.append_nil _

/-- A delivery for a QUEUED job reports the failure that it ends with. -/
theorem reported_consumeEffect (env : CallEnv) {message : String} {job : Job}
    (hcarries : carries job.id message = true) (hrow : s.jobs.findById job.id = some job)
    (hqueued : job.status = .queued) (hreports : s.failureReports job.id = []) :
    Reported ((consumeEffect env message s).view job.id)
      ((consumeEffect env message s).failureReports job.id) := by
  have hparse : parseLong message = some job.id := by simpa [carries] using hcarries
  have heffect : consumeEffect env message s = consumeJobEffect env job s := by
    simp only [consumeEffect, hparse, hrow]
  have hall : (exhaustion env job s).filter (Incident.reportsFailure job.id) =
      exhaustion env job s := by
    unfold exhaustion
    split
    · split_ifs <;> simp [reportsFailure_exhaustedIncident]
    · rfl
  rw [view_consumeEffect_of_carries s job.id env hcarries, deliveryOutcome, hrow, heffect,
    failureReports_consumeJobEffect, hreports, hall]
  exact reported_consumeOutcome env hrow hqueued

/-! ## Runs -/

/-- A step of a system without duplicates does not touch the row of a FAILED job: no message
of the job is left to be delivered. -/
theorem failed_row_step {t : State L} {label : Call × CallEnv} (hstep : RegularStep s label t)
    (hcarried : Carried (s.view id)) (hfailed : (s.view id).status? = some .failed) :
    (t.view id).row = (s.view id).row := by
  obtain ⟨hregular, henabled, rfl⟩ := hstep
  obtain ⟨c, env⟩ := label
  have hplan : c.Plans → ((c.exec env s).view id).row = (s.view id).row :=
    fun hplans => (failed_of_plans hplans hregular env s id).1 hfailed
  cases c with
  | consume message =>
      rw [exec_consume]
      by_cases hcarries : carries id message = true
      · obtain ⟨hqueued, -, -⟩ := hcarried.queued_of_inFlight (s.inFlight_pos id henabled hcarries)
        rw [hfailed] at hqueued
        cases hqueued
      · rw [Bool.not_eq_true] at hcarries
        rw [view_consumeEffect_of_not_carries _ _ _ hcarries]
        rfl
  | redeliver message => exact hregular.elim
  | resetCircuit type =>
      rw [exec_resetCircuit]
      rfl
  | createJob | cancelJob | watch | triggerRecovery | reconcileRedis | dispatch | requeueJob =>
      exact hplan trivial

theorem failed_row_run {t : State L} {labels : List (Call × CallEnv)}
    (hrun : Run RegularStep s labels t) (hcarried : Carried (s.view id))
    (hfailed : (s.view id).status? = some .failed) : (t.view id).row = (s.view id).row := by
  refine (hrun.invariant
    (fun t => Carried (t.view id) ∧ (t.view id).row = (s.view id).row) ?_ ⟨hcarried, rfl⟩).2
  rintro t label u - ⟨hcarried, hrow⟩ hstep
  have hstatus : (t.view id).status? = some .failed := by rw [JobView.status?, hrow]; exact hfailed
  exact ⟨Carried.step hstep id hcarried, (failed_row_step hstep hcarried hstatus).trans hrow⟩

/-- A step of a system without duplicates keeps the reports and the status together. -/
theorem reported_step {t : State L} {label : Call × CallEnv} (hstep : RegularStep s label t)
    (hcarried : Carried (s.view id)) (h : Reported (s.view id) (s.failureReports id)) :
    Reported (t.view id) (t.failureReports id) := by
  obtain ⟨hregular, henabled, rfl⟩ := hstep
  obtain ⟨c, env⟩ := label
  have hplan : c.Plans → Reported ((c.exec env s).view id) ((c.exec env s).failureReports id) := by
    intro hplans
    obtain ⟨hkept, hnot⟩ := failed_of_plans hplans hregular env s id
    rw [(unseen_failureReports id).exec hplans]
    by_cases hfailed : (s.view id).status? = some .failed
    · exact h.congr (hkept hfailed)
    · rw [h.other hfailed]
      exact .of_not_failed (hnot hfailed)
  cases c with
  | consume message =>
      rw [exec_consume]
      by_cases hcarries : carries id message = true
      · -- the message is in the topic, so the job is QUEUED
        obtain ⟨hqueued, -, -⟩ := hcarried.queued_of_inFlight (s.inFlight_pos id henabled hcarries)
        obtain ⟨job, hrow, hstatus⟩ := JobView.exists_row hqueued
        have hreports : s.failureReports id = [] := h.other (by simp [hqueued])
        obtain rfl : job.id = id := JobTable.id_of_findById hrow
        exact reported_consumeEffect env hcarries hrow hstatus hreports
      · rw [Bool.not_eq_true] at hcarries
        rw [failureReports_consumeEffect_of_not_carries env hcarries]
        refine h.congr ?_
        rw [view_consumeEffect_of_not_carries _ _ _ hcarries]
        rfl
  | redeliver message => exact hregular.elim
  | resetCircuit type =>
      rw [exec_resetCircuit]
      exact h
  | createJob | cancelJob | watch | triggerRecovery | reconcileRedis | dispatch | requeueJob =>
      exact hplan trivial

/-- The carriers of a job and its reports, along a run. -/
theorem carried_reported_of_run {limiter : L} {labels : List (Call × CallEnv)}
    (hrun : Run RegularStep (State.empty limiter) labels s) (id : Int) :
    Carried (s.view id) ∧ Reported (s.view id) (s.failureReports id) := by
  refine hrun.invariant
    (fun s => Carried (s.view id) ∧ Reported (s.view id) (s.failureReports id)) ?_ ?_
  · rintro s label t - ⟨hcarried, hreported⟩ hstep
    exact ⟨Carried.step hstep id hcarried, reported_step hstep hcarried hreported⟩
  · have hempty : Run RegularStep (State.empty limiter) [] (State.empty limiter) := .nil _
    exact ⟨carried_of_run hempty id, .of_not_failed (by simp [State.view_empty, JobView.status?])⟩

end Steps

/-! ## A job out of retries -/

/-- The executor refuses. -/
def refusing (millis : Int) : CallEnv := .within millis (.error ⟨some "Connection refused"⟩)

/-- A retry, long after the last one. -/
def refusedRetry (k : Int) : List (Call × CallEnv) :=
  [(.watch, refusing (k * 100000)), (.dispatch, refusing (k * 100000)),
    (.consume "1", refusing (k * 100000))]

def outOfRetries : List (Call × CallEnv) :=
  [(.createJob (.immediate "API"), refusing 1000), (.consume "1", refusing 1000)] ++
    refusedRetry 1 ++ refusedRetry 2 ++ refusedRetry 3 ++ refusedRetry 4 ++ refusedRetry 5

theorem run_outOfRetries : Run RegularStep (State.empty LuaLimiter.empty) outOfRetries
    (execAll outOfRetries (State.empty LuaLimiter.empty)) :=
  run_execAll (by decide) (by decide +kernel)

end JobQueue
