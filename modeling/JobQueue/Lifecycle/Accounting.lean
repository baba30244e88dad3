import JobQueue.Lifecycle.Carrier

/-!
# Execution accounting

`retryCount` is written in one place only, the `catch` block of the consumer, so
it counts failed executions up to `MAX_RETRY`.  In a system without duplicates
the two never drift apart: the outcomes of a job's executor calls are
`retryCount` failures, and one more outcome once the job is COMPLETED or FAILED.
-/

namespace JobQueue

open Call KafkaConsumerService

/-- The last outcome of a job that will not run again. -/
def JobStatus.lastOutcome : JobStatus → List Bool
  | .completed => [true]
  | .failed => [false]
  | .pending | .scheduled | .queued | .processing | .retry | .cancelled => []

/-- The row accounts for the outcomes of the executor calls. -/
structure Job.Accounts (job : Job) (executions : List Bool) : Prop where
  resolved : (ExecutorFactory.resolve job.type).isSome
  bounded : job.retryCount ≤ MAX_RETRY
  exhausted : job.status = .failed → job.retryCount = MAX_RETRY
  outcomes : executions = List.replicate job.retryCount false ++ job.status.lastOutcome

namespace Job.Accounts

variable {job : Job} {executions : List Bool}

/-- A row with the same type and count, when neither status has a last
outcome. -/
theorem of_row (h : job.Accounts executions) {row : Job} (htype : row.type = job.type)
    (hcount : row.retryCount = job.retryCount) (hbefore : job.status.lastOutcome = [])
    (hafter : row.status.lastOutcome = []) : row.Accounts executions := by
  constructor
  · rw [htype]
    exact h.resolved
  · rw [hcount]
    exact h.bounded
  · intro hfailed
    rw [hfailed] at hafter
    cases hafter
  · rw [h.outcomes, hcount, hbefore, hafter]

theorem executions_of_queued (h : job.Accounts executions) (hqueued : job.status = .queued) :
    executions = List.replicate job.retryCount false := by
  rw [h.outcomes, hqueued]
  exact List.append_nil _

theorem complete (h : job.Accounts executions) (hqueued : job.status = .queued) :
    Accounts { job with status := .completed } (executions ++ [true]) := by
  refine ⟨h.resolved, h.bounded, (fun hfailed => by cases hfailed), ?_⟩
  rw [h.executions_of_queued hqueued]
  rfl

/-- A failed execution is counted, or is the last one. -/
theorem fail (h : job.Accounts executions) (hqueued : job.status = .queued) (now : Int) :
    (failedRow job now).Accounts (executions ++ [false]) := by
  have hbefore := h.executions_of_queued hqueued
  unfold failedRow
  split_ifs with hexhausted
  · refine ⟨h.resolved, h.bounded, fun _ => le_antisymm h.bounded hexhausted, ?_⟩
    rw [hbefore]
    rfl
  · refine ⟨h.resolved, not_le.mp hexhausted, (fun hfailed => by cases hfailed), ?_⟩
    rw [hbefore, ← List.replicate_succ']
    exact (List.append_nil _).symm

theorem length_eq (h : job.Accounts executions) :
    executions.length = job.retryCount +
      (if job.status = .completed ∨ job.status = .failed then 1 else 0) := by
  rw [h.outcomes]
  cases job.status <;> simp [JobStatus.lastOutcome]

/-- A job is FAILED exactly when its sixth execution failed. -/
theorem failed_iff (h : job.Accounts executions) :
    job.status = .failed ↔ executions[MAX_RETRY]? = some false := by
  have hbound := h.bounded
  constructor
  · intro hfailed
    rw [h.outcomes, hfailed, h.exhausted hfailed]
    rfl
  · intro hsixth
    rw [h.outcomes, List.getElem?_append_right (by simpa using hbound)] at hsixth
    cases hstatus : job.status <;> simp_all [JobStatus.lastOutcome, List.getElem?_singleton]

end Job.Accounts

/-- A job without a row was never executed; the row of any other job accounts
for its executions. -/
def Accounted (v : JobView) : Prop :=
  match v.row with
  | none => v.executions = []
  | some job => job.Accounts v.executions

namespace Accounted

variable {v : JobView} {id : Int}

theorem of_row {job : Job} (hrow : v.row = some job) (h : Accounted v) :
    job.Accounts v.executions := by
  rwa [Accounted, hrow] at h

theorem intro_row (job : Job) (hrow : v.row = some job) (h : job.Accounts v.executions) :
    Accounted v := by
  rwa [Accounted, hrow]

/-- A change of the status between two that have no last outcome. -/
theorem withStatus (h : Accounted v) {before after : JobStatus}
    (hstatus : v.status? = some before) (hbefore : before.lastOutcome = [])
    (hafter : after.lastOutcome = []) : Accounted (v.withStatus after) := by
  obtain ⟨job, hrow, rfl⟩ := JobView.exists_row hstatus
  have hafterRow : (v.withStatus after).row = some { job with status := after } := by
    simp [JobView.withStatus, hrow]
  exact intro_row _ hafterRow ((h.of_row hrow).of_row rfl rfl hbefore hafter)

/-- A delivery of the message of a QUEUED job. -/
theorem deliver (h : Accounted v) {outcome : Outcome} (hqueued : v.status? = some .queued)
    (henabled : outcome.Enabled v) : Accounted (outcome.apply v) := by
  obtain ⟨job, hrow, hstatus⟩ := JobView.exists_row hqueued
  have haccounts := h.of_row hrow
  cases outcome with
  | honour now => exact h.withStatus hqueued rfl rfl
  | defer time =>
      refine intro_row (deferred job time) (by simp [Outcome.apply, hrow])
        (haccounts.of_row rfl rfl ?_ rfl)
      rw [hstatus]
      rfl
  | ignore => exact absurd hqueued henabled
  | complete =>
      exact intro_row { job with status := .completed }
        (by simp [Outcome.apply, JobView.withStatus, hrow]) (haccounts.complete hstatus)
  | fail now =>
      obtain ⟨executor, hresolve⟩ := Option.isSome_iff_exists.mp haccounts.resolved
      refine intro_row (failedRow job now) (by simp [Outcome.apply, hrow]) ?_
      simp only [Outcome.apply, hrow, Option.elim_some, Outcome.failedExecutions, hresolve]
      exact haccounts.fail hstatus now

end Accounted

/-- A job is created with no retries and a type that has an executor. -/
def Move.Accountable : Move → Prop
  | create data => data.retryCount = 0 ∧ (ExecutorFactory.resolve data.type).isSome
  | _ => True

/-- Every move of a system without duplicates keeps the account. -/
theorem Accounted.move {v : JobView} {id : Int} (m : Move) (hregular : m.Regular)
    (haccountable : m.Accountable) (henabled : m.Enabled v) (hcarried : Carried v)
    (h : Accounted v) : Accounted (m.apply id v) := by
  cases m with
  | create data =>
      obtain ⟨hnone, hpending, -⟩ := henabled
      obtain ⟨hcount, hresolve⟩ := haccountable
      have hexecutions : v.executions = [] := by rwa [Accounted, hnone] at h
      refine intro_row { data with id := id } rfl ⟨hresolve, ?_, ?_, ?_⟩
      · simp [hcount]
      · simp [hpending]
      · simp [Move.apply, hcount, hpending, hexecutions, JobStatus.lastOutcome]
  | sendNow => exact h.withStatus henabled rfl rfl
  | requestCancel deadline => exact h
  | schedule => exact h.withStatus henabled rfl rfl
  | scheduleRetry => exact h.withStatus henabled.1 rfl rfl
  | reinsert now => exact h
  | dispatch now => exact h.withStatus henabled.1 rfl rfl
  | drop now => exact h
  | requeue => exact hregular.elim
  | consume delivery outcome =>
      cases delivery with
      | again => exact hregular.elim
      | first =>
          obtain ⟨hpos, houtcome⟩ := henabled
          have hpos : 1 ≤ v.inFlight := hpos
          obtain ⟨hqueued, -, -⟩ := hcarried.queued_of_inFlight hpos
          exact h.deliver hqueued houtcome

/-! ## Runs -/

/-- `JobRequest.type` matches the pattern `EMAIL|API|LOG`. -/
def Call.Validated : Call → Prop
  | createJob request =>
      request.type = "EMAIL" ∨ request.type = "API" ∨ request.type = "LOG"
  | _ => True

instance : DecidablePred Call.Validated := fun c =>
  match c with
  | .createJob _ => inferInstanceAs (Decidable (_ ∨ _))
  | .cancelJob _ | .watch | .triggerRecovery | .reconcileRedis | .dispatch | .resetCircuit _
  | .requeueJob _ | .consume _ | .redeliver _ => isTrue trivial

theorem Call.Validated.resolve {request : JobRequest}
    (h : (createJob request).Validated) :
    (ExecutorFactory.resolve request.type).isSome := by
  rcases h with h | h | h <;> rw [h] <;> rfl

section Runs

variable {L : Type} [RateLimiter L] {limiter : L} {labels : List (Call × CallEnv)}
variable {s t : State L} {id : Int}

theorem Call.Validated.allows {c : Call} (hvalid : c.Validated) {env : CallEnv} {m : Move}
    (h : c.Allows env s id m) : m.Accountable := by
  cases m with
  | create data =>
      obtain ⟨request, time, rfl, -, rfl⟩ := h
      exact ⟨rfl, hvalid.resolve⟩
  | sendNow | requestCancel | schedule | scheduleRetry | reinsert | dispatch | drop | requeue
  | consume => trivial

/-- A step of a system without duplicates that creates jobs of the three types
only. -/
def ValidatedStep (s : State L) (label : Call × CallEnv) (t : State L) : Prop :=
  RegularStep s label t ∧ label.1.Validated

theorem Accounted.step {label : Call × CallEnv} (hstep : ValidatedStep s label t) (id : Int)
    (h : Carried (s.view id) ∧ Accounted (s.view id)) :
    Carried (t.view id) ∧ Accounted (t.view id) := by
  obtain ⟨⟨hregular, henabled, rfl⟩, hvalid⟩ := hstep
  refine (Call.life_exec label.2 s id label.1 henabled).invariant
    (fun v => Carried v ∧ Accounted v) ?_ h
  rintro m v hallowed hm ⟨hcarried, haccounted⟩
  exact ⟨hcarried.move m (hregular.allows hallowed) hm,
    haccounted.move m (hregular.allows hallowed) (hvalid.allows hallowed) hm hcarried⟩

theorem accounted_of_run (hrun : Run ValidatedStep (State.empty limiter) labels s) (id : Int) :
    Accounted (s.view id) := by
  refine (hrun.invariant (fun s => Carried (s.view id) ∧ Accounted (s.view id))
    (fun s label t _ hs hstep => Accounted.step hstep id hs) ?_).2
  rw [State.view_empty]
  exact ⟨by constructor <;> simp [JobView.status?], rfl⟩

/-! ## Deferrals -/

/-- Every delivery of a message of the job is deferred by the rate limit or by
an open circuit. -/
def Call.Defers (id : Int) (s : State L) (label : Call × CallEnv) : Prop :=
  label.1.Consumes id → ∀ job, s.jobs.findById id = some job →
    verdict label.2 job s = .rateLimited ∨ verdict label.2 job s = .circuitOpen

/-- A row keeps its count, and no executor was called for it. -/
def JobView.SameAccount (v w : JobView) : Prop :=
  w.row.map (fun job => job.retryCount) = v.row.map (fun job => job.retryCount) ∧
    w.executions = v.executions

theorem deliveryOutcome_deferred {env : CallEnv} {job : Job}
    (hrow : s.jobs.findById id = some job)
    (hverdict : verdict env job s = .rateLimited ∨ verdict env job s = .circuitOpen) :
    ∃ time, deliveryOutcome s id env = .defer time := by
  rw [deliveryOutcome, hrow]
  dsimp only
  unfold consumeOutcome
  rcases hverdict with h | h <;> rw [h] <;> exact ⟨_, rfl⟩

/-- A call that defers the job, if it delivers it at all, keeps its count. -/
theorem sameAccount_step {label : Call × CallEnv} (hstep : Call.Step s label t)
    (hdefers : Call.Defers id s label) {job : Job} (hrow : s.jobs.findById id = some job) :
    JobView.SameAccount (s.view id) (t.view id) := by
  obtain ⟨henabled, rfl⟩ := hstep
  refine (Call.life_exec label.2 s id label.1 henabled).invariant
    (fun v => JobView.SameAccount (s.view id) v) ?_ ⟨rfl, rfl⟩
  rintro m v hallowed hm ⟨hcount, hexecutions⟩
  have hsome : v.row.isSome := by
    have hview : (s.view id).row = some job := hrow
    cases hv : v.row with
    | none => simp [hv, hview] at hcount
    | some _ => rfl
  cases m with
  | create data =>
      rw [hm.1] at hsome
      cases hsome
  | sendNow | schedule | scheduleRetry | dispatch | requeue =>
      refine ⟨?_, hexecutions⟩
      rw [← hcount]
      simp [Move.apply, JobView.withMessage, JobView.withStatus, Function.comp_def]
  | requestCancel | reinsert | drop => exact ⟨hcount, hexecutions⟩
  | consume delivery outcome =>
      obtain ⟨hdelivers, rfl⟩ := hallowed
      obtain ⟨time, htime⟩ :=
        deliveryOutcome_deferred hrow (hdefers hdelivers.consumes job hrow)
      rw [htime]
      refine ⟨?_, hexecutions⟩
      rw [← hcount]
      simp [Move.apply, Outcome.apply, Function.comp_def, deferred]

theorem sameAccount_of_run
    (hrun : Run (fun s label t => Call.Step s label t ∧ Call.Defers id s label) s labels t)
    {job : Job} (hrow : s.jobs.findById id = some job) :
    JobView.SameAccount (s.view id) (t.view id) := by
  refine hrun.invariant (fun t => JobView.SameAccount (s.view id) (t.view id)) ?_ ⟨rfl, rfl⟩
  rintro t label u - ⟨hcount, hexecutions⟩ ⟨hstep, hdefers⟩
  have hview : (s.view id).row = some job := hrow
  have hsame := hcount
  rw [hview] at hsame
  obtain ⟨row, hrow', -⟩ := Option.map_eq_some_iff.mp hsame
  obtain ⟨hcount', hexecutions'⟩ := sameAccount_step hstep hdefers hrow'
  exact ⟨hcount'.trans hcount, hexecutions'.trans hexecutions⟩

/-- Execution accounting and the retry bound.  After every run without
duplicates over jobs of the three types, the executor of a job was called
`retryCount` times, and once more if the job is COMPLETED or FAILED; `retryCount`
is at most 5, so there are at most 6 calls, and the job is FAILED exactly when
the sixth one failed.  Deferrals, however many and whatever else happens between
them, change neither `retryCount` nor the executions. -/
theorem execution_accounting (hrun : Run ValidatedStep (State.empty limiter) labels s)
    {job : Job} (hrow : s.jobs.findById id = some job) :
    (s.view id).executions.length = job.retryCount +
        (if job.status = .completed ∨ job.status = .failed then 1 else 0) ∧
      job.retryCount ≤ 5 ∧
      (s.view id).executions.length ≤ 6 ∧
      (job.status = .failed ↔ (s.view id).executions[5]? = some false) ∧
      ∀ deferrals t, Run (fun s label t => ValidatedStep s label t ∧ Call.Defers id s label)
          s deferrals t →
        ∃ row, t.jobs.findById id = some row ∧ row.retryCount = job.retryCount ∧
          (t.view id).executions = (s.view id).executions := by
  have hview : (s.view id).row = some job := hrow
  have haccounts := (accounted_of_run hrun id).of_row hview
  have hlength := haccounts.length_eq
  have hbound : job.retryCount ≤ 5 := haccounts.bounded
  refine ⟨hlength, hbound, ?_, haccounts.failed_iff, ?_⟩
  · rw [hlength]
    split_ifs <;> omega
  · intro deferrals t hdeferrals
    obtain ⟨hcount, hexecutions⟩ := sameAccount_of_run
      (hdeferrals.mono fun _ _ _ h => ⟨h.1.1.2, h.2⟩) hrow
    rw [hview] at hcount
    obtain ⟨row, hrow', hsame⟩ := Option.map_eq_some_iff.mp hcount
    exact ⟨row, hrow', hsame, hexecutions⟩

end Runs

/-- A job that was executed once and is in RETRY. -/
theorem execution_accounting_oneRetry :
    ((Call.execAll oneRetry (State.empty LuaLimiter.empty)).view 1).executions.length = 1 := by
  have hrun : Run (fun s label t => (label.1.Regular ∧ label.1.Validated) ∧ Call.Step s label t)
      (State.empty LuaLimiter.empty) oneRetry
      (Call.execAll oneRetry (State.empty LuaLimiter.empty)) :=
    Call.run_execAll (P := fun c => c.Regular ∧ c.Validated) (by decide) (by decide)
  have hvalidated : Run ValidatedStep (State.empty LuaLimiter.empty) oneRetry
      (Call.execAll oneRetry (State.empty LuaLimiter.empty)) :=
    hrun.mono fun _ _ _ h => ⟨⟨h.1.1, h.2⟩, h.1.2⟩
  have hrow : (Call.execAll oneRetry (State.empty LuaLimiter.empty)).jobs.findById 1 =
      some ⟨⟨"API", .retry, none, none, none, 1, 16200000, some 16203000⟩, 1⟩ := by decide
  exact (execution_accounting hvalidated hrow).1

end JobQueue
