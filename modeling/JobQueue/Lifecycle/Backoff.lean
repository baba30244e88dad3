import JobQueue.Lifecycle.Carrier

/-!
# Back-off

A consumer that puts a job back writes the time of the next attempt into
`nextRetryTime`, and the watcher queues the job with this time as its score.
From then on the row is SCHEDULED like the row of a job that never ran, and the
recovery and the reconciliation re-insert it with its `scheduleTime`, which is
long past: the score drops below the retry time.

Where no such pass meets the job before its retry time, the score of a SCHEDULED
job never lies before the retry time, so no dispatch sends it early.
-/

namespace JobQueue

open Call KafkaConsumerService

/-- A SCHEDULED job with a retry time is queued for this time, or the time is
past.  A PENDING job has none. -/
structure BackoffKept (now : Int) (v : JobView) : Prop where
  fresh : v.status? = some .pending → v.retryTime? = none
  scheduled : v.status? = some .scheduled → ∀ time score, v.retryTime? = some time →
    v.score = some score → time ≤ score ∨ time ≤ now

namespace BackoffKept

variable {now : Int} {v : JobView} {id : Int}

theorem later {now' : Int} (h : BackoffKept now v) (hle : now ≤ now') : BackoffKept now' v :=
  ⟨h.fresh, fun hstatus time score htime hscore =>
    (h.scheduled hstatus time score htime hscore).imp_right fun hpast => hpast.trans hle⟩

theorem of_status (status : JobStatus) (hstatus : v.status? = some status)
    (hpending : status ≠ .pending) (hscheduled : status ≠ .scheduled) : BackoffKept now v := by
  constructor
  · intro h
    rw [hstatus] at h
    exact absurd (Option.some.inj h) hpending
  · intro h
    rw [hstatus] at h
    exact absurd (Option.some.inj h) hscheduled

/-- The only move that can lose the back-off is a re-insertion before the retry
time. -/
theorem move (m : Move) (henabled : m.Enabled v) (hrequeue : m ≠ .requeue)
    (hreinsert : ∀ time, m = .reinsert time → ∀ retryTime, v.retryTime? = some retryTime →
      retryTime ≤ now)
    (h : BackoffKept now v) : BackoffKept now (m.apply id v) := by
  cases m with
  | create data =>
      obtain ⟨-, hpending, hnone⟩ := henabled
      constructor <;> simp [Move.apply, JobView.status?, JobView.retryTime?, hpending, hnone]
  | sendNow =>
      obtain ⟨job, hrow, -⟩ := JobView.exists_row henabled
      exact of_status .queued (by simp [Move.apply, hrow]) (by decide) (by decide)
  | requestCancel deadline => exact ⟨h.fresh, h.scheduled⟩
  | schedule =>
      obtain ⟨job, hrow, -⟩ := JobView.exists_row henabled
      -- a job that was never put back has no retry time
      have hnone : job.nextRetryTime = none := by
        rw [← JobView.retryTime?_of_row hrow]
        exact h.fresh henabled
      constructor <;>
        simp [Move.apply, JobView.withStatus, JobView.status?, JobView.retryTime?, hrow, hnone]
  | scheduleRetry =>
      obtain ⟨job, hrow, -⟩ := JobView.exists_row henabled.1
      constructor
      · simp [Move.apply, JobView.withStatus, JobView.status?, hrow]
      · intro _ time score htime hscore
        have hrowTime : v.retryTime? = some time := by
          simpa [Move.apply, JobView.withStatus, JobView.retryTime?, hrow] using htime
        have hscoreTime : v.retryTime? = some score := hscore
        rw [hrowTime] at hscoreTime
        exact .inl (Option.some.inj hscoreTime).le
  | reinsert time =>
      exact ⟨h.fresh, fun _ retryTime _ hretry _ => .inr (hreinsert time rfl retryTime hretry)⟩
  | dispatch time =>
      obtain ⟨job, hrow, -⟩ := JobView.exists_row henabled.1
      refine of_status .queued ?_ (by decide) (by decide)
      simp [Move.apply, JobView.withMessage, JobView.withStatus, JobView.status?, hrow]
  | drop time => exact ⟨h.fresh, fun hstatus => absurd hstatus henabled.1⟩
  | requeue => exact absurd rfl hrequeue
  | consume delivery outcome =>
      obtain ⟨-, houtcome⟩ := henabled
      cases outcome with
      | honour time =>
          obtain ⟨job, hrow⟩ := Option.isSome_iff_exists.mp houtcome.1
          refine of_status .cancelled ?_ (by decide) (by decide)
          simp [Move.apply, Outcome.apply, JobView.withStatus, JobView.status?, hrow]
      | defer time =>
          obtain ⟨job, hrow⟩ := Option.isSome_iff_exists.mp houtcome
          refine of_status .retry ?_ (by decide) (by decide)
          simp [Move.apply, Outcome.apply, JobView.status?, hrow, deferred]
      | ignore => exact ⟨h.fresh, h.scheduled⟩
      | complete =>
          obtain ⟨job, hrow, -⟩ := JobView.exists_row houtcome.1
          refine of_status .completed ?_ (by decide) (by decide)
          simp [Move.apply, Outcome.apply, JobView.withStatus, JobView.status?, hrow]
      | fail time =>
          obtain ⟨job, hrow, -⟩ := JobView.exists_row houtcome
          refine of_status (failedRow job time).status ?_ ?_ ?_
          · simp [Move.apply, Outcome.apply, JobView.status?, hrow]
          · rcases failedRow_cases job time with hs | ⟨hs, -⟩ <;> simp [hs]
          · rcases failedRow_cases job time with hs | ⟨hs, -⟩ <;> simp [hs]

end BackoffKept

section Runs

variable {L : Type} [RateLimiter L] {id : Int}

/-- The call does not re-insert the job before its retry time. -/
def RespectsBackoff (id : Int) (s : State L) (label : Call × CallEnv) : Prop :=
  label.1.Reinserts label.2 s id → ∀ time, (s.view id).retryTime? = some time →
    time ≤ label.2.millis 0

/-- A step without manual requeue that respects the back-off of the job. -/
def BackoffStep (id : Int) (s : Timed L) (label : Call × CallEnv) (t : Timed L) : Prop :=
  NoRequeueStep s label t ∧ RespectsBackoff id s.state label

/-- The passes that re-insert jobs do not write retry times. -/
theorem retryTime?_of_reinserts {c : Call} {env : CallEnv} {s : State L}
    (hreinserts : c.Reinserts env s id) {m : Move} (hallowed : c.Allows env s id m)
    (v : JobView) : (m.apply id v).retryTime? = v.retryTime? := by
  cases m with
  | create data =>
      obtain ⟨request, time, rfl, -, -⟩ := hallowed
      exact hreinserts.elim
  | consume delivery outcome =>
      cases delivery with
      | first =>
          obtain ⟨⟨message, rfl, -⟩, -⟩ := hallowed
          exact hreinserts.elim
      | again =>
          obtain ⟨⟨message, rfl, -⟩, -⟩ := hallowed
          exact hreinserts.elim
  | sendNow | requeue | dispatch => exact JobView.retryTime?_withStatus v .queued
  | schedule => exact JobView.retryTime?_withStatus v .scheduled
  | scheduleRetry => exact JobView.retryTime?_withStatus v .scheduled
  | requestCancel | reinsert | drop => rfl

theorem BackoffKept.step {s t : Timed L} {label : Call × CallEnv}
    (hstep : BackoffStep id s label t) (h : BackoffKept s.now (s.state.view id)) :
    BackoffKept t.now (t.state.view id) := by
  obtain ⟨⟨hrequeue, htimed⟩, hrespects⟩ := hstep
  obtain ⟨henabled, hexec⟩ := htimed.step
  rw [hexec]
  have hlife := life_exec label.2 s.state id label.1 henabled
  -- the condition on the step is about the retry time before it, so the invariant
  -- within the call says that a call that re-inserts does not change this time
  refine (hlife.invariant (fun v => BackoffKept t.now v ∧
    (label.1.Reinserts label.2 s.state id → v.retryTime? = (s.state.view id).retryTime?))
    ?_ ⟨h.later htimed.now_le, fun _ => rfl⟩).1
  rintro m v hallowed hm ⟨hv, hsame⟩
  refine ⟨hv.move m hm (hrequeue.allows hallowed) ?_, fun hreinserts => ?_⟩
  · rintro time rfl retryTime hretry
    obtain ⟨-, hreinserts⟩ := hallowed
    rw [hsame hreinserts] at hretry
    exact (hrespects hreinserts retryTime hretry).trans (htimed.before 0)
  · rw [retryTime?_of_reinserts hreinserts hallowed, hsame hreinserts]

/-- A dispatch sends a message only for a SCHEDULED job that is ready. -/
theorem ready_of_sent {s : State L} {env : CallEnv}
    (hsent : (s.view id).sent < ((Call.dispatch.exec env s).view id).sent) :
    (s.view id).status? = some .scheduled ∧ (s.view id).Ready (env.millis 0) := by
  rw [exec_dispatch] at hsent
  by_cases hready : (s.view id).Ready (env.millis 0)
  · refine ⟨?_, hready⟩
    rw [view_dispatchEffect_of_ready s id _ hready, dispatchMove] at hsent
    split_ifs at hsent with hstatus
    · exact hstatus
    · exact absurd hsent (lt_irrefl _)
  · rw [view_dispatchEffect_of_not_ready s id _ hready] at hsent
    exact absurd hsent (lt_irrefl _)

/-- Back-off is respected along every run without manual requeue in which no recovery and no
reconciliation re-inserts the job before its retry time: when a dispatch sends a
message for a job whose retry time is `time`, this time has come. -/
theorem backoff_respected {limiter : L} {start : Int} {labels : List (Call × CallEnv)}
    {s t : Timed L} {env : CallEnv}
    (hrun : Run (BackoffStep id) ⟨State.empty limiter, start⟩ labels s)
    (hdispatch : TimedCallStep s (.dispatch, env) t)
    (hsent : (s.state.view id).sent < (t.state.view id).sent) {job : Job}
    (hrow : s.state.jobs.findById id = some job) {time : Int}
    (htime : job.nextRetryTime = some time) : time ≤ env.millis 0 := by
  have hkept : BackoffKept s.now (s.state.view id) := by
    refine hrun.invariant (fun s => BackoffKept s.now (s.state.view id))
      (fun s label t _ hs hstep => BackoffKept.step hstep hs) ?_
    rw [State.view_empty]
    constructor <;> simp [JobView.status?]
  rw [hdispatch.step.2] at hsent
  obtain ⟨hstatus, score, hscore, -, hdue⟩ := ready_of_sent hsent
  have hview : (s.state.view id).row = some job := hrow
  have hretry : (s.state.view id).retryTime? = some time := by
    rw [JobView.retryTime?_of_row hview, htime]
  have hclock : s.now ≤ env.millis 0 := hdispatch.after 0
  rcases hkept.scheduled hstatus time score hretry hscore with h | h
  · exact h.trans hdue
  · exact h.trans hclock

end Runs

/-- A job fails at 2000 and is put back until 4000; the watcher queues it. -/
def putBack : List (Call × CallEnv) :=
  [(.createJob (.immediate "LOG"), .within 1000 (.ok ())),
    (.consume "1", .within 2000 (.error ⟨none⟩)), (.watch, .within 2500 (.ok ()))]

/-- The job is sent at 4000. -/
theorem backoff_respected_putBack :
    (4000 : Int) ≤ (CallEnv.within 4000 (.ok ())).millis 0 := by
  let start := State.empty LuaLimiter.empty
  let created := (Call.createJob (.immediate "LOG")).exec (.within 1000 (.ok ())) start
  let failed := (Call.consume "1").exec (.within 2000 (.error ⟨none⟩)) created
  let queued := Call.watch.exec (.within 2500 (.ok ())) failed
  have hgap : ¬ WatcherService.GapDetected 2500 failed.lastRun := by decide
  have hquiet : ¬ Call.watch.Reinserts (.within 2500 (.ok ())) failed 1 := fun h => hgap h.1
  have hcreate : TimedStep ⟨start, 0⟩ (.createJob (.immediate "LOG"), .within 1000 (.ok ()))
      ⟨created, 1000⟩ := timedStep_within (by decide) (by decide) (by decide)
  have hfail : TimedStep ⟨created, 1000⟩ (.consume "1", .within 2000 (.error ⟨none⟩))
      ⟨failed, 2000⟩ := timedStep_within (by decide) (by decide) (by decide)
  have hwatch : TimedStep ⟨failed, 2000⟩ (.watch, .within 2500 (.ok ())) ⟨queued, 2500⟩ :=
    timedStep_within (by decide) (by decide) (by decide)
  have hdispatch : TimedStep ⟨queued, 2500⟩ (.dispatch, .within 4000 (.ok ()))
      ⟨Call.dispatch.exec (.within 4000 (.ok ())) queued, 4000⟩ :=
    timedStep_within (by decide) (by decide) (by decide)
  have hrun : Run (BackoffStep 1) ⟨start, 0⟩ putBack ⟨queued, 2500⟩ :=
    .cons ⟨noRequeue_of_timed _ _ _ hcreate, fun h => h.elim⟩
      (.cons ⟨noRequeue_of_timed _ _ _ hfail, fun h => h.elim⟩
        (.single ⟨noRequeue_of_timed _ _ _ hwatch, fun h => absurd h hquiet⟩))
  have hrow : queued.jobs.findById 1 =
      some ⟨⟨"LOG", .scheduled, none, none, none, 1, 1000, some 4000⟩, 1⟩ := by decide
  exact backoff_respected hrun (timedCall_of_timed _ _ _ hdispatch) (by decide) hrow rfl

/-- A reconciliation at 2600 re-inserts the job with its schedule time, and a
dispatch at 2700 sends it 1.3 seconds before its retry time. -/
theorem backoff_ignored :
    let start := State.empty LuaLimiter.empty
    let labels := putBack ++ [(.reconcileRedis, .within 2600 (.ok ()))]
    let before := Call.execAll labels start
    let after := Call.dispatch.exec (.within 2700 (.ok ())) before
    (∃ now ≤ 2700, Run TimedStep ⟨start, 0⟩ labels ⟨before, now⟩) ∧
      ((Call.execAll (putBack.take 2) start).view 1).status? = some .retry ∧
      ((Call.execAll (putBack.take 2) start).view 1).retryTime? = some 4000 ∧
      (before.view 1).retryTime? = some 4000 ∧
      (before.view 1).sent < (after.view 1).sent := by
  intro start labels before after
  have htimes : Chronological 0 labels :=
    ⟨_, _, rfl, by decide, _, _, rfl, by decide, _, _, rfl, by decide, _, _, rfl, by decide,
      trivial⟩
  have hrun : Run TimedStep ⟨start, 0⟩ labels ⟨before, latest 0 labels⟩ :=
    timedRun_execAll (by decide) (by decide) htimes
  exact ⟨⟨_, by decide, hrun⟩, by decide, by decide, by decide, by decide⟩

end JobQueue
