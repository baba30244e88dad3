import JobQueue.Lifecycle.Carrier

/-!
# Cancellation

`cancelJob` leaves a flag in Redis that lives for ten minutes.  The flag is read
in one place, when a consumer receives the job.  A job that waits longer than
the flag lives is executed although its cancellation was accepted; a job that
reaches the consumer in time is cancelled, and nothing brings it back.
-/

namespace JobQueue

open Call KafkaConsumerService

variable {L : Type} [RateLimiter L] {id : Int} {deadline : Int} {executions : List Bool}

/-- The flag of the job lives until `deadline` at least, and the job has not been
consumed since `cancelJob` set it. -/
structure CancelRequested (id deadline : Int) (executions : List Bool) (s : Timed L) : Prop where
  carried : Carried (s.state.view id)
  flag : ∃ time, (s.state.view id).flag = some time ∧ deadline ≤ time
  unexecuted : (s.state.view id).executions = executions
  recent : deadline ≤ s.now + CANCEL_TTL

/-- The job is CANCELLED and no message carries it. -/
structure CancelHonoured (executions : List Bool) (v : JobView) : Prop where
  status : v.status? = some .cancelled
  inFlight : v.inFlight = 0
  unexecuted : v.executions = executions

/-- Until a consumer receives the job, its flag stays. -/
theorem CancelRequested.step {s t : Timed L} {label : Call × CallEnv}
    (h : CancelRequested id deadline executions s) (hstep : TimedStep s label t)
    (hother : ¬ label.1.Consumes id) : CancelRequested id deadline executions t := by
  obtain ⟨hcarried, hflag, hexecutions, hrecent⟩ := h
  have hlife := life_exec label.2 s.state id label.1 hstep.regular.2.1
  rw [← hstep.regular.2.2] at hlife
  have hkept : (∃ time, (t.state.view id).flag = some time ∧ deadline ≤ time) ∧
      (t.state.view id).executions = executions := by
    refine hlife.invariant (fun v => (∃ time, v.flag = some time ∧ deadline ≤ time) ∧
      v.executions = executions) ?_ ⟨hflag, hexecutions⟩
    intro m v hallowed hm hv
    cases m with
    | requestCancel time =>
        -- a second request moves the deadline on
        have htime : time = label.2.millis 0 + CANCEL_TTL := hallowed.2
        have hclock := hstep.after 0
        exact ⟨⟨time, rfl, by omega⟩, hv.2⟩
    | consume delivery outcome => exact absurd hallowed.1.consumes hother
    | create | sendNow | schedule | scheduleRetry | reinsert | dispatch | drop | requeue =>
        exact hv
  have hnow := hstep.now_le
  exact ⟨Carried.step hstep.regular id hcarried, hkept.1, hkept.2, by omega⟩

/-- The consumer that receives the job in time cancels it. -/
theorem CancelRequested.consume {s t : Timed L} {label : Call × CallEnv}
    (h : CancelRequested id deadline executions s) (hstep : TimedStep s label t)
    (hconsumes : label.1.Consumes id) (hintime : label.2.millis 0 < deadline) :
    CancelHonoured executions (t.state.view id) := by
  obtain ⟨c, env⟩ := label
  obtain ⟨hregular, henabled, hexec⟩ := hstep.regular
  cases c <;> simp only [Consumes] at hconsumes
  case redeliver => exact hregular.elim
  case consume message =>
    have hcarries : carries id message = true := by simp [carries, hconsumes]
    obtain ⟨hqueued, hone, -⟩ :=
      h.carried.queued_of_inFlight (State.inFlight_pos s.state id henabled hcarries)
    obtain ⟨job, hrow, -⟩ := JobView.exists_row hqueued
    obtain ⟨time, hflag, hle⟩ := h.flag
    have hfind : s.state.jobs.findById id = some job := hrow
    have hid : job.id = id := JobTable.id_of_findById hfind
    have hverdict : verdict env job s.state = .cancelled := by
      rw [verdict_eq_cancelled_iff, hid]
      exact ⟨time, hflag, hintime.trans_le hle⟩
    have hview : t.state.view id =
        (Move.consume .first (.honour (env.millis 0))).apply id (s.state.view id) := by
      rw [hexec, view_exec_consume env s.state id henabled hcarries, deliveryOutcome, hfind]
      dsimp only
      rw [consumeOutcome, hverdict]
    rw [hview]
    constructor
    · simp [Move.apply, Outcome.apply, JobView.withStatus, JobView.status?, hrow]
    · simp [Move.apply, Delivery.taken, hone]
    · exact h.unexecuted

/-- Nothing brings a cancelled job back. -/
theorem CancelHonoured.step {s t : State L} {label : Call × CallEnv}
    (h : CancelHonoured executions (s.view id)) (hstep : RegularStep s label t) :
    CancelHonoured executions (t.view id) := by
  obtain ⟨hregular, henabled, rfl⟩ := hstep
  refine (life_exec label.2 s id label.1 henabled).invariant _ ?_ h
  intro m v hallowed hm hv
  have hmregular := hregular.allows hallowed
  obtain ⟨hstatus, hnone, hexecutions⟩ := hv
  cases m with
  | create data =>
      rw [JobView.status?, hm.1] at hstatus
      cases hstatus
  | sendNow =>
      rw [Move.Enabled, hstatus] at hm
      cases hm
  | schedule =>
      rw [Move.Enabled, hstatus] at hm
      cases hm
  | scheduleRetry =>
      rw [Move.Enabled, hstatus] at hm
      cases hm.1
  | dispatch now =>
      rw [Move.Enabled, hstatus] at hm
      cases hm.1
  | reinsert now => exact ⟨hstatus, hnone, hexecutions⟩
  | requestCancel time => exact ⟨hstatus, hnone, hexecutions⟩
  | drop now => exact ⟨hstatus, hnone, hexecutions⟩
  | requeue => exact hmregular.elim
  | consume delivery outcome =>
      cases delivery with
      | first =>
          have hpos : 1 ≤ v.inFlight := hm.1
          omega
      | again => exact hmregular.elim

/-- From the request on, no consumer executes the job, provided the first one
that receives it does so in time. -/
theorem unexecuted_of_intime {s t : Timed L} {labels : List (Call × CallEnv)}
    (hrun : Run TimedStep s labels t)
    (hphase : (CancelRequested id deadline executions s ∧
        ∀ label, (labels.find? fun label => label.1.Consumes id) = some label →
          label.2.millis 0 < deadline) ∨
      CancelHonoured executions (s.state.view id)) :
    (t.state.view id).executions = executions := by
  induction hrun with
  | nil s => exact hphase.elim (fun h => h.1.unexecuted) fun h => h.unexecuted
  | @cons s t u label rest hstep _ ih =>
      apply ih
      -- the first delivery takes the job from the request to its cancellation
      rcases hphase with ⟨hrequested, hfirst⟩ | hhonoured
      · by_cases hconsumes : label.1.Consumes id
        · have hintime := hfirst label (by simp [hconsumes])
          exact .inr (hrequested.consume hstep hconsumes hintime)
        · refine .inl ⟨hrequested.step hstep hconsumes, fun other hother => hfirst other ?_⟩
          rw [List.find?_cons_of_neg (by simpa using hconsumes)]
          exact hother
      · exact .inr (hhonoured.step hstep.regular)

/-- An accepted cancellation is honoured if the next consumer that receives the
job looks at the flag within its ten minutes: no executor is called for the job
from the cancellation on. -/
theorem cancellation_honoured {limiter : L} {start : Int} {before after : List (Call × CallEnv)}
    {s t u : Timed L} {env : CallEnv}
    (hbefore : Run TimedStep ⟨State.empty limiter, start⟩ before s)
    (hcancel : TimedStep s (.cancelJob id, env) t) (hafter : Run TimedStep t after u)
    (hintime : ∀ label, (after.find? fun label => label.1.Consumes id) = some label →
      label.2.millis 0 < env.millis 0 + CANCEL_TTL) :
    (u.state.view id).executions = (s.state.view id).executions := by
  have hcarried : Carried (s.state.view id) := carried_of_run (run_of_timed hbefore) id
  have hview : t.state.view id =
      { s.state.view id with flag := some (env.millis 0 + CANCEL_TTL) } := by
    rw [hcancel.regular.2.2, exec_cancelJob, State.view_setCancelled, if_pos rfl]
  have hrequested : CancelRequested id (env.millis 0 + CANCEL_TTL)
      (s.state.view id).executions t := by
    refine ⟨Carried.step hcancel.regular id hcarried, ⟨_, by rw [hview], le_rfl⟩,
      by rw [hview], ?_⟩
    have hclock := hcancel.before 0
    dsimp only at hclock
    omega
  exact unexecuted_of_intime hafter (.inl ⟨hrequested, hintime⟩)

/-- A job for 10:00. -/
def createdForTen : List (Call × CallEnv) :=
  [(.createJob (.scheduled "LOG" "10:00"), .within 1000 (.ok ()))]

/-- The job is scheduled before 10:00, dispatched at 10:00 and consumed. -/
def consumedAtTen : List (Call × CallEnv) :=
  [(.watch, .within 16190000 (.ok ())), (.dispatch, .within 16200500 (.ok ())),
    (.consume "1", .within 16201000 (.ok ()))]

/-- The job is cancelled ten seconds before the watcher looks at it. -/
theorem cancellation_honoured_consumedAtTen :
    ((Call.execAll (createdForTen ++ (.cancelJob 1, .within 16180000 (.ok ())) :: consumedAtTen)
      (State.empty LuaLimiter.empty)).view 1).executions = [] := by
  let start := State.empty LuaLimiter.empty
  let created := Call.execAll createdForTen start
  let cancelled := (Call.cancelJob 1).exec (.within 16180000 (.ok ())) created
  have hbefore : Run TimedStep ⟨start, 0⟩ createdForTen ⟨created, latest 0 createdForTen⟩ :=
    timedRun_execAll (by decide) (by decide) ⟨_, _, rfl, by decide, trivial⟩
  have hcancel : TimedStep ⟨created, latest 0 createdForTen⟩
      (.cancelJob 1, .within 16180000 (.ok ())) ⟨cancelled, 16180000⟩ :=
    timedStep_within (by decide) (by decide) (by decide)
  have hafter : Run TimedStep ⟨cancelled, 16180000⟩ consumedAtTen
      ⟨Call.execAll consumedAtTen cancelled, latest 16180000 consumedAtTen⟩ :=
    timedRun_execAll (by decide) (by decide)
      ⟨_, _, rfl, by decide, _, _, rfl, by decide, _, _, rfl, by decide, trivial⟩
  have hintime : ∀ label, (consumedAtTen.find? fun label => label.1.Consumes 1) = some label →
      label.2.millis 0 < (CallEnv.within 16180000 (.ok ())).millis 0 + CANCEL_TTL := by
    intro label hlabel
    have hconsume : label = (.consume "1", .within 16201000 (.ok ())) :=
      (Option.some.inj hlabel).symm
    rw [hconsume]
    decide
  have hcalls : Call.execAll
      (createdForTen ++ (.cancelJob 1, .within 16180000 (.ok ())) :: consumedAtTen) start =
      Call.execAll consumedAtTen cancelled := rfl
  have hunexecuted := cancellation_honoured hbefore hcancel hafter hintime
  rw [hcalls, hunexecuted]
  decide

/-- A cancellation more than ten minutes before the job is due is accepted while
the job is PENDING, and the job is executed. -/
theorem cancellation_outlived :
    let early := createdForTen ++ [(.cancelJob 1, .within 2000 (.ok ()))]
    let start := State.empty LuaLimiter.empty
    (∃ now, Run TimedStep ⟨start, 0⟩ (early ++ consumedAtTen)
        ⟨Call.execAll (early ++ consumedAtTen) start, now⟩) ∧
      ((Call.execAll createdForTen start).view 1).status? = some .pending ∧
      ((Call.execAll (early ++ consumedAtTen) start).view 1).executions = [true] := by
  refine ⟨⟨_, timedRun_execAll (by decide) (by decide) ?_⟩, by decide, by decide⟩
  exact ⟨_, _, rfl, by decide, _, _, rfl, by decide, _, _, rfl, by decide, _, _, rfl, by decide,
    _, _, rfl, by decide, trivial⟩

end JobQueue
