import JobQueue.Lifecycle.Accounting
import JobQueue.Lifecycle.RetryPage
import JobQueue.Lifecycle.Terminal

/-!
# Every job is settled in the end

A job that is not finished waits in the jobs table, in the delay queue or in a
message, and a service has to come by: the watcher, the dispatcher, a consumer.  A
*fair block* is a piece of a run in which they do so for one job, one after the other.
Whatever else happens in between, a fair block delivers the job or finds it finished.

A delivery finishes the job, uses up one of its attempts, or is deferred by the rate
limit or an open circuit.  So a job is finished after as many fair blocks as it has
attempts left, and one more for every deferral.
-/

namespace JobQueue

open Call KafkaConsumerService

variable {L : Type} {id : Int}

/-! ## Without a delivery -/

/-- The services a job still has to pass before it is delivered. -/
def JobStatus.stage : JobStatus → Nat
  | .pending | .retry => 2
  | .scheduled => 1
  | .queued | .processing | .completed | .failed | .cancelled => 0

theorem JobStatus.scheduled_of_stage {status : JobStatus} (h : status.stage = 1) :
    status = .scheduled := by
  cases status <;> simp_all [stage]

/-- The time a job waits for has come. -/
def DueBy (now : Int) (v : JobView) : Prop :=
  ∃ job, v.row = some job ∧ 0 ≤ job.scheduleTime ∧
    (job.status = .pending → job.scheduleTime ≤ now) ∧
    (job.status = .retry → ∃ time, job.nextRetryTime = some time ∧ 0 ≤ time ∧ time ≤ now) ∧
    (job.status = .scheduled → v.Ready now)

/-- The moves of a system without duplicates other than a delivery. -/
def Move.Quiet : Move → Prop
  | requeue => False
  | consume _ _ => False
  | _ => True

/-- What quiet moves do to a job that was due in view `v`: it stays due, passes its
stages in order, and keeps its row as long as it is in the first one. -/
structure Advanced (now : Int) (v w : JobView) : Prop where
  due : DueBy now w
  stage : w.status?.elim 0 JobStatus.stage ≤ v.status?.elim 0 JobStatus.stage
  waiting : w.status?.elim 0 JobStatus.stage = 2 → w.row = v.row

namespace Advanced

variable {now : Int} {u v w : JobView}

theorem refl (h : DueBy now v) : Advanced now v v := ⟨h, le_rfl, fun _ => rfl⟩

theorem trans {later : Int} (huv : Advanced now u v) (hvw : Advanced later v w) :
    Advanced later u w := by
  refine ⟨hvw.due, hvw.stage.trans huv.stage, fun hwaiting => ?_⟩
  have hrow := hvw.waiting hwaiting
  have hsame : w.status? = v.status? := by rw [JobView.status?, hrow, JobView.status?]
  rw [hrow, huv.waiting (hsame ▸ hwaiting)]

/-- A move to a later stage. -/
theorem forward (job : Job) (hrow : w.row = some job) (hnonneg : 0 ≤ job.scheduleTime)
    (hstage : job.status.stage < 2) (hready : job.status = .scheduled → w.Ready now)
    (hle : job.status.stage ≤ v.status?.elim 0 JobStatus.stage) : Advanced now v w := by
  have hw : w.status?.elim 0 JobStatus.stage = job.status.stage := by
    rw [JobView.status?_of_row hrow, Option.elim_some]
  refine ⟨⟨job, hrow, hnonneg, fun h => ?_, fun h => ?_, hready⟩, hw ▸ hle, fun h => ?_⟩
  · simp [h, JobStatus.stage] at hstage
  · simp [h, JobStatus.stage] at hstage
  · omega

end Advanced

/-- A quiet move of a due job. -/
theorem Move.advanced {m : Move} {v : JobView} {now : Int} (hquiet : m.Quiet)
    (henabled : m.Enabled v) (hnow : ∀ time, m = .reinsert time → time ≤ now)
    (h : DueBy now v) : Advanced now v (m.apply id v) := by
  obtain ⟨job, hrow, hnonneg, hpending, hretry, hready⟩ := h
  have hstatus := JobView.status?_of_row hrow
  cases m with
  | create data =>
      rw [henabled.1] at hrow
      cases hrow
  | requestCancel deadline =>
      exact ⟨⟨job, hrow, hnonneg, hpending, hretry, hready⟩, le_rfl, fun _ => rfl⟩
  | sendNow =>
      refine Advanced.forward { job with status := .queued } ?_ hnonneg Nat.two_pos
        nofun (Nat.zero_le _)
      simp [Move.apply, JobView.withMessage, JobView.withStatus, hrow]
  | schedule =>
      have hpend : job.status = .pending := by simpa [Move.Enabled, hstatus] using henabled
      refine Advanced.forward { job with status := .scheduled }
        (by simp [Move.apply, JobView.withStatus, hrow]) hnonneg Nat.one_lt_two (fun _ => ?_) ?_
      · exact ⟨job.scheduleTime, by simp [Move.apply, hrow], hnonneg, hpending hpend⟩
      · simp [hstatus, hpend, JobStatus.stage]
  | scheduleRetry =>
      have hret : job.status = .retry := by simpa [hstatus] using henabled.1
      obtain ⟨time, htime, hlow, hhigh⟩ := hretry hret
      refine Advanced.forward { job with status := .scheduled }
        (by simp [Move.apply, JobView.withStatus, hrow]) hnonneg Nat.one_lt_two (fun _ => ?_) ?_
      · exact ⟨time, by simp [Move.apply, JobView.retryTime?, hrow, htime], hlow, hhigh⟩
      · simp [hstatus, hret, JobStatus.stage]
  | reinsert time =>
      -- a SCHEDULED job goes back with its schedule time, which has come
      obtain ⟨-, row, hrow', hle⟩ := henabled
      obtain rfl := Option.some.inj (hrow.symm.trans hrow')
      refine ⟨⟨job, hrow, hnonneg, hpending, hretry, fun _ => ?_⟩, le_rfl, fun _ => rfl⟩
      exact ⟨job.scheduleTime, by simp [Move.apply, hrow], hnonneg, hle.trans (hnow time rfl)⟩
  | dispatch time =>
      refine Advanced.forward { job with status := .queued } ?_ hnonneg Nat.two_pos
        nofun (Nat.zero_le _)
      simp [Move.apply, JobView.withMessage, JobView.withStatus, hrow]
  | drop time =>
      refine ⟨⟨job, hrow, hnonneg, hpending, hretry, fun hscheduled => ?_⟩, le_rfl, fun _ => rfl⟩
      exact absurd (hstatus.trans (congrArg some hscheduled)) henabled.1
  | requeue => exact hquiet.elim
  | consume delivery outcome => exact hquiet.elim

section Runs

variable [RateLimiter L]

/-- A regular call that does not consume a message of the job makes quiet moves. -/
theorem Call.Regular.quiet {c : Call} (hregular : c.Regular) (hnone : ¬ c.Consumes id)
    {env : CallEnv} {s : State L} {m : Move} (h : c.Allows env s id m) : m.Quiet := by
  cases m with
  | requeue => exact hregular.allows h
  | consume delivery outcome => exact absurd h.1.consumes hnone
  | _ => trivial

theorem Advanced.step {s t : Timed L} {label : Call × CallEnv} (hstep : TimedStep s label t)
    (hnone : ¬ label.1.Consumes id) (h : DueBy s.now (s.state.view id)) :
    Advanced t.now (s.state.view id) (t.state.view id) := by
  obtain ⟨hregular, henabled, hexec⟩ := hstep.regular
  have hlater : DueBy t.now (s.state.view id) := by
    obtain ⟨job, hrow, hnonneg, hpending, hretry, hready⟩ := h
    have hle := hstep.now_le
    refine ⟨job, hrow, hnonneg, fun hs => (hpending hs).trans hle, fun hs => ?_, fun hs => ?_⟩
    · obtain ⟨time, htime, hlow, hhigh⟩ := hretry hs
      exact ⟨time, htime, hlow, hhigh.trans hle⟩
    · obtain ⟨score, hscore, hlow, hhigh⟩ := hready hs
      exact ⟨score, hscore, hlow, hhigh.trans hle⟩
  rw [hexec]
  refine (life_exec label.2 s.state id label.1 henabled).invariant
    (fun w => Advanced t.now (s.state.view id) w) ?_ (.refl hlater)
  intro m w hallowed hm hw
  refine hw.trans (Move.advanced (hregular.quiet hnone hallowed) hm ?_ hw.due)
  rintro time rfl
  rw [hallowed.1]
  exact hstep.before 0

/-- A run without a delivery of the job. -/
theorem Advanced.run {s t : Timed L} {labels : List (Call × CallEnv)}
    (hrun : Run TimedStep s labels t) (hnone : ∀ label ∈ labels, ¬ label.1.Consumes id)
    (h : DueBy s.now (s.state.view id)) :
    Advanced t.now (s.state.view id) (t.state.view id) := by
  refine hrun.invariant (fun t => Advanced t.now (s.state.view id) (t.state.view id)) ?_ (.refl h)
  intro u label w hmem hu hstep
  exact hu.trans (Advanced.step hstep (hnone label hmem) hu.due)

/-! ## The stages -/

/-- The calls of the watcher it takes to schedule all jobs that are due. -/
def pages (now : Int) (s : State L) : Nat :=
  (max (backlog (PendingBy now) s).length (backlog (RetryDue now) s).length + 199) / 200

/-- The watcher comes by. -/
theorem stage_of_watched {s t : Timed L} {labels : List (Call × CallEnv)}
    (hrun : Run TimedStep s labels t) (hnone : ∀ label ∈ labels, ¬ label.1.Consumes id)
    (hdue : DueBy s.now (s.state.view id))
    (henough : pages s.now s.state ≤ labels.countP fun label => label.1 = .watch) :
    (t.state.view id).status?.elim 0 JobStatus.stage ≤ 1 := by
  have hadvanced := Advanced.run hrun hnone hdue
  have hcalls : Run TimedCallStep s labels t := hrun.mono timedCall_of_timed
  by_contra hstage
  -- a job that is still in the first stage was in its backlog all the time
  obtain ⟨job, hrow, hnonneg, hpending, hretry, -⟩ := hdue
  have hstatus := JobView.status?_of_row hrow
  have hle := hadvanced.stage
  rw [hstatus, Option.elim_some] at hle
  have htwo : job.status.stage = 2 := by
    cases hs : job.status <;> simp only [hs, JobStatus.stage] at hle ⊢ <;> omega
  have hsame : (t.state.view id).row = some job := by
    rw [← hrow]
    exact hadvanced.waiting (by omega)
  have hid : job.id = id := JobTable.id_of_findById hsame
  have hpages : pages s.now s.state =
      (max (backlog (PendingBy s.now) s.state).length (backlog (RetryDue s.now) s.state).length +
        199) / 200 := rfl
  have hmem : job ∈ backlog (PendingBy s.now) t.state ∨ job ∈ backlog (RetryDue s.now) t.state := by
    cases hs : job.status with
    | pending => exact .inl (mem_backlog.mpr ⟨hid ▸ hsame, hs, hnonneg, hpending hs⟩)
    | retry => exact .inr (mem_backlog.mpr ⟨hid ▸ hsame, hs, hretry hs⟩)
    | _ => simp [hs, JobStatus.stage] at htwo
  rcases hmem with hmem | hmem
  · have hsoon : s.now ≤ s.now + 20000 := by omega
    have hlength := length_pendingBacklog_run hcalls hsoon
    have hpos := List.length_pos_of_mem hmem
    omega
  · have hsoon : s.now < s.now + 2000 := by omega
    have hlength := length_retryBacklog_run hcalls hsoon
    have hpos := List.length_pos_of_mem hmem
    omega

/-- The dispatcher comes by. -/
theorem stage_of_dispatched {s t : Timed L} {labels : List (Call × CallEnv)}
    (hrun : Run TimedStep s labels t) (hnone : ∀ label ∈ labels, ¬ label.1.Consumes id)
    (hdue : DueBy s.now (s.state.view id))
    (hstage : (s.state.view id).status?.elim 0 JobStatus.stage ≤ 1)
    (hdispatch : ∃ label ∈ labels, label.1 = .dispatch) :
    (t.state.view id).status?.elim 0 JobStatus.stage = 0 := by
  obtain ⟨⟨c, env⟩, hmem, rfl⟩ := hdispatch
  obtain ⟨before, after, rfl⟩ := List.append_of_mem hmem
  obtain ⟨u, hbefore, hrest⟩ := hrun.split
  cases hrest with
  | @cons _ w _ _ _ hstep hafter =>
      have hu := Advanced.run hbefore (fun label h => hnone label (List.mem_append_left _ h)) hdue
      have hw := Advanced.step hstep (hnone _ (by simp)) hu.due
      have ht := Advanced.run hafter (fun label h => hnone label (by simp [h])) hw.due
      have hzero : (w.state.view id).status?.elim 0 JobStatus.stage = 0 := by
        by_contra hone
        -- a job in the second stage is ready, and the dispatcher sends it
        obtain ⟨job, hrow, -, -, -, hready⟩ := hu.due
        have hstatus := JobView.status?_of_row hrow
        have hscheduled : job.status = .scheduled := by
          have hw' := hw.stage
          have hu' := hu.stage
          rw [hstatus, Option.elim_some] at hw' hu'
          exact JobStatus.scheduled_of_stage (by omega)
        obtain ⟨score, hscore, hlow, hhigh⟩ := hready hscheduled
        have hnow : (u.state.view id).Ready (env.millis 0) :=
          ⟨score, hscore, hlow, hhigh.trans (hstep.after 0)⟩
        have hview : (w.state.view id).status? = some .queued := by
          rw [hstep.regular.2.2, exec_dispatch, view_dispatchEffect_of_ready _ _ _ hnow,
            dispatchMove, if_pos (hstatus.trans (congrArg some hscheduled))]
          simp [Move.apply, JobView.status?, JobView.withMessage, JobView.withStatus, hrow]
        rw [hview] at hone
        exact hone rfl
      have hle := ht.stage
      omega

/-! ## Fair blocks -/

/-- A piece of a run in which the services come by for the job: after the time it
waits for has come, there are calls of the watcher for the whole backlog of this
moment, then a dispatch, then a delivery if the job is QUEUED by now.  Any other calls
may come in between. -/
inductive FairBlock (id : Int) : Timed L → List (Call × CallEnv) → Timed L → Prop
  | intro {s u v w t : Timed L} {waited watched dispatched delivered : List (Call × CallEnv)}
      (wait : Run TimedStep s waited u) (due : DueBy u.now (u.state.view id))
      (watch : Run TimedStep u watched v)
      (pages : pages u.now u.state ≤ watched.countP fun label => label.1 = .watch)
      (dispatch : Run TimedStep v dispatched w) (ready : ∃ label ∈ dispatched, label.1 = .dispatch)
      (deliver : Run TimedStep w delivered t)
      (message : (w.state.view id).status? = some .queued →
        ∃ label ∈ delivered, label.1.Consumes id) :
      FairBlock id s (waited ++ watched ++ dispatched ++ delivered) t

theorem FairBlock.run {s t : Timed L} {labels : List (Call × CallEnv)}
    (h : FairBlock id s labels t) : Run TimedStep s labels t := by
  cases h with
  | intro wait _ watch _ dispatch _ deliver _ =>
      exact ((wait.append watch).append dispatch).append deliver

/-- The job is COMPLETED, CANCELLED or FAILED. -/
def Settled (v : JobView) : Prop :=
  ∃ status, v.status? = some status ∧ status.Terminal

/-- Without duplicates a finished job stays finished. -/
theorem Settled.step {s t : State L} {label : Call × CallEnv} (hstep : RegularStep s label t)
    (hcarried : Carried (s.view id)) (h : Settled (s.view id)) : Settled (t.view id) := by
  obtain ⟨hregular, henabled, rfl⟩ := hstep
  obtain ⟨status, hstatus, hterminal⟩ := h
  refine ((life_exec label.2 s id label.1 henabled).invariant
    (fun v => Carried v ∧ Settled v) ?_ ⟨hcarried, status, hstatus, hterminal⟩).2
  rintro m v hallowed hm ⟨hv, old, hold, hfinal⟩
  have hmove := hregular.allows hallowed
  refine ⟨hv.move m hmove hm, old, (Move.terminal_kept hm hold hfinal ?_ ?_).1, hfinal⟩
  · rintro rfl
    exact hmove.elim
  · rintro delivery outcome rfl
    cases delivery with
    | again => exact hmove.elim
    | first =>
        -- no message of the job is left
        obtain ⟨hqueued, -⟩ := hv.queued_of_inFlight hm.1
        rw [hold] at hqueued
        rcases hfinal with rfl | rfl | rfl <;> cases hqueued

theorem Settled.run {s t : State L} {labels : List (Call × CallEnv)}
    (hrun : Run RegularStep s labels t) (hcarried : Carried (s.view id))
    (h : Settled (s.view id)) : Settled (t.view id) :=
  (hrun.invariant (fun t => Carried (t.view id) ∧ Settled (t.view id))
    (fun _ _ _ _ hs hstep => ⟨hs.1.step hstep id, hs.2.step hstep hs.1⟩) ⟨hcarried, h⟩).2

theorem Carried.run {s t : State L} {labels : List (Call × CallEnv)}
    (hrun : Run RegularStep s labels t) (h : Carried (s.view id)) : Carried (t.view id) :=
  hrun.invariant (fun t => Carried (t.view id)) (fun _ _ _ _ hs hstep => hs.step hstep id) h

/-- A fair block delivers the job or finds it finished. -/
theorem FairBlock.delivered_or_settled {s t : Timed L} {labels : List (Call × CallEnv)}
    (h : FairBlock id s labels t) (hcarried : Carried (s.state.view id)) :
    Settled (t.state.view id) ∨ ∃ label ∈ labels, label.1.Consumes id := by
  cases h with
  | @intro u v w _ waited watched dispatched delivered hwait hdue hwatch henough hdispatch hready
      hdeliver hmessage =>
    by_cases hnone : ∃ label ∈ waited ++ watched ++ dispatched ++ delivered, label.1.Consumes id
    · exact .inr hnone
    left
    push Not at hnone
    have hnoneV : ∀ label ∈ watched, ¬ label.1.Consumes id := fun label hl =>
      hnone label (by simp [hl])
    have hnoneW : ∀ label ∈ dispatched, ¬ label.1.Consumes id := fun label hl =>
      hnone label (by simp [hl])
    have hdueV := (Advanced.run hwatch hnoneV hdue).due
    have hstage := stage_of_watched hwatch hnoneV hdue henough
    have hzero := stage_of_dispatched hdispatch hnoneW hdueV hstage hready
    have hcarriedW : Carried (w.state.view id) :=
      Carried.run (run_of_timed ((hwait.append hwatch).append hdispatch)) hcarried
    obtain ⟨job, hrow, -⟩ := (Advanced.run hdispatch hnoneW hdueV).due
    have hstatus := JobView.status?_of_row hrow
    have hsettled := hcarriedW.settled
    rw [hstatus] at hzero hmessage hsettled
    have hfinal : job.status.Terminal := by
      cases hs : job.status with
      | pending | retry | scheduled => simp [hs, JobStatus.stage] at hzero
      | queued =>
          obtain ⟨label, hmem, hconsumes⟩ := hmessage (congrArg some hs)
          exact absurd hconsumes (hnone label (by simp [hmem]))
      | processing => exact absurd (congrArg some hs) hsettled
      | completed => exact .inl rfl
      | failed => exact .inr (.inr rfl)
      | cancelled => exact .inr (.inl rfl)
    exact Settled.run (run_of_timed hdeliver) hcarriedW ⟨job.status, hstatus, hfinal⟩

end Runs

end JobQueue
