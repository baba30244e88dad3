import JobQueue.Lifecycle.Refinement

/-!
# Terminal states

COMPLETED and CANCELLED are meant to be final, and FAILED to be left by a manual
requeue only.  `consume` looks at the status last: a message that comes once
more for a finished job first meets the cancellation flag, the rate limit and
the circuit breaker, and each of the three overwrites the row.

So the final states are absorbing exactly along the runs in which no such
message is stopped by a guard (`Spares`).
-/

namespace JobQueue

open KafkaConsumerService

/-- The statuses a consumer leaves for good. -/
def JobStatus.Terminal (status : JobStatus) : Prop :=
  status = .completed ∨ status = .cancelled ∨ status = .failed

/-- A delivery that leaves a finished job alone, or cancels a cancelled one. -/
def Outcome.Spares (outcome : Outcome) (status : JobStatus) : Prop :=
  outcome = .ignore ∨ ((∃ now, outcome = .honour now) ∧ status = .cancelled)

/-- A finished job is left alone by every move but a requeue and a delivery that
ends at a guard. -/
theorem Move.terminal_kept {m : Move} {v : JobView} {id : Int} {status : JobStatus}
    (henabled : m.Enabled v) (hstatus : v.status? = some status) (hterminal : status.Terminal)
    (hrequeue : m = .requeue → status ≠ .failed)
    (hconsume : ∀ delivery outcome, m = .consume delivery outcome → outcome.Spares status) :
    (m.apply id v).status? = some status ∧ (m.apply id v).executions = v.executions := by
  obtain ⟨job, hrow, rfl⟩ := JobView.exists_row hstatus
  cases m with
  | create data => rw [henabled.1] at hrow; cases hrow
  | sendNow =>
      rw [Move.Enabled, hstatus] at henabled
      rcases hterminal with h | h | h <;> simp [h] at henabled
  | requestCancel deadline => exact ⟨hstatus, rfl⟩
  | schedule =>
      rw [Move.Enabled, hstatus] at henabled
      rcases hterminal with h | h | h <;> simp [h] at henabled
  | scheduleRetry =>
      rw [Move.Enabled, hstatus] at henabled
      rcases hterminal with h | h | h <;> simp [h] at henabled
  | reinsert now => exact ⟨hstatus, rfl⟩
  | dispatch now =>
      rw [Move.Enabled, hstatus] at henabled
      rcases hterminal with h | h | h <;> simp [h] at henabled
  | drop now => exact ⟨hstatus, rfl⟩
  | requeue =>
      obtain ⟨status, hother, hcompleted, hcancelled⟩ := henabled
      rw [hstatus] at hother
      cases hother
      rcases hterminal with h | h | h
      · exact absurd h hcompleted
      · exact absurd h hcancelled
      · exact absurd h (hrequeue rfl)
  | consume delivery outcome =>
      rcases hconsume delivery outcome rfl with rfl | ⟨⟨now, rfl⟩, hcancelled⟩
      · exact ⟨hstatus, rfl⟩
      · refine ⟨?_, rfl⟩
        simp [Move.apply, Outcome.apply, JobView.withStatus, JobView.status?, hrow, hcancelled]

section Steps

variable {L : Type} [RateLimiter L] {s t : State L} {id : Int}

/-- The guards do not stop a message of the finished job `id`: none of them
applies, or the job is CANCELLED already and is cancelled once more. -/
def Call.Spares (id : Int) (s : State L) (label : Call × CallEnv) : Prop :=
  label.1.Consumes id → ∀ job, s.jobs.findById id = some job → job.status.Terminal →
    verdict label.2 job s = .admitted ∨
      (verdict label.2 job s = .cancelled ∧ job.status = .cancelled)

/-- A delivery the guards do not stop spares the job. -/
theorem deliveryOutcome_spares {env : CallEnv} {job : Job}
    (hrow : s.jobs.findById id = some job) (hterminal : job.status.Terminal)
    (hverdict : verdict env job s = .admitted ∨
      (verdict env job s = .cancelled ∧ job.status = .cancelled)) :
    (deliveryOutcome s id env).Spares job.status := by
  rw [deliveryOutcome, hrow]
  dsimp only
  unfold consumeOutcome
  rcases hverdict with hverdict | ⟨hverdict, hcancelled⟩
  · -- the status check of the `try` block ends the delivery
    have hqueued : job.status ≠ .queued := by
      rcases hterminal with h | h | h <;> simp [h]
    rw [hverdict]
    dsimp only
    rw [if_neg hqueued]
    exact .inl rfl
  · rw [hverdict]
    exact .inr ⟨⟨_, rfl⟩, hcancelled⟩

/-- A call that spares the finished job keeps its status and does not execute
it, unless it requeues a FAILED one. -/
theorem terminal_step {label : Call × CallEnv} {status : JobStatus}
    (hstep : Call.Step s label t) (hspares : Call.Spares id s label)
    (hstatus : (s.view id).status? = some status) (hterminal : status.Terminal)
    (hrequeue : label.1 = .requeueJob id → status ≠ .failed) :
    (t.view id).status? = some status ∧
      (t.view id).executions = (s.view id).executions := by
  obtain ⟨henabled, rfl⟩ := hstep
  obtain ⟨c, env⟩ := label
  obtain ⟨job, hrow, rfl⟩ := JobView.exists_row hstatus
  refine (Call.life_exec env s id c henabled).invariant
    (fun v => v.status? = some job.status ∧ v.executions = (s.view id).executions)
    ?_ ⟨hstatus, rfl⟩
  rintro m v hallowed hm ⟨hv, hexecutions⟩
  rw [← hexecutions]
  apply Move.terminal_kept hm hv hterminal
  · rintro rfl
    exact hrequeue hallowed
  · rintro delivery outcome rfl
    obtain ⟨hdelivers, rfl⟩ := hallowed
    exact deliveryOutcome_spares hrow hterminal (hspares hdelivers.consumes job hrow hterminal)

/-- The condition is exact: a delivery that a guard stops changes the status of
the finished job. -/
theorem status_changed_of_not_spared {env : CallEnv} {job : Job}
    (hrow : s.jobs.findById id = some job) (hterminal : job.status.Terminal)
    (hstopped : ¬ (verdict env job s = .admitted ∨
      (verdict env job s = .cancelled ∧ job.status = .cancelled))) :
    ((deliveryOutcome s id env).apply (s.view id)).status? ≠ some job.status := by
  have hview : (s.view id).row = some job := hrow
  rw [deliveryOutcome, hrow]
  dsimp only
  unfold consumeOutcome
  cases hverdict : verdict env job s with
  | cancelled =>
      have hne : job.status ≠ .cancelled := fun h => hstopped (.inr ⟨hverdict, h⟩)
      simp [Outcome.apply, JobView.withStatus, JobView.status?, hview, Ne.symm hne]
  | rateLimited =>
      rcases hterminal with h | h | h <;>
        simp [Outcome.apply, JobView.status?, hview, deferred, h]
  | circuitOpen =>
      rcases hterminal with h | h | h <;>
        simp [Outcome.apply, JobView.status?, hview, deferred, h]
  | admitted => exact absurd (.inl hverdict) hstopped

/-- A step that spares the job `id`. -/
def SparingStep (id : Int) (s : State L) (label : Call × CallEnv) (t : State L) : Prop :=
  Call.Step s label t ∧ Call.Spares id s label

/-- Terminal states are absorbing along every run in which no message of the
finished job is stopped by a guard: COMPLETED and CANCELLED stay and the executor
is not called again, and FAILED stays until the job is requeued. -/
theorem terminal_absorbing {labels : List (Call × CallEnv)}
    (hrun : Run (SparingStep id) s labels t) {job : Job}
    (hrow : s.jobs.findById id = some job) :
    (job.status = .completed ∨ job.status = .cancelled →
      (t.view id).status? = some job.status ∧
        (t.view id).executions = (s.view id).executions) ∧
      (job.status = .failed → (∀ label ∈ labels, label.1 ≠ .requeueJob id) →
        (t.view id).status? = some .failed) := by
  have hview : (s.view id).row = some job := hrow
  have hstatus := JobView.status?_of_row hview
  have hinvariant : job.status.Terminal →
      (∀ label ∈ labels, label.1 = .requeueJob id → job.status ≠ .failed) →
      (t.view id).status? = some job.status ∧
        (t.view id).executions = (s.view id).executions := by
    intro hterminal hrequeue
    refine hrun.invariant (fun t => (t.view id).status? = some job.status ∧
      (t.view id).executions = (s.view id).executions) ?_ ⟨hstatus, rfl⟩
    rintro t label u hmem ⟨ht, hexecutions⟩ ⟨hstep, hspares⟩
    rw [← hexecutions]
    exact terminal_step hstep hspares ht hterminal (hrequeue label hmem)
  constructor
  · intro hfinal
    have hnot : job.status ≠ .failed := by
      rcases hfinal with h | h <;> simp [h]
    exact hinvariant (hfinal.imp_right .inl) fun _ _ _ => hnot
  · intro hfailed hnone
    rw [← hfailed]
    exact (hinvariant (.inr (.inr hfailed)) fun label hmem h => absurd h (hnone label hmem)).1

end Steps

/-- A completed job whose message comes once more and passes the guards. -/
theorem terminal_absorbing_completed :
    let s := Call.execAll
      [(.createJob (.immediate "LOG"), .within 1000 (.ok ())),
        (.consume "1", .within 1001 (.ok ()))] (State.empty LuaLimiter.empty)
    let t := (Call.redeliver "1").exec (.within 1002 (.error ⟨none⟩)) s
    (t.view 1).status? = some .completed ∧ (t.view 1).executions = [true] := by
  intro s t
  have hrow : s.jobs.findById 1 =
      some ⟨⟨"LOG", .completed, none, none, none, 0, 1000, none⟩, 1⟩ := by decide
  have hspares : Call.Spares 1 s (.redeliver "1", .within 1002 (.error ⟨none⟩)) := by
    intro _ job hjob _
    rw [hrow] at hjob
    cases hjob
    exact .inl (by decide)
  have hrun : Run (SparingStep 1) s [(.redeliver "1", .within 1002 (.error ⟨none⟩))] t :=
    .single ⟨⟨by decide, rfl⟩, hspares⟩
  exact (terminal_absorbing hrun hrow).1 (.inl rfl)

/-! ## A finished job that runs again -/

/-- A job completes; its message comes five more times within a second, and the
last one exhausts the rate limit.  The watcher and the dispatcher take the job
from RETRY back to the consumer. -/
def completedAgain : List (Call × CallEnv) :=
  [(.createJob (.immediate "LOG"), .within 1000 (.ok ())),
    (.consume "1", .within 1001 (.ok ())),
    (.redeliver "1", .within 1002 (.ok ())),
    (.redeliver "1", .within 1003 (.ok ())),
    (.redeliver "1", .within 1004 (.ok ())),
    (.redeliver "1", .within 1005 (.ok ())),
    (.redeliver "1", .within 1006 (.ok ())),
    (.watch, .within 3000 (.ok ())),
    (.dispatch, .within 3100 (.ok ())),
    (.consume "1", .within 3200 (.ok ()))]

/-- The job is COMPLETED after its first execution, RETRY after the sixth
delivery, and is executed a second time. -/
theorem completedAgain_executes_twice :
    let start := State.empty LuaLimiter.empty
    Call.Executable completedAgain start ∧
      ((Call.execAll (completedAgain.take 2) start).view 1).status? = some .completed ∧
      ((Call.execAll (completedAgain.take 7) start).view 1).status? = some .retry ∧
      ((Call.execAll completedAgain start).view 1).executions = [true, true] := by
  decide

end JobQueue
