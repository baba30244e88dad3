import JobQueue.Lifecycle.Refinement

/-!
# Recovery in two loops

`reconcileRedis` and `triggerRecovery` are a loop over the page of a first query, which leaves
the rows of its page SCHEDULED with their schedule times as scores, and a loop over a page of
RETRY rows, which get their retry times.  A row of the first page is not on the second one, so
each job sees at most one iteration.
-/

namespace JobQueue

open AdminService WatcherService

variable {L : Type}

/-- The state after the first loop of a pass. -/
def foundRows (env : CallEnv) (first : JobQuery) (effect : Job → State L → State L)
    (s : State L) : State L :=
  (env.page first s).foldl (fun t job => effect job t) s

/-- A loop over the page of one query and a loop over the retry page. -/
def passEffect (env : CallEnv) (first retry : JobQuery) (effect : Job → State L → State L)
    (s : State L) : State L :=
  (env.page retry (foundRows env first effect s)).foldl (fun t job => scheduleRetryEffect job t)
    (foundRows env first effect s)

/-- The first loop schedules the rows of its page. -/
structure SchedulesRows (first : JobQuery) (effect : Job → State L → State L) : Prop where
  other : ∀ id row t, id ≠ row.id → (effect row t).view id = t.view id
  own : ∀ job t, first.selects job = true → (t.view job.id).row = some job →
    (effect job t).view job.id =
      { (t.view job.id).withStatus .scheduled with score := some job.scheduleTime }

variable {env : CallEnv} {first retry : JobQuery} {effect : Job → State L → State L}
  {s : State L} {id : Int}

theorem view_found_of_mem (heffect : SchedulesRows first effect) {job : Job}
    (hmem : job ∈ env.page first s) :
    (foundRows env first effect s).view job.id =
      { (s.view job.id).withStatus .scheduled with score := some job.scheduleTime } := by
  obtain ⟨hrow, hsel⟩ := JobTable.mem_select hmem
  obtain ⟨t, ht, hfold⟩ := view_page_of_mem s effect heffect.other hmem
  have hview : (t.view job.id).row = some job := by
    rw [ht]
    exact hrow
  rw [foundRows, hfold, heffect.own job t hsel hview, ht]

theorem view_found_of_not_mem (heffect : SchedulesRows first effect)
    (hnone : ∀ row ∈ env.page first s, row.id ≠ id) :
    (foundRows env first effect s).view id = s.view id :=
  view_page_of_not_mem s effect heffect.other hnone

/-- A row of the first page is SCHEDULED when the retry page is read, so it is not on that. -/
theorem not_mem_retry_of_first (heffect : SchedulesRows first effect) (hretry : retry.ForRetry)
    {job : Job} (hmem : job ∈ env.page first s) :
    ∀ row ∈ env.page retry (foundRows env first effect s), row.id ≠ job.id := by
  intro row hmem' hid
  obtain ⟨hrow, hsel⟩ := JobTable.mem_select hmem'
  have hstatus := (JobQuery.retry_of_selects hretry hsel).1
  have hview : ((foundRows env first effect s).view job.id).row = some row := hid ▸ hrow
  rw [view_found_of_mem heffect hmem] at hview
  obtain ⟨old, -, rfl⟩ := Option.map_eq_some_iff.mp hview
  cases hstatus

theorem view_pass_of_not_mem
    (hnone : ∀ row ∈ env.page retry (foundRows env first effect s), row.id ≠ id) :
    (passEffect env first retry effect s).view id = (foundRows env first effect s).view id :=
  view_page_of_not_mem _ scheduleRetryEffect
    (fun id row t h => view_scheduleRetryEffect_of_ne id row t h) hnone

/-- A row of the first page gets its schedule time as score. -/
theorem view_pass_of_first (heffect : SchedulesRows first effect) (hretry : retry.ForRetry)
    {job : Job} (hmem : job ∈ env.page first s) :
    (passEffect env first retry effect s).view job.id =
      { (s.view job.id).withStatus .scheduled with score := some job.scheduleTime } := by
  rw [view_pass_of_not_mem (not_mem_retry_of_first heffect hretry hmem),
    view_found_of_mem heffect hmem]

/-- A row of the retry page becomes SCHEDULED with its retry time as score. -/
theorem view_pass_of_retry (heffect : SchedulesRows first effect) (hretry : retry.ForRetry)
    {job : Job} (hmem : job ∈ env.page retry (foundRows env first effect s)) :
    (s.view job.id).row = some job ∧ ∃ time, job.nextRetryTime = some time ∧
      (passEffect env first retry effect s).view job.id =
        { (s.view job.id).withStatus .scheduled with score := some time } := by
  obtain ⟨hrow, hsel⟩ := JobTable.mem_select hmem
  obtain ⟨hstatus, time, htime⟩ := JobQuery.retry_of_selects hretry hsel
  have hfound : (foundRows env first effect s).view job.id = s.view job.id :=
    view_found_of_not_mem heffect fun row hrow hid =>
      not_mem_retry_of_first heffect hretry hrow job hmem hid.symm
  have hview : (s.view job.id).row = some job := by
    rw [← hfound]
    exact hrow
  obtain ⟨t, ht, hfold⟩ := view_page_of_mem (foundRows env first effect s) scheduleRetryEffect
    (fun id row t h => view_scheduleRetryEffect_of_ne id row t h) hmem
  refine ⟨hview, time, htime, hfold.trans ?_⟩
  rw [scheduleRetryEffect, if_pos hstatus, State.view_scheduleJob, if_pos rfl,
    State.view_saveJob, if_pos rfl, ht, hfound]
  simp [JobView.withStatus, hview, htime]

/-- A row of a retry page is SCHEDULED when the loop over the page is over. -/
theorem status?_scheduleRetry {job : Job} (hretry : retry.ForRetry)
    (hmem : job ∈ env.page retry s) :
    (((env.page retry s).foldl (fun t job => scheduleRetryEffect job t) s).view job.id).status? =
      some .scheduled := by
  obtain ⟨t, ht, hfold⟩ := view_page_of_mem s scheduleRetryEffect
    (fun id row t h => view_scheduleRetryEffect_of_ne id row t h) hmem
  obtain ⟨hrow, hsel⟩ := JobTable.mem_select hmem
  have hview : (s.view job.id).row = some job := hrow
  have hstatus := (JobQuery.retry_of_selects hretry hsel).1
  rw [hfold]
  simp [scheduleRetryEffect, hstatus, State.view_saveJob, State.view_scheduleJob, ht, hview,
    JobView.status?]

/-- Any other job is left alone. -/
theorem view_pass_of_unlisted (heffect : SchedulesRows first effect)
    (hfirst : ∀ row ∈ env.page first s, row.id ≠ id)
    (hretry : ∀ row ∈ env.page retry (foundRows env first effect s), row.id ≠ id) :
    (passEffect env first retry effect s).view id = s.view id := by
  rw [view_pass_of_not_mem hretry, view_found_of_not_mem heffect hfirst]

/-! ## The loops of the two calls -/

theorem withStatus_self {v : JobView} {job : Job} (hrow : v.row = some job) :
    v.withStatus job.status = v := by
  rw [JobView.withStatus, hrow, Option.map_some, ← hrow]

theorem schedulesRows_reconcile (now : Int) :
    SchedulesRows (.findOverdueScheduled now 500) (reinsertOverdueEffect (L := L)) where
  other id row t h := view_reinsertOverdueEffect_of_ne id row t h
  own job t hsel hrow := by
    have hscheduled := (JobQuery.of_selects_overdue hsel).1
    rw [reinsertOverdueEffect, if_pos hscheduled, State.view_scheduleJob, if_pos rfl,
      ← hscheduled, withStatus_self hrow]

theorem schedulesRows_recover (now : Int) :
    SchedulesRows (.findPendingOrScheduledInRange (now - 60000) now 500)
      (recoverRowEffect (L := L)) where
  other id row t h := view_recoverRowEffect_of_ne id row t h
  own job t hsel hrow := by
    rcases (JobQuery.of_selects_inRange hsel).1 with hpending | hscheduled
    · simp [recoverRowEffect, hpending, State.view_saveJob, State.view_scheduleJob, hrow,
        JobView.withStatus]
    · have hpending : job.status ≠ .pending := by
        rw [hscheduled]
        decide
      rw [recoverRowEffect, if_neg hpending, if_pos hscheduled, State.view_scheduleJob,
        if_pos rfl, ← hscheduled, withStatus_self hrow]

end JobQueue
