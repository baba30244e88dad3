import JobQueue.Lifecycle.Refinement

/-!
# Loss of the Redis data

The watcher recovers when it finds its last run more than 25 seconds ago.  The
time of the last run is kept in Redis, so when Redis loses its data the watcher
finds no last run at all, takes this for its first start and recovers nothing;
its two scheduling loops look at PENDING and RETRY rows only.
-/

namespace JobQueue

open Call WatcherService

variable {L : Type}

/-- All Redis data is lost: the delay queue, the flags, the last run of the
watcher, and the keys of the limiter, which is left in some state. -/
def State.loseRedis (s : State L) (limiter : L) : State L :=
  { s with
    scheduledJobs := DelayQueue.empty
    cancelled := fun _ => none
    lastRun := none
    limiter := limiter }

/-- A watcher without a last run schedules waiting jobs and re-inserts none. -/
theorem life_watch_of_lastRun {s : State L} (hlast : s.lastRun = none) (env : CallEnv)
    (id now : Int) :
    Life (fun m => m = .schedule ∨ m = .scheduleRetry) id (s.view id)
      ((watchEffect env now s).view id) := by
  refine life_watch env s id now (.inl rfl) (.inr rfl) ?_
  rintro ⟨time, htime, -⟩
  rw [hlast] at htime
  cases htime

/-- Such a watcher leaves SCHEDULED jobs alone. -/
theorem view_watch_of_scheduled {s : State L} (hlast : s.lastRun = none) (env : CallEnv)
    {id : Int} (now : Int) (hstatus : (s.view id).status? = some .scheduled) :
    (watchEffect env now s).view id = s.view id :=
  (life_watch_of_lastRun hlast env id now).eq_of_scheduled hstatus

/-- It queues every job it makes SCHEDULED. -/
theorem score_of_watch {s : State L} (hlast : s.lastRun = none) (env : CallEnv) {id : Int}
    (now : Int) (hstatus : (s.view id).status? ≠ some .scheduled) :
    ((watchEffect env now s).view id).status? = some .scheduled →
      ((watchEffect env now s).view id).score ≠ none := by
  refine (life_watch_of_lastRun hlast env id now).invariant
    (fun v => v.status? = some .scheduled → v.score ≠ none) ?_
    fun h => absurd h hstatus
  rintro m v (rfl | rfl) hm - -
  · obtain ⟨job, hrow, -⟩ := JobView.exists_row hm
    simp [Move.apply, hrow]
  · exact hm.2

variable [RateLimiter L]

/-- After a loss of the Redis data the watcher has every due SCHEDULED job in
the delay queue again exactly if no job was SCHEDULED and due: it rebuilds
nothing, however long the outage was. -/
theorem rebuilt_iff (s : State L) (limiter : L) (env : CallEnv) :
    (∀ id job, (Call.watch.exec env (s.loseRedis limiter)).jobs.findById id = some job →
        job.status = .scheduled → job.scheduleTime ≤ env.millis 0 →
        (Call.watch.exec env (s.loseRedis limiter)).scheduledJobs.score? id ≠ none) ↔
      ∀ id job, s.jobs.findById id = some job → job.status = .scheduled →
        env.millis 0 < job.scheduleTime := by
  let lost := s.loseRedis limiter
  have hlast : lost.lastRun = none := rfl
  rw [exec_watch]
  constructor
  · intro hrebuilt id job hrow hscheduled
    by_contra hdue
    have hview : (lost.view id).row = some job := hrow
    have hstatus : (lost.view id).status? = some .scheduled := by
      rw [JobView.status?_of_row hview, hscheduled]
    have hsame := view_watch_of_scheduled hlast env (env.millis 0) hstatus
    have hafter : ((watchEffect env (env.millis 0) lost).view id).row = some job := by
      rw [hsame, hview]
    have hscore : ((watchEffect env (env.millis 0) lost).view id).score = none := by
      rw [hsame]
      rfl
    exact hrebuilt id job hafter hscheduled (not_lt.mp hdue) hscore
  · intro hnone id job hrow hscheduled hdue
    have hafter : ((watchEffect env (env.millis 0) lost).view id).row = some job := hrow
    have hstatus : ((watchEffect env (env.millis 0) lost).view id).status? = some .scheduled := by
      rw [JobView.status?_of_row hafter, hscheduled]
    refine score_of_watch hlast env (env.millis 0) ?_ hstatus
    intro hbefore
    rw [view_watch_of_scheduled hlast env (env.millis 0) hbefore] at hafter
    have hlate := hnone id job hafter hscheduled
    omega

/-- A job for 10:00 is SCHEDULED when Redis loses its data; the watcher starts
again half a minute later, at 10:00:10, and the job stays out of the queue. -/
theorem not_rebuilt :
    let scheduled := Call.execAll
      [(.createJob (.scheduled "LOG" "10:00"), .within 1000 (.ok ())),
        (.watch, .within 16181000 (.ok ()))] (State.empty LuaLimiter.empty)
    let after := Call.watch.exec (.within 16210000 (.ok ())) (scheduled.loseRedis .empty)
    (scheduled.view 1).score = some 16200000 ∧
      after.jobs.findById 1 = some ⟨⟨"LOG", .scheduled, none, none, none, 0, 16200000, none⟩, 1⟩ ∧
      after.scheduledJobs.score? 1 = none := by
  decide

end JobQueue
