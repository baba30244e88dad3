import JobQueue.Model.Service

/-!
# `WatcherService`
-/

namespace JobQueue

open Decimal

namespace WatcherService

/-- One row of the recovery loop over PENDING and SCHEDULED jobs. -/
def recoverRow (job : Job) (count : Nat) : Service Nat :=
  if job.status ≠ .pending ∧ job.status ≠ .scheduled then
    pure count
  else do
    -- a SCHEDULED row gets its schedule time as score also when it was a retry
    Service.scheduleJob job.id job.scheduleTime
    if job.status = .pending then do
      Service.save { job with status := .scheduled }
      pure (count + 1)
    else
      pure (count + 1)

/-- One row of the recovery loop over RETRY jobs. -/
def recoverRetryRow (job : Job) (count : Nat) : Service Nat :=
  if job.status ≠ .retry then
    pure count
  else do
    Service.scheduleJobAt job.id job.nextRetryTime
    Service.save { job with status := .scheduled }
    pure (count + 1)

def recoverMissedJobs (now : Int) : Service Nat := do
  let start := now - 60000
  let jobs ← Service.query (.findPendingOrScheduledInRange start now 500)
  let count ← Prog.foldEach recoverRow jobs 0
  let retryJobs ← Service.query (.findRetryInRange start now 500)
  Prog.foldEach recoverRetryRow retryJobs count

def triggerRecovery : Service Nat := do
  let now ← Service.currentTimeMillis
  recoverMissedJobs now

/-- The incident of a heartbeat gap. -/
def gapIncident (now last : Int) : Incident where
  type := "WATCHER_GAP"
  severity := "HIGH"
  title := "Watcher heartbeat gap detected"
  jobId := none
  jobType := none
  evidence := some "Gap exceeded 25s threshold"
  attributes := [("gapMs", longToString (now - last))]

/-- Gap detection of `watch`. -/
def recoverAfterGap (now : Int) (last : Option Int) : Service Unit :=
  match last with
  -- no heartbeat: the first run, or Redis has lost it
  | none => pure ()
  | some last =>
      if now - last > 25000 then do
        Service.publish (gapIncident now last)
        let _ ← recoverMissedJobs now
        pure ()
      else
        pure ()

/-- One row of the first scheduling loop. -/
def schedulePending (job : Job) : Service Unit :=
  if job.status ≠ .pending then
    pure ()
  else do
    Service.save { job with status := .scheduled }
    Service.scheduleJob job.id job.scheduleTime

/-- One row of the second scheduling loop. -/
def scheduleRetry (job : Job) : Service Unit :=
  if job.status ≠ .retry then
    pure ()
  else do
    Service.save { job with status := .scheduled }
    Service.scheduleJobAt job.id job.nextRetryTime

/-- The two scheduling loops of `watch`. -/
def scheduleWindow (now : Int) : Service Unit := do
  let jobs ← Service.query (.findWindow 0 (now + 20000) 200)
  Prog.forEach schedulePending jobs
  let retryJobs ← Service.query (.findRetryWindow 0 (now + 20000) 200)
  Prog.forEach scheduleRetry retryJobs

def watch : Service Unit := do
  let now ← Service.currentTimeMillis
  let last ← Service.getLastRun
  -- the heartbeat is renewed before the recovery, not after it
  Service.setLastRun now
  recoverAfterGap now last
  scheduleWindow now

/-! ## Effects

The state after each piece of the watcher, for rows a query returned. -/

variable {L : Type}

def recoverRowEffect (job : Job) (s : State L) : State L :=
  if job.status = .pending then
    (s.scheduleJob job.id job.scheduleTime).saveJob { job with status := .scheduled }
  else if job.status = .scheduled then
    s.scheduleJob job.id job.scheduleTime
  else
    s

def recoverRetryRowEffect (job : Job) (s : State L) : State L :=
  if job.status = .retry then
    (s.scheduleJob job.id (job.nextRetryTime.getD 0)).saveJob
      { job with status := .scheduled }
  else
    s

def recoverEffect (env : CallEnv) (now : Int) (s : State L) : State L :=
  let found := (env.page (.findPendingOrScheduledInRange (now - 60000) now 500) s).foldl
    (fun t job => recoverRowEffect job t) s
  (env.page (.findRetryInRange (now - 60000) now 500) found).foldl
    (fun t job => recoverRetryRowEffect job t) found

/-- Whether `watch` at `now` finds its last run too long ago. -/
def GapDetected (now : Int) (last : Option Int) : Prop :=
  ∃ time, last = some time ∧ now - time > 25000

instance (now : Int) (last : Option Int) : Decidable (GapDetected now last) :=
  match last with
  | none => isFalse (by simp [GapDetected])
  | some time => decidable_of_iff (now - time > 25000) (by simp [GapDetected])

def gapEffect (env : CallEnv) (now : Int) (last : Option Int) (s : State L) : State L :=
  if GapDetected now last then
    recoverEffect env now (s.publish (gapIncident now (last.getD 0)))
  else
    s

def schedulePendingEffect (job : Job) (s : State L) : State L :=
  if job.status = .pending then
    (s.saveJob { job with status := .scheduled }).scheduleJob job.id job.scheduleTime
  else
    s

def scheduleRetryEffect (job : Job) (s : State L) : State L :=
  if job.status = .retry then
    (s.saveJob { job with status := .scheduled }).scheduleJob job.id
      (job.nextRetryTime.getD 0)
  else
    s

/-- The two scheduling loops of `watch`. -/
def windowEffect (env : CallEnv) (now : Int) (s : State L) : State L :=
  let scheduled := (env.page (.findWindow 0 (now + 20000) 200) s).foldl
    (fun t job => schedulePendingEffect job t) s
  (env.page (.findRetryWindow 0 (now + 20000) 200) scheduled).foldl
    (fun t job => scheduleRetryEffect job t) scheduled

def watchEffect (env : CallEnv) (now : Int) (s : State L) : State L :=
  windowEffect env now (gapEffect env now s.lastRun { s with lastRun := some now })

/-- A row that a query for retries returned has its retry time set. -/
theorem retryTime_of_mem_page (env : CallEnv) {s : State L} {q : JobQuery} {job : Job}
    (hjob : job ∈ env.page q s) (hq : q.ForRetry) : ∃ time, job.nextRetryTime = some time :=
  (JobQuery.retry_of_selects hq (JobTable.mem_select hjob).2).2

variable [RateLimiter L] (env : CallEnv)

theorem run_recoverRow (job : Job) (count : Nat) (s : State L) (k : Nat) :
    Prog.run env.handle (recoverRow job count) (s, k) =
      (.ok (if job.status = .pending ∨ job.status = .scheduled then count + 1 else count),
        (recoverRowEffect job s, k)) := by
  unfold recoverRow recoverRowEffect
  by_cases hpending : job.status = .pending
  · simp [hpending]
  · by_cases hscheduled : job.status = .scheduled <;> simp [hpending, hscheduled]

theorem run_recoverRetryRow {job : Job} {time : Int} (htime : job.nextRetryTime = some time)
    (count : Nat) (s : State L) (k : Nat) :
    Prog.run env.handle (recoverRetryRow job count) (s, k) =
      (.ok (if job.status = .retry then count + 1 else count),
        (recoverRetryRowEffect job s, k)) := by
  unfold recoverRetryRow recoverRetryRowEffect
  by_cases hretry : job.status = .retry <;> simp [hretry, htime]

theorem run_schedulePending (job : Job) (s : State L) (k : Nat) :
    Prog.run env.handle (schedulePending job) (s, k) =
      (.ok (), (schedulePendingEffect job s, k)) := by
  unfold schedulePending schedulePendingEffect
  by_cases hpending : job.status = .pending <;> simp [hpending]

theorem run_scheduleRetry {job : Job} {time : Int} (htime : job.nextRetryTime = some time)
    (s : State L) (k : Nat) :
    Prog.run env.handle (scheduleRetry job) (s, k) =
      (.ok (), (scheduleRetryEffect job s, k)) := by
  unfold scheduleRetry scheduleRetryEffect
  by_cases hretry : job.status = .retry <;> simp [hretry, htime]

/-- Recovery returns normally, and its effect is that of its two loops. -/
theorem run_recoverMissedJobs (now : Int) (s : State L) (k : Nat) :
    ∃ count, Prog.run env.handle (recoverMissedJobs now) (s, k) =
      (.ok count, (recoverEffect env now s, k)) := by
  let rows := env.page (.findPendingOrScheduledInRange (now - 60000) now 500) s
  let found := rows.foldl (fun t job => recoverRowEffect job t) s
  let retryRows := env.page (.findRetryInRange (now - 60000) now 500) found
  have hrows := Service.run_foldEach env.handle
    (fun job count => if job.status = .pending ∨ job.status = .scheduled
      then count + 1 else count) recoverRowEffect rows
    (fun job _ count t m => run_recoverRow env job count t m) 0 s k
  have hretries := fun count => Service.run_foldEach env.handle
    (fun job count => if job.status = .retry then count + 1 else count)
    recoverRetryRowEffect retryRows
    (fun job hjob count t m => by
      obtain ⟨time, htime⟩ := retryTime_of_mem_page env hjob trivial
      exact run_recoverRetryRow env htime count t m) count found k
  have hfirst : ∀ count, Prog.run env.handle (Prog.foldEach recoverRow rows 0) (s, k) =
      (.ok count, (found, k)) →
      Prog.run env.handle (recoverMissedJobs now) (s, k) =
        Prog.run env.handle (Prog.foldEach recoverRetryRow retryRows count) (found, k) := by
    intro count hcount
    show Prog.run env.handle ((Prog.foldEach recoverRow rows 0).bind _) (s, k) = _
    rw [Prog.run_bind_ok env.handle hcount]
    rfl
  exact ⟨_, (hfirst _ hrows).trans (hretries _)⟩

theorem run_recoverAfterGap (now : Int) (last : Option Int) (s : State L) (k : Nat) :
    Prog.run env.handle (recoverAfterGap now last) (s, k) =
      (.ok (), (gapEffect env now last s, k)) := by
  cases last with
  | none => simp [recoverAfterGap, gapEffect, GapDetected]
  | some last =>
      by_cases hgap : now - last > 25000
      · obtain ⟨count, hrecover⟩ :=
          run_recoverMissedJobs env now (s.publish (gapIncident now last)) k
        have hdetected : GapDetected now (some last) := ⟨last, rfl, hgap⟩
        rw [recoverAfterGap, if_pos hgap, gapEffect, if_pos hdetected]
        show Prog.run env.handle ((recoverMissedJobs now).bind _)
          (s.publish (gapIncident now last), k) = _
        rw [Prog.run_bind_ok env.handle hrecover]
        rfl
      · have hnone : ¬ GapDetected now (some last) := by
          rintro ⟨time, heq, htime⟩
          cases heq
          exact hgap htime
        rw [recoverAfterGap, if_neg hgap, gapEffect, if_neg hnone]
        rfl

theorem run_scheduleWindow (now : Int) (s : State L) (k : Nat) :
    Prog.run env.handle (scheduleWindow now) (s, k) = (.ok (), (windowEffect env now s, k)) := by
  let rows := env.page (.findWindow 0 (now + 20000) 200) s
  let scheduled := rows.foldl (fun t job => schedulePendingEffect job t) s
  let retryRows := env.page (.findRetryWindow 0 (now + 20000) 200) scheduled
  have hrows := Service.run_forEach env.handle schedulePendingEffect rows
    (fun job _ t m => run_schedulePending env job t m) s k
  have hretries := Service.run_forEach env.handle scheduleRetryEffect retryRows
    (fun job hjob t m => by
      obtain ⟨time, htime⟩ := retryTime_of_mem_page env hjob trivial
      exact run_scheduleRetry env htime t m) scheduled k
  show Prog.run env.handle ((Prog.forEach schedulePending rows).bind _) (s, k) = _
  rw [Prog.run_bind_ok env.handle hrows]
  exact hretries

/-- A call of `watch` returns normally with the effect of its three parts. -/
theorem call_watch (s : State L) :
    Service.call watch env s = (.ok (), watchEffect env (env.millis 0) s) := by
  let now := env.millis 0
  let start : State L := { s with lastRun := some now }
  have hgap := run_recoverAfterGap env now s.lastRun start 1
  have hrun : Prog.run env.handle watch (s, 0) = (.ok (), (watchEffect env now s, 1)) := by
    show Prog.run env.handle ((recoverAfterGap now s.lastRun).bind _) (start, 1) = _
    rw [Prog.run_bind_ok env.handle hgap]
    exact run_scheduleWindow env now _ 1
  rw [Service.call, hrun]

end WatcherService

end JobQueue
