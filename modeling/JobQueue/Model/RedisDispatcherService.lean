import JobQueue.Model.Service

/-!
# `RedisDispatcherService`
-/

namespace JobQueue

open Decimal

namespace RedisDispatcherService

/-- The body of the `try` block for one ready member. -/
def process (jobIdStr : String) : Service Unit :=
  match parseLong jobIdStr with
  | none => .throw (.numberFormat jobIdStr)
  | some jobId => do
      match ← Service.findById jobId with
      | none => Service.removeJob jobIdStr
      | some job =>
          if job.status ≠ .scheduled then
            Service.removeJob jobIdStr
          else do
            -- when the send throws, the row is QUEUED and the entry stays
            Service.save { job with status := .queued }
            Service.sendJob jobIdStr
            Service.removeJob jobIdStr

/-- One iteration of the loop.  An exception is logged and the loop goes on. -/
def dispatchOne (jobIdStr : String) : Service Unit :=
  (process jobIdStr).tryCatch fun _ => pure ()

def dispatch : Service Unit := do
  let now ← Service.currentTimeMillis
  let jobIds ← Service.getReadyJobs now
  Prog.forEach dispatchOne jobIds

/-! ## Effects -/

variable {L : Type}

/-- The state after the iteration for one ready member. -/
def dispatchOneEffect (jobIdStr : String) (s : State L) : State L :=
  match parseLong jobIdStr with
  | none => s
  | some jobId =>
      match s.jobs.findById jobId with
      | none => s.removeJob jobIdStr
      | some job =>
          if job.status = .scheduled then
            ((s.saveJob { job with status := .queued }).sendJob jobIdStr).removeJob jobIdStr
          else
            s.removeJob jobIdStr

def dispatchEffect (now : Int) (s : State L) : State L :=
  (s.scheduledJobs.getReadyJobs now).foldl (fun t jobIdStr => dispatchOneEffect jobIdStr t) s

variable [RateLimiter L] (env : CallEnv)

theorem run_dispatchOne (jobIdStr : String) (s : State L) (k : Nat) :
    Prog.run env.handle (dispatchOne jobIdStr) (s, k) =
      (.ok (), (dispatchOneEffect jobIdStr s, k)) := by
  unfold dispatchOne process dispatchOneEffect
  cases parseLong jobIdStr with
  | none => rfl
  | some jobId =>
      cases hrow : s.jobs.findById jobId with
      | none => simp [hrow]
      | some job =>
          by_cases hscheduled : job.status = .scheduled <;> simp [hrow, hscheduled]

/-- A call of `dispatch` returns normally, having handled every ready member. -/
theorem call_dispatch (s : State L) :
    Service.call dispatch env s = (.ok (), dispatchEffect (env.millis 0) s) := by
  have hloop := Service.run_forEach env.handle dispatchOneEffect
    (s.scheduledJobs.getReadyJobs (env.millis 0))
    (fun jobIdStr _ t m => run_dispatchOne env jobIdStr t m) s 1
  have hrun : Prog.run env.handle dispatch (s, 0) =
      Prog.run env.handle
        (Prog.forEach dispatchOne (s.scheduledJobs.getReadyJobs (env.millis 0))) (s, 1) := rfl
  rw [Service.call, hrun, hloop]
  rfl

end RedisDispatcherService

end JobQueue
