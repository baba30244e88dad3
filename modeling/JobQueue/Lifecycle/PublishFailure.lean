import JobQueue.Lifecycle.Refinement

/-!
# A failing Kafka send

`createJob` and `dispatch` save the row as QUEUED and send the message next.
When the send throws, the row stays QUEUED.  In `dispatch` the queue entry stays
too, but the next dispatch finds a row that is not SCHEDULED and removes it.

So a job whose send throws is left with the messages it had before, and a later
watcher or dispatcher neither adds a message nor moves the job.
-/

namespace JobQueue

open Decimal JobService RedisDispatcherService

/-- The sends that throw, as a set of operations. -/
def sendFailures (fails : String → Option JavaException) : Op → Option JavaException
  | .sendJob message => fails message
  | _ => none

variable {L : Type}

/-- The state after a send that may throw. -/
def sendEffect (fails : String → Option JavaException) (message : String) (s : State L) :
    State L :=
  match fails message with
  | none => s.sendJob message
  | some _ => s

/-- `dispatchOneEffect` when the send may throw: the exception skips the removal
of the queue entry. -/
def dispatchOneFailingEffect (fails : String → Option JavaException) (jobIdStr : String)
    (s : State L) : State L :=
  match parseLong jobIdStr with
  | none => s
  | some jobId =>
      match s.jobs.findById jobId, fails jobIdStr with
      | some job, some _ =>
          if job.status = .scheduled then s.saveJob { job with status := .queued }
          else s.removeJob jobIdStr
      | _, _ => dispatchOneEffect jobIdStr s

theorem view_dispatchOneFailing_of_ne {fails : String → Option JavaException} {id jobId : Int}
    (h : id ≠ jobId) (t : State L) :
    (dispatchOneFailingEffect fails (longToString jobId) t).view id = t.view id := by
  have hplain := view_dispatchOneEffect_of_ne id h t
  rw [dispatchOneFailingEffect, parseLong_longToString]
  dsimp only
  split
  · rename_i job _ hrow _
    have hid := JobTable.id_of_findById hrow
    split_ifs <;> simp [State.view_saveJob, State.view_removeJob, hid, h]
  · exact hplain

/-- The routing of a new row when the send may throw. -/
def routeFailingEffect (fails : String → Option JavaException) (now : Int) (saved : Job)
    (s : State L) : State L :=
  if saved.scheduleTime - now ≤ IMMEDIATE_THRESHOLD then
    sendEffect fails (longToString saved.id) (s.saveJob { saved with status := .queued })
  else
    s

section Runs

variable [RateLimiter L] (env : CallEnv) (fails : String → Option JavaException)

theorem run_dispatchOne_failing (jobIdStr : String) (s : State L) (k : Nat) :
    Prog.run (Prog.failing env.handle (sendFailures fails)) (dispatchOne jobIdStr) (s, k) =
      (.ok (), (dispatchOneFailingEffect fails jobIdStr s, k)) := by
  unfold dispatchOne process dispatchOneFailingEffect dispatchOneEffect
  cases parseLong jobIdStr with
  | none => rfl
  | some jobId =>
      cases hrow : s.jobs.findById jobId with
      | none => simp [hrow, Prog.failing, sendFailures]
      | some job =>
          cases hfails : fails jobIdStr <;> by_cases hscheduled : job.status = .scheduled <;>
            simp [hrow, hfails, hscheduled, Prog.failing, sendFailures]

/-- A dispatch during which sends throw handles every ready member. -/
theorem call_dispatch_failing (s : State L) :
    Service.callFailing dispatch (sendFailures fails) env s =
      (.ok (), (s.scheduledJobs.getReadyJobs (env.millis 0)).foldl
        (fun t jobIdStr => dispatchOneFailingEffect fails jobIdStr t) s) := by
  have hloop := Service.run_forEach (Prog.failing env.handle (sendFailures fails))
    (dispatchOneFailingEffect fails) (s.scheduledJobs.getReadyJobs (env.millis 0))
    (fun jobIdStr _ t m => run_dispatchOne_failing env fails jobIdStr t m) s 1
  have hrun : Prog.run (Prog.failing env.handle (sendFailures fails)) dispatch (s, 0) =
      Prog.run (Prog.failing env.handle (sendFailures fails))
        (Prog.forEach dispatchOne (s.scheduledJobs.getReadyJobs (env.millis 0))) (s, 1) := rfl
  rw [Service.callFailing, hrun, hloop]

/-- Computing the schedule time sends nothing, so it runs as without failures. -/
theorem run_scheduleTime_failing (request : JobRequest) (s : State L) (k : Nat) :
    Prog.run (Prog.failing env.handle (sendFailures fails)) (scheduleTime request) (s, k) =
      Prog.run env.handle (scheduleTime request) (s, k) := by
  unfold scheduleTime
  cases request.time with
  | none => rfl
  | some time =>
      dsimp only
      split_ifs
      · rfl
      · unfold scheduleTimeAt
        cases parseTime time with
        | error e => rfl
        | ok parts => rfl

theorem run_route_failing (saved : Job) (s : State L) (k : Nat) :
    (Prog.run (Prog.failing env.handle (sendFailures fails)) (route saved) (s, k)).2 =
      (routeFailingEffect fails (env.millis k) saved s, k + 1) := by
  have hrun : Prog.run (Prog.failing env.handle (sendFailures fails)) (route saved) (s, k) =
      Prog.run (Prog.failing env.handle (sendFailures fails))
        (if saved.scheduleTime - env.millis k ≤ IMMEDIATE_THRESHOLD then sendNow saved
          else pure saved) (s, k + 1) := rfl
  rw [hrun, routeFailingEffect]
  by_cases himmediate : saved.scheduleTime - env.millis k ≤ IMMEDIATE_THRESHOLD
  · rw [if_pos himmediate, if_pos himmediate]
    cases hfails : fails (longToString saved.id) <;>
      simp [sendNow, Prog.failing, sendFailures, sendEffect, hfails]
  · rw [if_neg himmediate, if_neg himmediate]
    rfl

/-- A call of `createJob` during which the send may throw. -/
theorem call_createJob_failing (request : JobRequest) {s : State L} {time : Int} {k : Nat}
    (htime : Prog.run env.handle (scheduleTime request) (s, 0) = (.ok time, (s, k))) :
    (Service.callFailing (createJob request) (sendFailures fails) env s).2 =
      routeFailingEffect fails (env.millis k) { newJob request time with id := s.jobs.nextId }
        (s.insertJob (newJob request time)) := by
  have hfailing := (run_scheduleTime_failing env fails request s 0).trans htime
  have hrun : Prog.run (Prog.failing env.handle (sendFailures fails)) (createJob request) (s, 0) =
      Prog.run (Prog.failing env.handle (sendFailures fails))
        (route { newJob request time with id := s.jobs.nextId })
        (s.insertJob (newJob request time), k) := by
    show Prog.run _ ((scheduleTime request).bind _) (s, 0) = _
    rw [Prog.run_bind_ok _ hfailing]
    rfl
  rw [Service.callFailing, hrun]
  exact congrArg Prod.fst (run_route_failing env fails _ _ k)

end Runs

/-! ## The affected jobs -/

section Affected

variable [RateLimiter L] {env : CallEnv} {fails : String → Option JavaException} {c : Call}
  {s : State L} {id : Int}

/-- The state after a call during which sends throw. -/
def Call.execFailing (fails : String → Option JavaException) (c : Call) (env : CallEnv)
    (s : State L) : State L :=
  (c.program.callFailing (sendFailures fails) env (c.deliver s)).2

/-- The call sends a message for the job `id` and the send throws. -/
def Affected (fails : String → Option JavaException) (c : Call) (env : CallEnv) (s : State L)
    (id : Int) : Prop :=
  fails (longToString id) ≠ none ∧
    match c with
    | .dispatch => (s.view id).status? = some .scheduled ∧ (s.view id).Ready (env.millis 0)
    | .createJob request =>
        id = s.jobs.nextId ∧
          ∃ time k, Prog.run env.handle (scheduleTime request) (s, 0) = (.ok time, (s, k)) ∧
            time - env.millis k ≤ IMMEDIATE_THRESHOLD
    | _ => False

/-- QUEUED with `n` messages. -/
def Stuck (n : Nat) (v : JobView) : Prop :=
  v.status? = some .queued ∧ v.inFlight = n

theorem stuck_dispatch_failing (hfails : fails (longToString id) ≠ none)
    (hstatus : (s.view id).status? = some .scheduled)
    (hready : (s.view id).Ready (env.millis 0)) :
    Stuck (s.view id).inFlight ((Call.execFailing fails .dispatch env s).view id) := by
  have hexec : Call.execFailing fails .dispatch env s =
      (s.scheduledJobs.getReadyJobs (env.millis 0)).foldl
        (fun t jobIdStr => dispatchOneFailingEffect fails jobIdStr t) s := by
    rw [Call.execFailing, Call.program, call_dispatch_failing]
    rfl
  have hmem := (longToString_mem_getReadyJobs s id (env.millis 0)).mpr hready
  have hunseen : ∀ other ∈ s.scheduledJobs.getReadyJobs (env.millis 0),
      other ≠ longToString id → ∀ t : State L,
        (dispatchOneFailingEffect fails other t).view id = t.view id := by
    intro other hother hne t
    obtain ⟨jobId, rfl, -⟩ := mem_getReadyJobs s (env.millis 0) hother
    exact view_dispatchOneFailing_of_ne (fun h => hne (by rw [h])) t
  obtain ⟨t, ht, hfold⟩ := observe_foldl_of_mem (fun t => t.view id)
    (dispatchOneFailingEffect fails) hmem (SortedSet.nodup_rangeByScore _ _ _) hunseen s
  -- `t` is the state in which the loop comes to the job
  obtain ⟨job, hrow, hscheduled⟩ := JobView.exists_row (ht ▸ hstatus)
  have hfind : t.jobs.findById id = some job := hrow
  have hid := JobTable.id_of_findById hfind
  obtain ⟨e, he⟩ := Option.ne_none_iff_exists'.mp hfails
  have hview : (dispatchOneFailingEffect fails (longToString id) t).view id =
      { t.view id with row := some { job with status := .queued } } := by
    simp [dispatchOneFailingEffect, hfind, he, hscheduled, State.view_saveJob, hid, hrow]
  rw [hexec, hfold, hview, ← ht]
  exact ⟨rfl, rfl⟩

theorem stuck_createJob_failing {request : JobRequest} {time : Int} {k : Nat}
    (hfails : fails (longToString s.jobs.nextId) ≠ none)
    (htime : Prog.run env.handle (scheduleTime request) (s, 0) = (.ok time, (s, k)))
    (himmediate : time - env.millis k ≤ IMMEDIATE_THRESHOLD) :
    Stuck (s.view s.jobs.nextId).inFlight
      ((Call.execFailing fails (.createJob request) env s).view s.jobs.nextId) := by
  have hexec : Call.execFailing fails (.createJob request) env s =
      routeFailingEffect fails (env.millis k) { newJob request time with id := s.jobs.nextId }
        (s.insertJob (newJob request time)) := by
    rw [← call_createJob_failing env fails request htime]
    exact congrArg Prod.fst (Prog.run_discard _ (createJob request) (s, 0))
  obtain ⟨e, he⟩ := Option.ne_none_iff_exists'.mp hfails
  have hview : (Call.execFailing fails (.createJob request) env s).view s.jobs.nextId =
      { s.view s.jobs.nextId with
        row := some { newJob request time with id := s.jobs.nextId, status := .queued } } := by
    rw [hexec, routeFailingEffect, if_pos (by exact himmediate), sendEffect, he]
    simp [State.view_saveJob, State.view_insertJob]
  rw [hview]
  exact ⟨rfl, rfl⟩

/-- An affected job is left QUEUED with the messages it had before. -/
theorem stuck_of_affected (h : Affected fails c env s id) :
    Stuck (s.view id).inFlight ((c.execFailing fails env s).view id) := by
  obtain ⟨hfails, hsend⟩ := h
  cases c with
  | createJob request =>
      obtain ⟨rfl, time, k, htime, himmediate⟩ := hsend
      exact stuck_createJob_failing hfails htime himmediate
  | dispatch => exact stuck_dispatch_failing hfails hsend.1 hsend.2
  | cancelJob | watch | triggerRecovery | reconcileRedis | resetCircuit | requeueJob | consume
  | redeliver => exact hsend.elim

end Affected

/-! ## Later watchers and dispatchers -/

section Later

variable [RateLimiter L] {env : CallEnv} {fails : String → Option JavaException} {c : Call}
  {s t : State L} {id : Int}

/-- A fault-free call of the watcher or the dispatcher. -/
def TickStep (s : State L) (label : Call × CallEnv) (t : State L) : Prop :=
  (label.1 = .watch ∨ label.1 = .dispatch) ∧ Call.Step s label t

/-- A QUEUED job is neither moved nor sent by a later tick. -/
theorem Stuck.step {n : Nat} {label : Call × CallEnv} (h : Stuck n (s.view id))
    (hstep : TickStep s label t) : Stuck n (t.view id) := by
  obtain ⟨hcall, henabled, rfl⟩ := hstep
  refine (Call.life_exec label.2 s id label.1 henabled).invariant _ ?_ h
  rintro m v hallowed hm ⟨hstatus, hin⟩
  -- the moves a QUEUED job can make are no moves of the watcher or the dispatcher
  cases m with
  | create data =>
      rw [JobView.status?, hm.1] at hstatus
      cases hstatus
  | sendNow | schedule =>
      rw [Move.Enabled, hstatus] at hm
      cases hm
  | scheduleRetry | reinsert | dispatch =>
      rw [Move.Enabled, hstatus] at hm
      cases hm.1
  | drop => exact ⟨hstatus, hin⟩
  | requestCancel => exact ⟨hstatus, hin⟩
  | requeue =>
      rcases hcall with hcall | hcall <;> rw [hcall] at hallowed <;> cases hallowed
  | consume delivery outcome =>
      cases delivery <;> obtain ⟨⟨message, hconsume, -⟩, -⟩ := hallowed <;>
        rcases hcall with hcall | hcall <;> rw [hcall] at hconsume <;> cases hconsume

/-- The job has a message, or the system selects it by itself; it is not QUEUED
without a message. -/
def Secure (v : JobView) : Prop :=
  (1 ≤ v.inFlight ∨ v.status? = some .pending ∨
      (v.status? = some .retry ∧ v.retryTime? ≠ none) ∨
      (v.status? = some .scheduled ∧ v.score ≠ none)) ∧
    ¬ (v.status? = some .queued ∧ v.inFlight = 0)

theorem Stuck.secure_iff {n : Nat} {v : JobView} (h : Stuck n v) : Secure v ↔ 1 ≤ n := by
  obtain ⟨hstatus, rfl⟩ := h
  constructor
  · rintro ⟨-, hmessage⟩
    by_contra hnone
    exact hmessage ⟨hstatus, by omega⟩
  · intro hpos
    exact ⟨.inl hpos, fun hnone => by omega⟩

/-- A failed send strands no job exactly if every affected job had an
undelivered message before the call. -/
theorem secure_iff_had_message :
    (∀ id, Affected fails c env s id → ∀ labels t,
        Run TickStep (c.execFailing fails env s) labels t → Secure (t.view id)) ↔
      ∀ id, Affected fails c env s id → 1 ≤ s.topic.countP (carries id) := by
  constructor
  · intro hsecure id haffected
    have hnow := hsecure id haffected [] _ (.nil _)
    exact (stuck_of_affected haffected).secure_iff.mp hnow
  · intro hmessage id haffected labels t hrun
    have hstuck : Stuck (s.view id).inFlight (t.view id) :=
      hrun.invariant (fun t => Stuck (s.view id).inFlight (t.view id))
        (fun _ _ _ _ h hstep => h.step hstep) (stuck_of_affected haffected)
    exact hstuck.secure_iff.mpr (hmessage id haffected)

end Later

/-- The send for a job at 10:00 throws, and the next dispatch takes the job off
the queue: it is QUEUED, and neither a message nor a queue entry is left. -/
theorem stranded_by_failed_send :
    let fails : String → Option JavaException := fun _ => some ⟨some "broker unavailable"⟩
    let scheduled := Call.execAll
      [(.createJob (.scheduled "LOG" "10:00"), .within 1000 (.ok ())),
        (.watch, .within 16190000 (.ok ()))] (State.empty LuaLimiter.empty)
    let failed := Call.execFailing fails .dispatch (.within 16200000 (.ok ())) scheduled
    let later := Call.dispatch.exec (.within 16201000 (.ok ())) failed
    (failed.view 1).status? = some .queued ∧ (failed.view 1).score = some 16200000 ∧
      (later.view 1).status? = some .queued ∧ (later.view 1).inFlight = 0 ∧
      (later.view 1).score = none := by
  decide

end JobQueue
