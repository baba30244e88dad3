import JobQueue.Lib.Fault
import JobQueue.Lib.Protocol
import JobQueue.Lifecycle.RecoveryPages

/-!
# Scheduling passes

The watcher, its recovery and the reconciliation are passes: one loop after the
other over a page of rows, and in each iteration a save of the row and an add to
the delay queue, or only the add.  What a pass writes is a list of tasks for
different jobs.  Since a loop leaves its jobs SCHEDULED, and the queries of the
loops after it select no SCHEDULED job, every task finds the row as it was before
the pass.
-/

namespace JobQueue

open AdminService WatcherService

variable {L : Type}

/-! ## Writes -/

/-- `repo.save` and the add to the sorted set. -/
def Op.isWrite : Op → Bool
  | .save _ => true
  | .scheduleJob _ _ => true
  | _ => false

/-- What a write does to the stores. -/
def Op.write : Op → State L → State L
  | .save job, s => s.saveJob job
  | .scheduleJob id time, s => s.scheduleJob id time
  | _, s => s

/-- The job that a write names. -/
def Op.written : Op → Option Int
  | .save job => some job.id
  | .scheduleJob id _ => some id
  | _ => none

/-- The state after some writes. -/
def afterWrites (ops : List Op) (s : State L) : State L :=
  ops.foldl (fun t op => op.write t) s

theorem afterWrites_append (ops ops' : List Op) (s : State L) :
    afterWrites (ops ++ ops') s = afterWrites ops' (afterWrites ops s) :=
  List.foldl_append

theorem view_write_of_ne {op : Op} {id : Int} (h : op.written ≠ some id) (s : State L) :
    (op.write s).view id = s.view id := by
  cases op with
  | save job =>
      have hne : id ≠ job.id := fun heq => h (by rw [heq]; rfl)
      rw [Op.write, State.view_saveJob, if_neg hne]
  | scheduleJob jobId time =>
      have hne : id ≠ jobId := fun heq => h (by rw [heq]; rfl)
      rw [Op.write, State.view_scheduleJob, if_neg hne]
  | _ => rfl

/-- The two states look the same to every job. -/
def SameViews (s t : State L) : Prop :=
  ∀ id, s.view id = t.view id

theorem SameViews.write {s t : State L} (h : SameViews s t) (op : Op) :
    SameViews (op.write s) (op.write t) := by
  intro id
  cases op with
  | save job => simp only [Op.write, State.view_saveJob, h id]
  | scheduleJob jobId time => simp only [Op.write, State.view_scheduleJob, h id]
  | _ => exact h id

theorem SameViews.afterWrites {s t : State L} (h : SameViews s t) (ops : List Op) :
    SameViews (afterWrites ops s) (afterWrites ops t) := by
  induction ops generalizing s t with
  | nil => exact h
  | cons op rest ih => exact ih (h.write op)

/-- The operations of a scheduling pass: writes, and what no job sees. -/
def Op.Scheduling : Op → Prop
  | .currentTimeMillis | .query _ | .getLastRun | .setLastRun _ | .publish _ => True
  | .save _ | .scheduleJob _ _ => True
  | _ => False

section Effects

variable [RateLimiter L] (env : CallEnv)

/-- The writes of a call, in order. -/
def writes {α : Type} (p : Service α) (store : State L × Nat) : List Op :=
  Prog.collect env.handle (fun op _ => if op.isWrite then [op] else []) p store

theorem sameViews_handle {op : Op} (hop : op.Scheduling) {t : State L × Nat} {u : State L}
    (h : SameViews t.1 u) :
    SameViews (env.handle op t).2.1 (afterWrites (if op.isWrite then [op] else []) u) := by
  cases op with
  | save job => exact h.write (.save job)
  | scheduleJob id time => exact h.write (.scheduleJob id time)
  | currentTimeMillis | query _ | getLastRun | setLastRun _ | publish _ => exact h
  | _ => exact hop.elim

end Effects

/-! ## Tasks -/

/-- In which order a loop writes. -/
inductive WriteOrder where
  | saveFirst
  | addFirst
  | addOnly

/-- One iteration of a scheduling loop that writes. -/
structure Task where
  row : Job
  time : Int
  order : WriteOrder

namespace Task

def id (task : Task) : Int := task.row.id

/-- The row it saves. -/
def scheduled (task : Task) : Job := { task.row with status := .scheduled }

def save (task : Task) : Op := .save task.scheduled

def add (task : Task) : Op := .scheduleJob task.id task.time

def writes (task : Task) : List Op :=
  match task.order with
  | .saveFirst => [task.save, task.add]
  | .addFirst => [task.add, task.save]
  | .addOnly => [task.add]

/-- The row is one that the loop selects at `now`. -/
def Fits (now : Int) (task : Task) : Prop :=
  match task.order with
  | .addOnly => task.row.status = .scheduled
  | _ => (task.row.status = .pending ∧ task.row.scheduleTime = task.time ∨
      task.row.status = .retry ∧ task.row.nextRetryTime = some task.time) ∧
      task.time ≤ now + 20000

theorem written_of_mem {task : Task} {op : Op} (h : op ∈ task.writes) :
    op.written = some task.id := by
  unfold writes at h
  cases horder : task.order <;> simp only [horder, List.mem_cons, List.not_mem_nil, or_false] at h
  · rcases h with rfl | rfl <;> rfl
  · rcases h with rfl | rfl <;> rfl
  · rw [h]
    rfl

theorem save_mem_writes {task : Task} (h : task.order ≠ .addOnly) : task.save ∈ task.writes := by
  unfold writes
  cases horder : task.order <;> simp [horder] at h ⊢

/-- A task does nothing to other jobs. -/
theorem view_of_ne {task : Task} {id : Int} (h : id ≠ task.id) (t : State L) :
    (afterWrites task.writes t).view id = t.view id := by
  have hunseen : ∀ op ∈ task.writes, ∀ u : State L, (op.write u).view id = u.view id := by
    intro op hop u
    refine view_write_of_ne (fun hwritten => h ?_) u
    rw [written_of_mem hop] at hwritten
    exact (Option.some.inj hwritten).symm
  exact observe_foldl_of_unseen (fun u : State L => u.view id) Op.write _ hunseen t

/-- Its own job is SCHEDULED and in the delay queue. -/
theorem view_self {task : Task} {now : Int} (hfits : task.Fits now) {t : State L}
    (hrow : (t.view task.id).row = some task.row) :
    ((afterWrites task.writes t).view task.id).row = some task.scheduled ∧
      ((afterWrites task.writes t).view task.id).score = some task.time := by
  unfold Fits at hfits
  unfold writes
  cases horder : task.order with
  | addOnly =>
      simp only [horder] at hfits
      have hsame : task.scheduled = task.row := by
        rw [scheduled, ← hfits]
      simp [afterWrites, Op.write, add, State.view_scheduleJob, hrow, hsame]
  | saveFirst | addFirst =>
      have hid : task.id = task.scheduled.id := rfl
      simp [afterWrites, Op.write, add, save, State.view_scheduleJob, State.view_saveJob, hrow,
        ← hid]

end Task

/-- What a pass at `now` does from state `s`: its tasks are for different jobs,
each with the row as it is in `s`. -/
structure Plan (now : Int) (s : State L) (tasks : List Task) : Prop where
  nodup : (tasks.map Task.id).Nodup
  found : ∀ task ∈ tasks, s.jobs.findById task.id = some task.row
  fits : ∀ task ∈ tasks, task.Fits now

namespace Plan

variable {now : Int} {s : State L} {tasks : List Task}

theorem view_of_not_mem {id : Int} (hnone : ∀ task ∈ tasks, task.id ≠ id) (s : State L) :
    (afterWrites (tasks.flatMap Task.writes) s).view id = s.view id := by
  rw [afterWrites, List.foldl_flatMap]
  exact observe_foldl_of_unseen (fun t : State L => t.view id)
    (fun task t => afterWrites task.writes t) _
    (fun task hmem t => Task.view_of_ne (Ne.symm (hnone task hmem)) t) s

theorem view_of_mem (hplan : Plan now s tasks) {task : Task} (hmem : task ∈ tasks) :
    ((afterWrites (tasks.flatMap Task.writes) s).view task.id).row = some task.scheduled ∧
      ((afterWrites (tasks.flatMap Task.writes) s).view task.id).score = some task.time := by
  have hunseen : ∀ other ∈ tasks, other ≠ task → ∀ t : State L,
      (afterWrites other.writes t).view task.id = t.view task.id := by
    intro other hother hne t
    refine Task.view_of_ne (fun hid => hne ?_) t
    exact (List.inj_on_of_nodup_map hplan.nodup hmem hother hid).symm
  obtain ⟨t, ht, hfold⟩ := observe_foldl_of_mem (fun t : State L => t.view task.id)
    (fun task t => afterWrites task.writes t) hmem hplan.nodup.of_map hunseen s
  rw [afterWrites, List.foldl_flatMap]
  have hrow : (t.view task.id).row = some task.row := by
    rw [ht]
    exact hplan.found task hmem
  have hself := Task.view_self (hplan.fits task hmem) hrow
  rw [← hfold] at hself
  exact hself

/-- A part of a plan is a plan. -/
theorem left {rest : List Task} (h : Plan now s (tasks ++ rest)) : Plan now s tasks where
  nodup := (List.nodup_append.mp (List.map_append ▸ h.nodup)).1
  found task hmem := h.found task (List.mem_append_left rest hmem)
  fits task hmem := h.fits task (List.mem_append_left rest hmem)

theorem disjoint {rest : List Task} (h : Plan now s (tasks ++ rest)) {task other : Task}
    (hmem : task ∈ tasks) (hother : other ∈ rest) : task.id ≠ other.id := by
  have hnodup := h.nodup
  rw [List.map_append, List.nodup_append] at hnodup
  exact hnodup.2.2 _ (List.mem_map_of_mem hmem) _ (List.mem_map_of_mem hother)

end Plan

/-! ## The passes -/

section Passes

variable [RateLimiter L]

/-- The jobs that the queries of a call return, in order. -/
def selections (env : CallEnv) {α : Type} (p : Service α) (store : State L × Nat) : List Job :=
  Prog.collect env.handle
    (fun op t => match op with
      | .query q => env.page q t.1
      | _ => []) p store

/-- The writes of a task, as a program. -/
def Task.program {γ : Type} (task : Task) (result : γ) : Service γ :=
  match task.order with
  | .saveFirst => do
      Service.save task.scheduled
      Service.scheduleJob task.id task.time
      pure result
  | .addFirst => do
      Service.scheduleJob task.id task.time
      Service.save task.scheduled
      pure result
  | .addOnly => do
      Service.scheduleJob task.id task.time
      pure result

/-- The program lets exceptions through and, after the tasks of a plan, executes
further tasks of one plan: their rows are those it selects.  If `fresh`, this is
said about executions before which there were no tasks. -/
structure Schedules (env : CallEnv) (now : Int) (s : State L) (fresh : Prop) {α : Type}
    (p : Service α) : Prop where
  only : p.Only Op.Scheduling
  propagates : p.Propagates
  executes : ∀ (before : List Task) (t : State L × Nat), Plan now s before →
    SameViews t.1 (afterWrites (before.flatMap Task.writes) s) → (fresh → before = []) →
    ∃ tasks, Plan now s (before ++ tasks) ∧ writes env p t = tasks.flatMap Task.writes ∧
      selections env p t = tasks.map Task.row ∧ ∃ a u, Prog.run env.handle p t = (.ok a, u)

variable {α β : Type}

/-- An execution leaves what its writes leave. -/
theorem sameViews_run (env : CallEnv) {p : Service α} (hp : p.Only Op.Scheduling)
    {t : State L × Nat}
    {u : State L} (h : SameViews t.1 u) :
    SameViews (Prog.run env.handle p t).2.1 (afterWrites (writes env p t) u) := by
  induction p generalizing t u with
  | done result => exact h
  | call op next ih =>
      rw [writes, Prog.collect_call, afterWrites_append]
      exact ih _ (hp.2 _) (sameViews_handle env hp.1 h)

variable {env : CallEnv} {now : Int} {s : State L} {fresh : Prop}

theorem Schedules.pure (a : α) : Schedules env now s fresh (.done (.ok a) : Service α) where
  only := trivial
  propagates := trivial
  executes before t hplan _ _ := ⟨[], by rwa [List.append_nil], rfl, rfl, a, t, rfl⟩

theorem Schedules.bind {p : Service α} {f : α → Service β} (hp : Schedules env now s fresh p)
    (hf : ∀ a, Schedules env now s False (f a)) : Schedules env now s fresh (p.bind f) where
  only := hp.only.bind fun a => (hf a).only
  propagates := hp.propagates.bind fun a => (hf a).propagates
  executes before t hplan hviews hfresh := by
    obtain ⟨tasks, hplan', hwrites, hselections, a, u, hrun⟩ :=
      hp.executes before t hplan hviews hfresh
    have hu : SameViews u.1 (afterWrites ((before ++ tasks).flatMap Task.writes) s) := by
      have hrun' := sameViews_run env hp.only hviews
      rwa [hrun, hwrites, ← afterWrites_append, ← List.flatMap_append] at hrun'
    obtain ⟨rest, hrest, hwrites', hselections', b, v, hrun'⟩ :=
      (hf a).executes (before ++ tasks) u hplan' hu False.elim
    refine ⟨tasks ++ rest, by rwa [← List.append_assoc], ?_, ?_, b, v, ?_⟩
    · rw [writes, Prog.collect_bind_ok env.handle _ hrun, List.flatMap_append]
      exact congrArg₂ _ hwrites hwrites'
    · rw [selections, Prog.collect_bind_ok env.handle _ hrun, List.map_append]
      exact congrArg₂ _ hselections hselections'
    · rw [Prog.run_bind_ok env.handle hrun, hrun']

/-- Operations on stores that a pass does not look at. -/
def Op.Silent : Op → Prop
  | .getLastRun | .setLastRun _ | .publish _ => True
  | _ => False

theorem Schedules.silent (op : Op) (hop : op.Silent) {f : Reply op → Service β}
    (hf : ∀ a, Schedules env now s fresh (f a)) :
    Schedules env now s fresh ((Prog.perform op).bind f) where
  only := by
    refine ⟨?_, fun reply => ?_⟩
    · cases op <;> trivial
    · cases reply with
      | error e => trivial
      | ok a => exact (hf a).only
  propagates := (Prog.Propagates.perform op).bind fun a => (hf a).propagates
  executes before t hplan hviews hfresh := by
    cases op with
    | getLastRun => exact (hf t.1.lastRun).executes before t hplan hviews hfresh
    | setLastRun time =>
        exact (hf ()).executes before ({ t.1 with lastRun := some time }, t.2) hplan hviews hfresh
    | publish incident =>
        exact (hf ()).executes before (t.1.publish incident, t.2) hplan hviews hfresh
    | _ => exact hop.elim

section Loops

variable {q : JobQuery} {γ : Type} {body : Job → γ → Service γ} (make : Job → Task)
  (hbody : ∀ job, q.selects job = true → ∀ acc, ∃ a, body job acc = (make job).program a)
  (hmake : ∀ job, q.selects job = true → (make job).row = job ∧ (make job).Fits now)

omit [RateLimiter L] in
include hmake in
/-- A page of rows that were not SCHEDULED by earlier tasks goes on with the plan. -/
theorem Plan.page {before : List Task} (hplan : Plan now s before) {t : State L}
    (hviews : SameViews t (afterWrites (before.flatMap Task.writes) s))
    (hfresh : before = [] ∨ ∀ job, q.selects job = true → job.status ≠ .scheduled) :
    Plan now s (before ++ (env.page q t).map make) := by
  have hpage : ∀ job ∈ env.page q t, q.selects job = true ∧ (make job).id = job.id ∧
      (t.view job.id).row = some job := by
    intro job hjob
    obtain ⟨hrow, hsel⟩ := JobTable.mem_select hjob
    exact ⟨hsel, congrArg Job.id (hmake job hsel).1, hrow⟩
  have hnew : ∀ job ∈ env.page q t, ∀ task ∈ before, task.id ≠ job.id := by
    intro job hjob task hmem hid
    obtain ⟨hsel, -, hrow⟩ := hpage job hjob
    rcases hfresh with rfl | hwaiting
    · cases hmem
    · -- a job of the plan is SCHEDULED by now, and the query selects none of these
      rw [hviews, ← hid, (hplan.view_of_mem hmem).1] at hrow
      rw [← Option.some.inj hrow] at hsel
      exact hwaiting _ hsel rfl
  refine ⟨?_, fun task hmem => ?_, fun task hmem => ?_⟩
  · rw [List.map_append, List.nodup_append]
    refine ⟨hplan.nodup, ?_, ?_⟩
    · rw [List.map_map, List.map_congr_left (f := Task.id ∘ make) (g := Job.id)
      fun job hjob => (hpage job hjob).2.1]
      exact JobTable.nodup_select _ _ _
    · intro id hid other hother
      obtain ⟨task, hmem, rfl⟩ := List.mem_map.mp hid
      rw [List.map_map] at hother
      obtain ⟨job, hjob, rfl⟩ := List.mem_map.mp hother
      have hid' : (make job).id = job.id := (hpage job hjob).2.1
      rw [Function.comp_apply, hid']
      exact hnew job hjob task hmem
  · rcases List.mem_append.mp hmem with hold | hpaged
    · exact hplan.found task hold
    · obtain ⟨job, hjob, rfl⟩ := List.mem_map.mp hpaged
      obtain ⟨hsel, hid, hrow⟩ := hpage job hjob
      rw [hviews, Plan.view_of_not_mem fun task hmem => hnew job hjob task hmem] at hrow
      rw [hid, (hmake job hsel).1]
      exact hrow
  · rcases List.mem_append.mp hmem with hold | hpaged
    · exact hplan.fits task hold
    · obtain ⟨job, hjob, rfl⟩ := List.mem_map.mp hpaged
      exact (hmake job (hpage job hjob).1).2

theorem run_program (env : CallEnv) (task : Task) (result : γ) (t : State L × Nat) :
    ∃ u, Prog.run env.handle (task.program result) t = (.ok result, u) := by
  unfold Task.program
  cases task.order <;> exact ⟨_, rfl⟩

theorem writes_program (task : Task) (result : γ) (t : State L × Nat) :
    writes env (task.program result) t = task.writes := by
  unfold Task.program Task.writes
  cases task.order <;> rfl

theorem selections_program (task : Task) (result : γ) (t : State L × Nat) :
    selections env (task.program result) t = [] := by
  unfold Task.program
  cases task.order <;> rfl

include hbody hmake in
/-- A loop over the page of a query. -/
theorem Schedules.loop (honly : ∀ job acc, (body job acc).Only Op.Scheduling)
    (hpropagates : ∀ job acc, (body job acc).Propagates)
    (hfresh : fresh ∨ ∀ job, q.selects job = true → job.status ≠ .scheduled) (acc : γ) :
    Schedules env now s fresh
      ((Service.query q).bind fun rows => Prog.foldEach body rows acc) where
  only := ⟨trivial, fun reply => by
    cases reply with
    | error e => trivial
    | ok rows => exact Prog.Only.foldEach honly rows acc⟩
  propagates := (Prog.Propagates.perform _).bind fun rows =>
    Prog.Propagates.foldEach hpropagates rows acc
  executes before t hplan hviews hbefore := by
    let rows := env.page q t.1
    -- each iteration is the program of the task of its row, and so writes what the task does
    have hprogram : ∀ job ∈ rows, ∀ acc, ∃ a, body job acc = (make job).program a :=
      fun job hjob => hbody job (JobTable.mem_select hjob).2
    have hrun : ∀ job ∈ rows, ∀ acc (t : State L × Nat), ∃ a u,
        Prog.run env.handle (body job acc) t = (.ok a, u) := by
      intro job hjob acc t
      obtain ⟨a, ha⟩ := hprogram job hjob acc
      obtain ⟨u, hu⟩ := run_program env (make job) a t
      exact ⟨a, u, by rw [ha, hu]⟩
    have hwrites : ∀ job ∈ rows, ∀ acc (t : State L × Nat),
        writes env (body job acc) t = (make job).writes := by
      intro job hjob acc t
      obtain ⟨a, ha⟩ := hprogram job hjob acc
      rw [ha, writes_program]
    have hselections : ∀ job ∈ rows, ∀ acc (t : State L × Nat),
        selections env (body job acc) t = [] := by
      intro job hjob acc t
      obtain ⟨a, ha⟩ := hprogram job hjob acc
      rw [ha, selections_program]
    refine ⟨rows.map make, hplan.page make hmake hviews (hfresh.imp hbefore id), ?_, ?_,
      Prog.run_foldEach_ok env.handle hrun acc t⟩
    · rw [List.flatMap_map]
      exact Prog.collect_foldEach env.handle _ _ hrun hwrites acc t
    · -- the bodies query nothing: the rows of the page are all that is selected
      have hloop : selections env (Prog.foldEach body rows acc) t = [] :=
        (Prog.collect_foldEach env.handle _ (fun _ => []) hrun hselections acc t).trans (by simp)
      have hrows : (rows.map make).map Task.row = rows := by
        rw [List.map_map]
        have hrow : ∀ job ∈ rows, (Task.row ∘ make) job = job :=
          fun job hjob => (hmake job (JobTable.mem_select hjob).2).1
        rw [List.map_congr_left hrow, List.map_id']
      show rows ++ selections env (Prog.foldEach body rows acc) t = _
      rw [hloop, hrows, List.append_nil]

end Loops

/-! ### The five loops -/

def recoverTask (job : Job) : Task :=
  ⟨job, job.scheduleTime, if job.status = .pending then .addFirst else .addOnly⟩

def retryTask (order : WriteOrder) (job : Job) : Task :=
  ⟨job, job.nextRetryTime.getD 0, order⟩

theorem retryTask_eq {job : Job} {time : Int} (htime : job.nextRetryTime = some time)
    (order : WriteOrder) : retryTask order job = ⟨job, time, order⟩ := by
  rw [retryTask, htime, Option.getD_some]

def pendingTask (job : Job) : Task :=
  ⟨job, job.scheduleTime, .saveFirst⟩

def overdueTask (job : Job) : Task :=
  ⟨job, job.scheduleTime, .addOnly⟩

/-- A loop over RETRY rows that are due by the time the watcher looks ahead to. -/
theorem Schedules.retryLoop {q : JobQuery} {γ : Type} {body : Job → γ → Service γ}
    (order : WriteOrder) (horder : order ≠ .addOnly) (hq : q.ForRetry)
    (hdue : q.stop ≤ now + 20000)
    (hbody : ∀ job, job.status = .retry → ∀ acc, (∃ time, job.nextRetryTime = some time) →
      ∃ a, body job acc = (retryTask order job).program a)
    (honly : ∀ job acc, (body job acc).Only Op.Scheduling)
    (hpropagates : ∀ job acc, (body job acc).Propagates) (acc : γ) :
    Schedules env now s fresh
      ((Service.query q).bind fun rows => Prog.foldEach body rows acc) := by
  refine Schedules.loop (retryTask order) (fun job hsel acc => ?_) (fun job hsel => ?_)
    honly hpropagates (.inr fun job hsel => ?_) acc
  · obtain ⟨hstatus, htime⟩ := JobQuery.retry_of_selects hq hsel
    exact hbody job hstatus acc htime
  · obtain ⟨hstatus, time, htime⟩ := JobQuery.retry_of_selects hq hsel
    have hlate := (JobQuery.retryTime_le_of_selects hq hsel htime).trans hdue
    refine ⟨rfl, ?_⟩
    cases order with
    | addOnly => exact (horder rfl).elim
    | saveFirst | addFirst => simpa [Task.Fits, retryTask, hstatus, htime] using hlate
  · rw [(JobQuery.retry_of_selects hq hsel).1]
    simp

variable (env now s fresh)

theorem schedules_scheduleRetry :
    Schedules env now s fresh
      ((Service.query (.findRetryWindow 0 (now + 20000) 200)).bind fun rows =>
        Prog.forEach scheduleRetry rows) := by
  refine Schedules.retryLoop (q := .findRetryWindow 0 (now + 20000) 200) .saveFirst (by simp)
    trivial le_rfl (fun job hstatus acc htime => ?_)
    (fun job acc => ?_) (fun job acc => ?_) ()
  · obtain ⟨time, htime⟩ := htime
    refine ⟨(), ?_⟩
    rw [← Prog.bind_unit (scheduleRetry job), retryTask_eq htime]
    simp [scheduleRetry, Task.program, Task.scheduled, Task.id, hstatus, htime, Prog.bind_assoc]
  · unfold scheduleRetry
    cases job.nextRetryTime <;> split_ifs <;> simp [Op.Scheduling]
  · unfold scheduleRetry
    cases job.nextRetryTime <;> split_ifs <;> simp

theorem schedules_requeueRetry (tally : Tally) :
    Schedules env now s fresh
      ((Service.query (.findRetryDue now 500)).bind fun rows =>
        Prog.foldEach requeueRetry rows tally) := by
  refine Schedules.retryLoop (q := .findRetryDue now 500) .saveFirst (by simp)
    trivial (show now ≤ now + 20000 by omega) (fun job hstatus acc htime => ?_)
    (fun job acc => ?_) (fun job acc => ?_) tally
  · obtain ⟨time, htime⟩ := htime
    refine ⟨acc.add ("Requeued retry jobId=" ++ Decimal.longToString job.id), ?_⟩
    rw [retryTask_eq htime]
    simp [requeueRetry, Task.program, Task.scheduled, Task.id, hstatus, htime]
  · unfold requeueRetry
    cases job.nextRetryTime <;> split_ifs <;> simp [Op.Scheduling]
  · unfold requeueRetry
    cases job.nextRetryTime <;> split_ifs <;> simp

theorem schedules_recoverRetryRow (count : Nat) :
    Schedules env now s fresh
      ((Service.query (.findRetryInRange (now - 60000) now 500)).bind fun rows =>
        Prog.foldEach recoverRetryRow rows count) := by
  refine Schedules.retryLoop (q := .findRetryInRange (now - 60000) now 500) .addFirst (by simp)
    trivial (show now ≤ now + 20000 by omega) (fun job hstatus acc htime => ?_)
    (fun job acc => ?_) (fun job acc => ?_) count
  · obtain ⟨time, htime⟩ := htime
    refine ⟨acc + 1, ?_⟩
    rw [retryTask_eq htime]
    simp [recoverRetryRow, Task.program, Task.scheduled, Task.id, hstatus, htime]
  · unfold recoverRetryRow
    cases job.nextRetryTime <;> split_ifs <;> simp [Op.Scheduling]
  · unfold recoverRetryRow
    cases job.nextRetryTime <;> split_ifs <;> simp

theorem schedules_schedulePending :
    Schedules env now s fresh
      ((Service.query (.findWindow 0 (now + 20000) 200)).bind fun rows =>
        Prog.forEach schedulePending rows) := by
  refine Schedules.loop pendingTask (fun job hsel acc => ?_) (fun job hsel => ?_)
    (fun job acc => ?_) (fun job acc => ?_) (.inr fun job hsel => ?_) ()
  · have hpending := (JobQuery.of_selects_window hsel).1
    refine ⟨(), ?_⟩
    rw [← Prog.bind_unit (schedulePending job)]
    simp [schedulePending, Task.program, pendingTask, Task.scheduled, Task.id, hpending,
      Prog.bind_assoc]
  · obtain ⟨hpending, -, hlate⟩ := JobQuery.of_selects_window hsel
    refine ⟨rfl, ?_⟩
    simpa [Task.Fits, pendingTask, hpending] using hlate
  · unfold schedulePending
    split_ifs <;> simp [Op.Scheduling]
  · unfold schedulePending
    split_ifs <;> simp
  · rw [(JobQuery.of_selects_window hsel).1]
    simp

theorem schedules_recoverRow :
    Schedules env now s True
      ((Service.query (.findPendingOrScheduledInRange (now - 60000) now 500)).bind fun rows =>
        Prog.foldEach recoverRow rows 0) := by
  refine Schedules.loop recoverTask (fun job hsel count => ?_) (fun job hsel => ?_)
    (fun job count => ?_) (fun job count => ?_) (.inl trivial) 0
  · refine ⟨count + 1, ?_⟩
    rcases (JobQuery.of_selects_inRange hsel).1 with hstatus | hstatus <;>
      simp [recoverRow, Task.program, recoverTask, Task.scheduled, Task.id, hstatus]
  · obtain ⟨hwaiting, -, hdue⟩ := JobQuery.of_selects_inRange hsel
    have hlate : job.scheduleTime ≤ now + 20000 := by omega
    refine ⟨rfl, ?_⟩
    rcases hwaiting with hstatus | hstatus <;> simp [Task.Fits, recoverTask, hstatus, hlate]
  · unfold recoverRow
    split_ifs <;> simp [Op.Scheduling]
  · unfold recoverRow
    split_ifs <;> simp

theorem schedules_reinsertOverdue :
    Schedules env now s True
      ((Service.query (.findOverdueScheduled now 500)).bind fun rows =>
        Prog.foldEach reinsertOverdue rows (⟨0, []⟩ : Tally)) := by
  refine Schedules.loop overdueTask (fun job hsel tally => ?_) (fun job hsel => ?_)
    (fun job tally => ?_) (fun job tally => ?_) (.inl trivial) (⟨0, []⟩ : Tally)
  · refine ⟨tally.add ("Reinserted jobId=" ++ Decimal.longToString job.id), ?_⟩
    simp [reinsertOverdue, Task.program, overdueTask, Task.id, (JobQuery.of_selects_overdue hsel).1]
  · exact ⟨rfl, (JobQuery.of_selects_overdue hsel).1⟩
  · unfold reinsertOverdue
    split_ifs <;> simp [Op.Scheduling]
  · unfold reinsertOverdue
    split_ifs <;> simp

/-! ### The three methods -/

theorem schedules_recoverMissedJobs : Schedules env now s True (recoverMissedJobs now) := by
  have hloops := (schedules_recoverRow env now s).bind
    (schedules_recoverRetryRow env now s False)
  rwa [Prog.bind_assoc] at hloops

theorem schedules_scheduleWindow : Schedules env now s fresh (scheduleWindow now) := by
  have hloops := (schedules_schedulePending env now s fresh).bind
    fun _ => schedules_scheduleRetry env now s False
  rwa [Prog.bind_assoc] at hloops

theorem schedules_recoverAfterGap (last : Option Int) :
    Schedules env now s True (recoverAfterGap now last) := by
  unfold recoverAfterGap
  cases last with
  | none => exact .pure ()
  | some last =>
      dsimp only
      split_ifs
      · exact .silent (.publish (gapIncident now last)) trivial fun _ =>
          (schedules_recoverMissedJobs env now s).bind fun _ => .pure ()
      · exact .pure ()

theorem schedules_reconcile :
    Schedules env now s True ((do
      let overdue ← Service.query (.findOverdueScheduled now 500)
      let tally ← Prog.foldEach reinsertOverdue overdue ⟨0, []⟩
      let retryDue ← Service.query (.findRetryDue now 500)
      let tally ← Prog.foldEach requeueRetry retryDue tally
      pure (.ok "RECONCILE_REDIS_DELAY_QUEUE" "Redis reconciliation completed"
        tally.count tally.details)) : Service AdminActionResult) := by
  have hloops := (schedules_reinsertOverdue env now s).bind fun tally =>
    (schedules_requeueRetry env now s False tally).bind fun tally =>
      Schedules.pure (AdminActionResult.ok "RECONCILE_REDIS_DELAY_QUEUE"
        "Redis reconciliation completed" tally.count tally.details)
  simp only [Prog.bind_assoc] at hloops
  exact hloops

/-! ## Whole calls -/

/-- What a program does as a pass over the tasks of a plan. -/
structure IsPass (now : Int) (p : Service α) : Prop where
  only : p.Only Op.Scheduling
  propagates : p.Propagates
  plan : ∃ tasks, Plan now s tasks ∧ writes env p (s, 0) = tasks.flatMap Task.writes ∧
    selections env p (s, 0) = tasks.map Task.row

/-- A method that reads the clock first is a pass at that time. -/
theorem isPass_of_clock {f : Int → Service α} (hf : ∀ now, Schedules env now s True (f now)) :
    IsPass env s (env.millis 0) (Service.currentTimeMillis.bind f) where
  only := ⟨trivial, fun reply => by
    cases reply with
    | error e => trivial
    | ok now => exact (hf now).only⟩
  propagates := (Prog.Propagates.perform _).bind fun now => (hf now).propagates
  plan := by
    have hempty : Plan (env.millis 0) s [] := ⟨List.nodup_nil, by simp, by simp⟩
    obtain ⟨tasks, hplan, hwrites, hselections, -⟩ :=
      (hf (env.millis 0)).executes [] (s, 1) hempty (fun _ => rfl) fun _ => rfl
    exact ⟨tasks, hplan, hwrites, hselections⟩

/-- The result of a pass goes back to the caller. -/
theorem IsPass.discard {p : Service α} (h : IsPass env s now p) :
    IsPass env s now (p.bind fun _ => pure PUnit.unit) where
  only := h.only.bind fun _ => trivial
  propagates := h.propagates.bind fun _ => trivial
  plan := by
    obtain ⟨tasks, hplan, hwrites, hselections⟩ := h.plan
    refine ⟨tasks, hplan, ?_, ?_⟩
    · rw [writes, Prog.collect_discard]
      exact hwrites
    · rw [selections, Prog.collect_discard]
      exact hselections

theorem isPass_watch : IsPass env s (env.millis 0) watch := by
  refine isPass_of_clock env s fun now => ?_
  refine .silent .getLastRun trivial fun last => .silent (.setLastRun now) trivial fun _ => ?_
  exact (schedules_recoverAfterGap env now s last).bind
    fun _ => schedules_scheduleWindow env now s False

theorem isPass_recoverWatcher : IsPass env s (env.millis 0) recoverWatcher := by
  have hpass := isPass_of_clock env s fun now => (schedules_recoverMissedJobs env now s).bind
    fun recovered => Schedules.pure (AdminActionResult.ok "RECOVER_MISSED_SCHEDULE_WINDOWS"
      "Watcher recovery completed" recovered ["Recovered jobs reinserted into Redis delay queue"])
  rwa [← Prog.bind_assoc] at hpass

theorem isPass_reconcileRedis : IsPass env s (env.millis 0) reconcileRedis :=
  isPass_of_clock env s fun now => schedules_reconcile env now s

end Passes

namespace Call

/-- The calls that schedule waiting jobs. -/
def Schedules : Call → Prop
  | watch | triggerRecovery | reconcileRedis => True
  | _ => False

variable [RateLimiter L]

theorem isPass {c : Call} (h : c.Schedules) (env : CallEnv) (s : State L) :
    IsPass env s (env.millis 0) c.program := by
  cases c with
  | watch => exact isPass_watch env s
  | triggerRecovery => exact (isPass_recoverWatcher env s).discard
  | reconcileRedis => exact (isPass_reconcileRedis env s).discard
  | _ => exact h.elim

end Call

end JobQueue
