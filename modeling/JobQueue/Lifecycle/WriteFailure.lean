import JobQueue.Lifecycle.SchedulePass

/-!
# A failing write

The five scheduling loops write two stores for a job, and an exception between
the two ends the loop and the method.  The recovery adds the job to the delay
queue before it saves the row, so a job it loses half-way is PENDING or RETRY
still.  The watcher and the reconciliation save the row first: a job that is
SCHEDULED already when the add throws is in no queue and on no page of a later
watcher.
-/

namespace JobQueue

variable {L : Type}

section Cut

variable [RateLimiter L] (env : CallEnv)

/-- A call that is cut at a write has made the writes before this one. -/
theorem sameViews_cutAt {α : Type} {p : Service α} (hp : p.Only Op.Scheduling)
    {t : State L × Nat} {u : State L} (h : SameViews t.1 u) (n : Nat) :
    SameViews (Prog.cutAt env.handle Op.isWrite p t n).1
      (afterWrites ((writes env p t).take n) u) := by
  induction p generalizing t u n with
  | done result =>
      rw [writes, Prog.collect_done, List.take_nil]
      exact h
  | call op next ih =>
      obtain ⟨hop, hnext⟩ := hp
      have hstep := sameViews_handle env hop h
      rw [writes, Prog.collect_call, Prog.cutAt, Prog.points, Prog.trace_call, List.filter_cons]
      cases hwrite : op.isWrite with
      | false =>
          simp only [hwrite, Bool.false_eq_true, if_false] at hstep ⊢
          exact ih _ (hnext _) hstep n
      | true =>
          simp only [hwrite, if_true] at hstep ⊢
          cases n with
          | zero => exact h
          | succ n =>
              simp only [List.getElem?_cons_succ, List.singleton_append, List.take_succ_cons]
              exact ih _ (hnext _) hstep n

end Cut

/-! ## Cuts -/

/-- The tasks are cut after the writes `ops`, before the write `next`. -/
inductive CutBefore : List Task → List Op → Option Op → Prop where
  | between (done rest : List Task) {next : Option Op}
      (hnext : ∀ op, next = some op → ∃ task ∈ rest, op ∈ task.writes) :
      CutBefore (done ++ rest) (done.flatMap Task.writes) next
  | afterSave (done : List Task) {rest : List Task} {task : Task}
      (horder : task.order = .saveFirst) :
      CutBefore (done ++ task :: rest) (done.flatMap Task.writes ++ [task.save]) (some task.add)
  | afterAdd (done : List Task) {rest : List Task} {task : Task}
      (horder : task.order = .addFirst) :
      CutBefore (done ++ task :: rest) (done.flatMap Task.writes ++ [task.add]) (some task.save)

theorem CutBefore.cons {tasks : List Task} {ops : List Op} {next : Option Op}
    (h : CutBefore tasks ops next) (task : Task) :
    CutBefore (task :: tasks) (task.writes ++ ops) next := by
  cases h with
  | between done rest hnext => exact .between (task :: done) rest hnext
  | afterSave done horder =>
      rw [← List.append_assoc, ← List.flatMap_cons, ← List.cons_append]
      exact .afterSave (task :: done) horder
  | afterAdd done horder =>
      rw [← List.append_assoc, ← List.flatMap_cons, ← List.cons_append]
      exact .afterAdd (task :: done) horder

/-- Every number of writes is a cut. -/
theorem cutBefore_take (tasks : List Task) (n : Nat) :
    CutBefore tasks ((tasks.flatMap Task.writes).take n) (tasks.flatMap Task.writes)[n]? := by
  induction tasks generalizing n with
  | nil =>
      rw [List.flatMap_nil, List.take_nil]
      exact .between [] [] (by simp)
  | cons task rest ih =>
      rw [List.flatMap_cons]
      by_cases hlater : task.writes.length ≤ n
      · obtain ⟨m, rfl⟩ := Nat.exists_eq_add_of_le hlater
        rw [List.take_length_add_append, List.getElem?_append_right (Nat.le_add_right _ _),
          Nat.add_sub_cancel_left]
        exact (ih m).cons task
      · -- the cut is in the writes of `task`
        rw [not_le] at hlater
        rw [List.take_append_of_le_length hlater.le, List.getElem?_append_left hlater]
        cases n with
        | zero =>
            refine .between [] (task :: rest) fun op hop => ?_
            exact ⟨task, List.mem_cons_self, List.mem_of_getElem? hop⟩
        | succ n =>
            unfold Task.writes at hlater ⊢
            cases horder : task.order with
            | saveFirst =>
                simp only [horder, List.length_cons, List.length_nil] at hlater
                obtain rfl : n = 0 := by omega
                exact .afterSave [] horder
            | addFirst =>
                simp only [horder, List.length_cons, List.length_nil] at hlater
                obtain rfl : n = 0 := by omega
                exact .afterAdd [] horder
            | addOnly =>
                simp only [horder, List.length_cons, List.length_nil] at hlater
                omega

/-- Every write before a cut is one of a task. -/
theorem CutBefore.exists_task {tasks : List Task} {ops : List Op} {next : Option Op}
    (h : CutBefore tasks ops next) {op : Op} (hop : op ∈ ops) :
    ∃ task ∈ tasks, op ∈ task.writes := by
  have hdone : ∀ {done rest : List Task}, op ∈ done.flatMap Task.writes →
      ∃ task ∈ done ++ rest, op ∈ task.writes := by
    intro done rest hmem
    obtain ⟨task, htask, hwrites⟩ := List.mem_flatMap.mp hmem
    exact ⟨task, List.mem_append_left _ htask, hwrites⟩
  have hinside : ∀ {done rest : List Task} {current : Task} {write : Op},
      write ∈ current.writes → op ∈ done.flatMap Task.writes ++ [write] →
      ∃ task ∈ done ++ current :: rest, op ∈ task.writes := by
    intro done rest current write hwrite hmem
    rcases List.mem_append.mp hmem with hmem | hmem
    · exact hdone hmem
    · refine ⟨current, List.mem_append_right _ List.mem_cons_self, ?_⟩
      rwa [List.mem_singleton.mp hmem]
  cases h with
  | between done rest hnext => exact hdone hop
  | afterSave done horder => exact hinside (by simp [Task.writes, horder]) hop
  | afterAdd done horder => exact hinside (by simp [Task.writes, horder]) hop

/-- How far a task has come in a state that was cut after `ops`. -/
inductive Stage (s t : State L) (ops : List Op) (next : Option Op) (task : Task) : Prop where
  | done (hrow : (t.view task.id).row = some task.scheduled)
      (hscore : (t.view task.id).score ≠ none)
      (hsave : task.order ≠ .addOnly → task.save ∈ ops)
      (hnext : ∀ time, next ≠ some (.scheduleJob task.id time))
  | saved (hrow : (t.view task.id).row = some task.scheduled)
      (hscore : (t.view task.id).score = (s.view task.id).score) (hsave : task.save ∈ ops)
      (hnext : next = some task.add)
  | waiting (hrow : (t.view task.id).row = some task.row)
      (hscore : (t.view task.id).score = (s.view task.id).score ∨ (t.view task.id).score ≠ none)
      (hsave : ∀ row, .save row ∈ ops → row.id ≠ task.id)

section Stages

variable {now : Int} {s : State L} {tasks done rest : List Task} {task : Task}

/-- The job of a save among the writes of tasks. -/
theorem exists_task_of_save {row : Job} (h : Op.save row ∈ done.flatMap Task.writes) :
    ∃ task ∈ done, row.id = task.id := by
  obtain ⟨task, hmem, hop⟩ := List.mem_flatMap.mp h
  exact ⟨task, hmem, Option.some.inj (Task.written_of_mem hop)⟩

/-- A task before the cut is done, whatever single write of a later task was
made. -/
theorem Plan.stage_done (hplan : Plan now s (done ++ rest)) (hmem : task ∈ done)
    (extra : List Op) {next : Option Op}
    (hextra : ∀ op ∈ extra, ∃ other ∈ rest, op ∈ other.writes)
    (hnext : ∀ op, next = some op → ∃ other ∈ rest, op ∈ other.writes) :
    Stage s (afterWrites (done.flatMap Task.writes ++ extra) s)
      (done.flatMap Task.writes ++ extra) next task := by
  have hothers : ∀ op, (∃ other ∈ rest, op ∈ other.writes) → op.written ≠ some task.id := by
    rintro op ⟨other, hother, hop⟩ hwritten
    rw [Task.written_of_mem hop] at hwritten
    exact hplan.disjoint hmem hother (Option.some.inj hwritten).symm
  have hview : (afterWrites (done.flatMap Task.writes ++ extra) s).view task.id =
      (afterWrites (done.flatMap Task.writes) s).view task.id := by
    rw [afterWrites_append]
    exact observe_foldl_of_unseen (fun t : State L => t.view task.id) Op.write _
      (fun op hop t => view_write_of_ne (hothers op (hextra op hop)) t) _
  obtain ⟨hrow, hscore⟩ := hplan.left.view_of_mem hmem
  refine .done (hview ▸ hrow) (by rw [hview, hscore]; simp) (fun horder => ?_) fun time heq => ?_
  · exact List.mem_append_left _ (List.mem_flatMap.mpr ⟨task, hmem, Task.save_mem_writes horder⟩)
  · exact hothers _ (hnext _ heq) rfl

/-- Nothing was done for the job of a task after the cut. -/
theorem Plan.view_rest (hplan : Plan now s (done ++ rest)) (hmem : task ∈ rest) :
    (afterWrites (done.flatMap Task.writes) s).view task.id = s.view task.id :=
  Plan.view_of_not_mem (fun _ hother => hplan.disjoint hother hmem) s

theorem Plan.save_rest (hplan : Plan now s (done ++ rest)) (hmem : task ∈ rest) {row : Job}
    (hsave : Op.save row ∈ done.flatMap Task.writes) : row.id ≠ task.id := by
  obtain ⟨other, hother, hid⟩ := exists_task_of_save hsave
  rw [hid]
  exact hplan.disjoint hother hmem

/-- A task after the one that the cut is in is waiting. -/
theorem Plan.stage_rest {current : Task} (hplan : Plan now s (done ++ current :: rest))
    (hmem : task ∈ rest) {op : Op} (hop : op ∈ current.writes) {next : Option Op} :
    Stage s (afterWrites (done.flatMap Task.writes ++ [op]) s)
      (done.flatMap Task.writes ++ [op]) next task := by
  have hlater : task ∈ current :: rest := List.mem_cons_of_mem _ hmem
  have hne : task.id ≠ current.id := by
    have hplan' : Plan now s ((done ++ [current]) ++ rest) := by simpa using hplan
    exact (hplan'.disjoint (List.mem_append_right _ List.mem_cons_self) hmem).symm
  have hview : (afterWrites (done.flatMap Task.writes ++ [op]) s).view task.id =
      s.view task.id := by
    rw [afterWrites_append, ← hplan.view_rest hlater]
    refine view_write_of_ne (fun hwritten => hne ?_) _
    rw [Task.written_of_mem hop] at hwritten
    exact (Option.some.inj hwritten).symm
  refine .waiting (by rw [hview]; exact hplan.found _ (List.mem_append_right _ hlater))
    (.inl (by rw [hview])) fun row hsave => ?_
  rcases List.mem_append.mp hsave with hdone | hcurrent
  · exact hplan.save_rest hlater hdone
  · rw [← List.mem_singleton.mp hcurrent] at hop
    have hid : row.id = current.id := Option.some.inj (Task.written_of_mem hop)
    rw [hid]
    exact hne.symm

/-- Around a cut between the two writes of a task, the other tasks are done or
waiting. -/
theorem Plan.stage_around {current : Task} (hplan : Plan now s (done ++ current :: rest))
    {first second : Op} (hwrites : current.writes = [first, second])
    (hcurrent : Stage s (afterWrites (done.flatMap Task.writes ++ [first]) s)
      (done.flatMap Task.writes ++ [first]) (some second) current)
    (hmem : task ∈ done ++ current :: rest) :
    Stage s (afterWrites (done.flatMap Task.writes ++ [first]) s)
      (done.flatMap Task.writes ++ [first]) (some second) task := by
  have hfirst : first ∈ current.writes := by simp [hwrites]
  have hsecond : second ∈ current.writes := by simp [hwrites]
  rcases List.mem_append.mp hmem with hdone | hlater
  · refine hplan.stage_done hdone _ (fun op hop => ?_) fun op hop => ?_
    · exact ⟨current, List.mem_cons_self, List.mem_singleton.mp hop ▸ hfirst⟩
    · exact ⟨current, List.mem_cons_self, Option.some.inj hop ▸ hsecond⟩
  · rcases List.mem_cons.mp hlater with rfl | hrest
    · exact hcurrent
    · exact hplan.stage_rest hrest hfirst

/-- Every task of a plan is at a stage. -/
theorem Plan.stage (hplan : Plan now s tasks) {ops : List Op} {next : Option Op}
    (hcut : CutBefore tasks ops next) (hmem : task ∈ tasks) :
    Stage s (afterWrites ops s) ops next task := by
  cases hcut with
  | between done rest hnext =>
      rcases List.mem_append.mp hmem with hdone | hrest
      · have hstage := hplan.stage_done hdone [] (fun op h => by cases h) hnext
        rwa [List.append_nil] at hstage
      · have hview := hplan.view_rest hrest
        exact .waiting (by rw [hview]; exact hplan.found _ hmem) (.inl (by rw [hview]))
          fun row => hplan.save_rest hrest
  | afterSave done horder =>
      rename_i rest current
      refine hplan.stage_around (by rw [Task.writes, horder]) ?_ hmem
      -- the save of the task is the last write that has happened
      have hview := hplan.view_rest List.mem_cons_self
      have hfound : (s.view current.id).row = some current.row :=
        hplan.found _ (List.mem_append_right _ List.mem_cons_self)
      have hafter : (afterWrites (done.flatMap Task.writes ++ [current.save]) s).view current.id =
          { s.view current.id with row := some current.scheduled } := by
        rw [afterWrites_append]
        show ((afterWrites (done.flatMap Task.writes) s).saveJob current.scheduled).view _ = _
        rw [State.view_saveJob, if_pos (by rfl), hview, hfound]
        rfl
      exact .saved (by rw [hafter]) (by rw [hafter]) (by simp) rfl
  | afterAdd done horder =>
      rename_i rest current
      refine hplan.stage_around (by rw [Task.writes, horder]) ?_ hmem
      -- the add is the last write, and the row is still to be saved
      have hview := hplan.view_rest List.mem_cons_self
      have hfound : (s.view current.id).row = some current.row :=
        hplan.found _ (List.mem_append_right _ List.mem_cons_self)
      have hafter : (afterWrites (done.flatMap Task.writes ++ [current.add]) s).view current.id =
          { s.view current.id with score := some current.time } := by
        rw [afterWrites_append]
        show ((afterWrites (done.flatMap Task.writes) s).scheduleJob _ _).view _ = _
        rw [State.view_scheduleJob, if_pos rfl, hview]
      refine .waiting (by rw [hafter]; exact hfound) (.inr (by rw [hafter]; simp))
        fun row hrow => ?_
      rcases List.mem_append.mp hrow with hdone | hlast
      · exact hplan.save_rest List.mem_cons_self hdone
      · cases List.mem_singleton.mp hlast

end Stages

/-! ## What is left behind -/

/-- The time for which a PENDING or RETRY job waits. -/
def Job.waitingTime (job : Job) : Option Int :=
  match job.status with
  | .pending => some job.scheduleTime
  | .retry => job.nextRetryTime
  | _ => none

/-- A watcher at `later` selects the row. -/
def SelectedBy (later : Int) (job : Job) : Prop :=
  (JobQuery.findWindow 0 (later + 20000) 200).selects job = true ∨
    (JobQuery.findRetryWindow 0 (later + 20000) 200).selects job = true

/-- No job is lost in the state `t` that a pass at `now` left: SCHEDULED jobs are
in the delay queue, and the other jobs it selected are as they were, for the
watcher to select again. -/
structure FailureAtomic (now : Int) (selected : List Job) (t : State L) : Prop where
  members : ∀ id job, t.jobs.findById id = some job → job.status = .scheduled →
    t.scheduledJobs.score? id ≠ none
  waiting : ∀ job ∈ selected, ∃ row, t.jobs.findById job.id = some row ∧
    (row.status = .scheduled ∨
      row = job ∧ (row.status = .pending ∨ row.status = .retry) ∧
        ∀ later, now ≤ later → SelectedBy later row)

/-- The write that throws is the add of a job that has been saved already and has
no entry from before. -/
def Exposed (s : State L) (ops : List Op) (next : Option Op) : Prop :=
  ∃ id time row, next = some (.scheduleJob id time) ∧ Op.save row ∈ ops ∧ row.id = id ∧
    s.scheduledJobs.score? id = none

/-- A selected job with a negative time has not been saved. -/
def Overlooked (selected : List Job) (ops : List Op) : Prop :=
  ∃ job ∈ selected, (∃ time, job.waitingTime = some time ∧ time < 0) ∧
    ∀ row, Op.save row ∈ ops → row.id ≠ job.id

theorem Task.selectedBy {now : Int} {task : Task} (hfits : task.Fits now)
    (horder : task.row.status ≠ .scheduled)
    (htime : ∀ time, task.row.waitingTime = some time → 0 ≤ time) :
    (task.row.status = .pending ∨ task.row.status = .retry) ∧
      ∀ later, now ≤ later → SelectedBy later task.row := by
  unfold Task.Fits at hfits
  have hwaits : (task.row.status = .pending ∧ task.row.scheduleTime = task.time ∨
      task.row.status = .retry ∧ task.row.nextRetryTime = some task.time) ∧
      task.time ≤ now + 20000 := by
    cases h : task.order <;> simp only [h] at hfits
    · exact hfits
    · exact hfits
    · exact (horder hfits).elim
  obtain ⟨⟨hstatus, hdue⟩ | ⟨hstatus, hdue⟩, hlate⟩ := hwaits
  · have hnonneg := htime task.row.scheduleTime (by rw [Job.waitingTime, hstatus])
    refine ⟨.inl hstatus, fun later hlater => .inl ?_⟩
    simp only [JobQuery.selects, hstatus, decide_eq_true_eq]
    exact ⟨trivial, hnonneg, by omega⟩
  · have hnonneg := htime task.time (by rw [Job.waitingTime, hstatus]; exact hdue)
    refine ⟨.inr hstatus, fun later hlater => .inr ?_⟩
    simp only [JobQuery.selects, JobQuery.retryBetween, hstatus, hdue, decide_eq_true_eq]
    exact ⟨trivial, hnonneg, by omega⟩

section Left

variable {now : Int} {s t : State L} {tasks : List Task} {ops : List Op} {next : Option Op}
  (hplan : Plan now s tasks) (hcut : CutBefore tasks ops next)
  (hviews : SameViews t (afterWrites ops s))

include hplan hcut hviews

theorem Plan.stage_left {task : Task} (hmem : task ∈ tasks) : Stage s t ops next task := by
  have hstage := hplan.stage hcut hmem
  cases hstage with
  | done hrow hscore hsave hnext =>
      exact .done (by rw [hviews, hrow]) (by rw [hviews]; exact hscore) hsave hnext
  | saved hrow hscore hsave hnext =>
      exact .saved (by rw [hviews, hrow]) (by rw [hviews, hscore]) hsave hnext
  | waiting hrow hscore hsave =>
      exact .waiting (by rw [hviews, hrow]) (by rw [hviews]; exact hscore) hsave

omit hplan in
/-- A job without a task is as it was. -/
theorem CutBefore.view_left {id : Int} (hnone : ∀ task ∈ tasks, task.id ≠ id) :
    t.view id = s.view id := by
  rw [hviews]
  refine observe_foldl_of_unseen (fun u : State L => u.view id) Op.write _
    (fun op hop u => view_write_of_ne (fun hwritten => ?_) u) s
  obtain ⟨task, hmem, hwrites⟩ := hcut.exists_task hop
  rw [Task.written_of_mem hwrites] at hwritten
  exact hnone task hmem (Option.some.inj hwritten)

/-- An exposed job is SCHEDULED and in no queue. -/
theorem Plan.not_exposed (hatomic : FailureAtomic now (tasks.map Task.row) t) :
    ¬ Exposed s ops next := by
  rintro ⟨id, time, row, hnext, hsave, hid, hscore⟩
  obtain ⟨task, hmem, hwrites⟩ := hcut.exists_task hsave
  have htask : row.id = task.id := Option.some.inj (Task.written_of_mem hwrites)
  obtain rfl : task.id = id := htask.symm.trans hid
  cases hplan.stage_left hcut hviews hmem with
  | done _ _ _ hdone => exact hdone time hnext
  | saved hrow hsame _ _ =>
      exact hatomic.members task.id task.scheduled hrow rfl (hsame.trans hscore)
  | waiting _ _ hunsaved => exact hunsaved row hsave hid

/-- An overlooked job is as it was, and no watcher selects it. -/
theorem Plan.not_overlooked (hatomic : FailureAtomic now (tasks.map Task.row) t) :
    ¬ Overlooked (tasks.map Task.row) ops := by
  rintro ⟨job, hjob, ⟨time, htime, hneg⟩, hunsaved⟩
  obtain ⟨task, hmem, rfl⟩ := List.mem_map.mp hjob
  obtain ⟨row, hrow, hleft⟩ := hatomic.waiting task.row hjob
  cases hplan.stage_left hcut hviews hmem with
  | done _ _ hsave _ =>
      by_cases horder : task.order = .addOnly
      · have hfits := hplan.fits task hmem
        simp only [Task.Fits, horder] at hfits
        simp [Job.waitingTime, hfits] at htime
      · exact hunsaved task.scheduled (hsave horder) rfl
  | saved _ _ hsave _ => exact hunsaved task.scheduled hsave rfl
  | waiting hsame _ _ =>
      have hrow' : (t.view task.id).row = some row := hrow
      obtain rfl := Option.some.inj (hsame.symm.trans hrow')
      rcases hleft with hscheduled | ⟨-, -, hselected⟩
      · simp [Job.waitingTime, hscheduled] at htime
      · rcases hselected now le_rfl with hwindow | hwindow
        · simp only [JobQuery.selects, decide_eq_true_eq] at hwindow
          simp only [Job.waitingTime, hwindow.1, Option.some.injEq] at htime
          omega
        · simp only [JobQuery.selects, decide_eq_true_eq] at hwindow
          simp only [Job.waitingTime, hwindow.1] at htime
          simp only [JobQuery.retryBetween, htime, decide_eq_true_eq] at hwindow
          omega

/-- Unless a job is exposed, the SCHEDULED jobs are in the delay queue. -/
theorem Plan.members_left
    (hmembers : ∀ id job, s.jobs.findById id = some job → job.status = .scheduled →
      s.scheduledJobs.score? id ≠ none)
    (hexposed : ¬ Exposed s ops next) {id : Int} {job : Job}
    (hrow : t.jobs.findById id = some job) (hscheduled : job.status = .scheduled) :
    t.scheduledJobs.score? id ≠ none := by
  by_cases hmem : ∃ task ∈ tasks, task.id = id
  · obtain ⟨task, hmem, rfl⟩ := hmem
    cases hplan.stage_left hcut hviews hmem with
    | done _ hscore _ _ => exact hscore
    | saved _ hsame hsave hnext =>
        intro hnone
        exact hexposed ⟨task.id, task.time, task.scheduled, hnext, hsave, rfl,
          hsame.symm.trans hnone⟩
    | waiting hsame hscore _ =>
        have hrow' : (t.view task.id).row = some job := hrow
        obtain rfl := Option.some.inj (hsame.symm.trans hrow')
        rcases hscore with hscore | hscore
        · have hmember := hmembers task.id _ (hplan.found task hmem) hscheduled
          exact fun hnone => hmember (hscore.symm.trans hnone)
        · exact hscore
  · have hview := hcut.view_left hviews fun task htask hid => hmem ⟨task, htask, hid⟩
    have hrow' : (s.view id).row = some job := by
      rw [← hview]
      exact hrow
    have hmember := hmembers id job hrow' hscheduled
    exact fun hnone => hmember ((congrArg JobView.score hview).symm.trans hnone)

/-- Unless a job is overlooked, a watcher selects those that are not SCHEDULED. -/
theorem Plan.waiting_left (hoverlooked : ¬ Overlooked (tasks.map Task.row) ops) {job : Job}
    (hjob : job ∈ tasks.map Task.row) :
    ∃ row, t.jobs.findById job.id = some row ∧
      (row.status = .scheduled ∨
        row = job ∧ (row.status = .pending ∨ row.status = .retry) ∧
          ∀ later, now ≤ later → SelectedBy later row) := by
  obtain ⟨task, hmem, rfl⟩ := List.mem_map.mp hjob
  cases hplan.stage_left hcut hviews hmem with
  | done hrow _ _ _ => exact ⟨task.scheduled, hrow, .inl rfl⟩
  | saved hrow _ _ _ => exact ⟨task.scheduled, hrow, .inl rfl⟩
  | waiting hrow _ hunsaved =>
      refine ⟨task.row, hrow, ?_⟩
      by_cases hscheduled : task.row.status = .scheduled
      · exact .inl hscheduled
      · refine .inr ⟨rfl, Task.selectedBy (hplan.fits task hmem) hscheduled ?_⟩
        intro time htime
        by_contra hneg
        exact hoverlooked ⟨task.row, hjob, ⟨time, htime, by omega⟩, hunsaved⟩

/-- A pass that is cut leaves no job lost exactly if no job is exposed by the cut
or overlooked by the watcher. -/
theorem Plan.atomic_iff
    (hmembers : ∀ id job, s.jobs.findById id = some job → job.status = .scheduled →
      s.scheduledJobs.score? id ≠ none) :
    FailureAtomic now (tasks.map Task.row) t ↔
      ¬ Exposed s ops next ∧ ¬ Overlooked (tasks.map Task.row) ops := by
  constructor
  · intro hatomic
    exact ⟨hplan.not_exposed hcut hviews hatomic, hplan.not_overlooked hcut hviews hatomic⟩
  · rintro ⟨hexposed, hoverlooked⟩
    exact ⟨fun _ _ => hplan.members_left hcut hviews hmembers hexposed,
      fun _ => hplan.waiting_left hcut hviews hoverlooked⟩

end Left

/-! ## Whole calls -/

section Atomicity

variable [RateLimiter L]

/-- The state that a call leaves when `n` of its writes succeed and the next one
throws `e`. -/
def Call.execCut (n : Nat) (e : JavaException) (c : Call) (env : CallEnv) (s : State L) : State L :=
  (Prog.run (Prog.failingAfter Op.isWrite e env.handle) c.program ((s, 0), n)).2.1.1

/-- A scheduling call in which a write throws leaves no job lost, exactly if the
write is not the add of a job that the call has saved and that has no entry from
before, and no selected job with a negative time is unsaved. -/
theorem failureAtomic_iff {c : Call} (hschedules : c.Schedules) {s : State L}
    (hmembers : ∀ id job, s.jobs.findById id = some job → job.status = .scheduled →
      s.scheduledJobs.score? id ≠ none) (env : CallEnv) (n : Nat) (e : JavaException) :
    FailureAtomic (env.millis 0) (selections env c.program (s, 0)) (c.execCut n e env s) ↔
      ¬ Exposed s ((writes env c.program (s, 0)).take n) (writes env c.program (s, 0))[n]? ∧
        ¬ Overlooked (selections env c.program (s, 0))
          ((writes env c.program (s, 0)).take n) := by
  obtain ⟨honly, hpropagates, tasks, hplan, hwrites, hselections⟩ := Call.isPass hschedules env s
  have hviews : SameViews (c.execCut n e env s)
      (afterWrites ((tasks.flatMap Task.writes).take n) s) := by
    rw [Call.execCut, Prog.run_failingAfter env.handle Op.isWrite e hpropagates, ← hwrites]
    exact sameViews_cutAt env honly (fun _ => rfl) n
  rw [hwrites, hselections]
  exact hplan.atomic_iff (cutBefore_take tasks n) hviews hmembers

end Atomicity

/-- A PENDING job for 10:00. -/
def onePending : State LuaLimiter :=
  Call.execAll [(.createJob (.scheduled "LOG" "10:00"), .within 1000 (.ok ()))]
    (State.empty LuaLimiter.empty)

/-- The add of the job is exposed. -/
theorem failureAtomic_iff_onePending :
    let env := CallEnv.within 16190000 (.ok ())
    ¬ FailureAtomic 16190000 (selections env Call.watch.program (onePending, 0))
      (Call.watch.execCut 1 ⟨some "redis unavailable"⟩ env onePending) := by
  intro env hatomic
  have hrows : onePending.jobs.rows =
      [⟨⟨"LOG", .pending, none, none, none, 0, 16200000, none⟩, 1⟩] := by decide
  have hmembers : ∀ id job, onePending.jobs.findById id = some job → job.status = .scheduled →
      onePending.scheduledJobs.score? id ≠ none := by
    intro id job hrow hscheduled
    have hmem := ((JobTable.findById_eq_some_iff _ _ _).mp hrow).1
    rw [hrows] at hmem
    rw [List.mem_singleton.mp hmem] at hscheduled
    cases hscheduled
  let row : Job := ⟨⟨"LOG", .scheduled, none, none, none, 0, 16200000, none⟩, 1⟩
  have hwrites : writes env Call.watch.program (onePending, 0) =
      [.save row, .scheduleJob 1 16200000] := rfl
  have hiff := failureAtomic_iff (c := .watch) trivial hmembers env 1 ⟨some "redis unavailable"⟩
  rw [hwrites] at hiff
  exact (hiff.mp hatomic).1 ⟨1, 16200000, row, rfl, List.mem_cons_self, rfl, by decide⟩

/-- The watcher saves the job as SCHEDULED and cannot add it to the delay queue;
the next watcher does not add it, either. -/
theorem lost_between_writes :
    let env := CallEnv.within 16190000 (.ok ())
    let left := Call.watch.execCut 1 ⟨some "redis unavailable"⟩ env onePending
    let later := Call.watch.exec (.within 16200000 (.ok ())) left
    (left.view 1).status? = some .scheduled ∧ (left.view 1).score = none ∧
      (later.view 1).status? = some .scheduled ∧ (later.view 1).score = none := by
  decide

end JobQueue
