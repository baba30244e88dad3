import JobQueue.Concurrency.Custody

/-!
# A consumer that stops

The consumer saves PROCESSING before it calls the executor and saves the outcome
afterwards.  If it stops in between, its message is delivered again, but the
second consumer finds a status that is not QUEUED and acknowledges: the job
stays PROCESSING, and no query of the watcher or of the administrator looks at
PROCESSING rows.

If no consumer stops between the two saves, a PROCESSING row always has a
consumer that executes it and has not acknowledged its message.
-/

namespace JobQueue

open Decimal

/-- The job whose message a thread consumes, whether the last row it saved was
PROCESSING, and whether it has acknowledged the message. -/
structure Executing where
  job : Option Int
  running : Bool
  acked : Bool
  deriving DecidableEq

namespace Executing

/-- The thread executes the job and still has its message. -/
def Executes (l : Executing) (id : Int) : Prop :=
  l.job = some id ∧ l.running = true ∧ l.acked = false

open Custody

/-- A consumer starts with its message. -/
def init : Call → Executing
  | .consume message => ⟨parseLong message, false, false⟩
  | .redeliver message => ⟨parseLong message, false, false⟩
  | _ => ⟨none, false, false⟩

/-- Only a consumer saves PROCESSING, for the job of its message.  It saves no
other row before the outcome and acknowledges after that. -/
def allows (l : Executing) : Op → Prop
  | .save job =>
      (job.status = .processing → l.job = some job.id ∧ l.acked = false) ∧
        (l.running = true → l.job = some job.id)
  | .insert data => data.status ≠ .processing
  | .acknowledge => l.running = false
  | _ => True

def next (l : Executing) : Op → Executing
  | .save job => { l with running := job.status = .processing }
  | .acknowledge => { l with acked := true }
  | _ => l

def protocol (L : Type) [RateLimiter L] : Protocol Op Reply JavaException Executing where
  possible := Possible L
  allows := allows
  next := fun l op _ => l.next op

/-! ## The consumers -/

/-- What the phase of a consumer says about the execution of its job. -/
structure Agrees (phase : Phase) (l : Executing) : Prop where
  job : ∀ id, phase.job? = some id → l.job = some id
  running : l.running = true ↔ ∃ id, phase = .processing id ∨ phase = .executed id
  acked : l.acked = true → phase = .closed

namespace Agrees

variable {phase : Phase} {c : Custody} {l : Executing} {op : Op}

theorem idle (hrunning : l.running = false) (hacked : l.acked = false) : Agrees .idle l := by
  constructor
  · intro id hjob
    cases hjob
  · simp [hrunning]
  · simp [hacked]

theorem not_acked (h : Agrees phase l) (hphase : phase ≠ .closed) : l.acked = false := by
  cases hacked : l.acked with
  | false => rfl
  | true => exact absurd (h.acked hacked) hphase

theorem not_running (h : Agrees phase l)
    (hphase : ∀ id, phase ≠ .processing id ∧ phase ≠ .executed id) : l.running = false := by
  cases hrunning : l.running with
  | false => rfl
  | true =>
      obtain ⟨id, hphase' | hphase'⟩ := h.running.mp hrunning
      · exact absurd hphase' (hphase id).1
      · exact absurd hphase' (hphase id).2

/-- Custody of a job allows no more than its execution does. -/
theorem allows (h : Agrees c.phase l) (hallows : c.allows op) : l.allows op := by
  cases op with
  | save job =>
      refine ⟨fun hprocessing => ?_, fun hrunning => ?_⟩
      · have hphase : c.phase = .read job.id (some .queued) := by
          simpa only [Custody.allows, hprocessing, Custody.allowsSave] using hallows
        exact ⟨h.job job.id (by rw [hphase, Phase.job?]), h.not_acked (by simp [hphase])⟩
      · obtain ⟨id, hphase⟩ := h.running.mp hrunning
        rcases job?_of_allowsSave hallows with hidle | hjob
        · rcases hphase with hphase | hphase <;> rw [hidle] at hphase <;> cases hphase
        · exact h.job job.id hjob
  | insert data =>
      rw [Executing.allows, hallows.2]
      decide
  | acknowledge =>
      apply h.not_running
      rcases hallows with hphase | ⟨id, status, hphase, -⟩ <;> simp [hphase]
  | _ => trivial

/-- A save starts, continues or ends the execution in both. -/
theorem next_save {job : Job} (h : Agrees c.phase l) (hallows : c.allowsSave job.id job.status) :
    Agrees (c.phase.afterSave job.id job.status) (l.next (.save job)) := by
  have hopen : c.phase ≠ .closed := by
    intro hclosed
    rcases job?_of_allowsSave hallows with hphase | hphase <;> rw [hclosed] at hphase <;>
      cases hphase
  have hacked := h.not_acked hopen
  have hidle : ∀ status, job.status = status → status ≠ .processing →
      Agrees .idle (l.next (.save job)) := by
    rintro status rfl hne
    exact .idle (decide_eq_false hne) hacked
  cases hstatus : job.status with
  | pending =>
      rw [hstatus] at hallows
      exact hallows.elim
  | scheduled =>
      rw [hstatus] at hallows
      rw [Phase.afterSave, hallows.1]
      exact hidle _ hstatus (by decide)
  | queued =>
      rw [hstatus] at hallows
      rw [Phase.afterSave, hallows.1]
      exact hidle _ hstatus (by decide)
  | processing =>
      rw [hstatus] at hallows
      have hphase : c.phase = .read job.id (some .queued) := hallows
      have hjob := h.job job.id (by rw [hphase, Phase.job?])
      refine ⟨fun id hid => ?_, ?_, fun h => absurd (hacked.symm.trans h) (by decide)⟩
      · rw [← Option.some.inj hid]
        exact hjob
      · simp [Executing.next, hstatus]
  | completed | failed | retry | cancelled => exact hidle _ hstatus (by decide)

theorem next (h : Agrees c.phase l) (hallows : c.allows op)
    (reply : Except JavaException (Reply op)) :
    Agrees (c.next op reply).phase (l.next op) := by
  cases op with
  | findById jobId =>
      cases reply with
      | error e => exact h
      | ok row =>
          by_cases hphase : c.phase = .received jobId
          · -- only a consumer that has just got its message holds the row it reads
            have hrunning := h.not_running (by simp [hphase])
            rw [Custody.next, if_pos hphase]
            refine ⟨fun id hid => h.job id ?_, by simp [Executing.next, hrunning], fun hacked => ?_⟩
            · rw [hphase, Phase.job?]
              exact hid
            · rw [h.acked hacked] at hphase
              cases hphase
          · rw [Custody.next, if_neg hphase]
            exact h
  | save job => exact h.next_save hallows
  | execute executor job =>
      cases reply with
      | error e => exact h
      | ok value =>
          have hphase : c.phase = .processing job.id := hallows
          have hrunning : l.running = true := h.running.mpr ⟨job.id, .inl hphase⟩
          refine ⟨fun id hid => h.job id ?_, ?_, fun hacked => ?_⟩
          · rw [hphase, Phase.job?]
            exact hid
          · simp [Executing.next, hrunning]
          · rw [h.acked hacked] at hphase
            cases hphase
  | acknowledge =>
      have hallowed : l.allows .acknowledge := h.allows hallows
      have hrunning : l.running = false := hallowed
      exact ⟨by simp, by simp [Executing.next, hrunning],
        fun _ => rfl⟩
  | query q => cases reply <;> exact h
  | insert data => cases reply <;> exact h
  | _ => exact h

end Agrees

end Executing

/-! ## The other calls -/

/-- Operations that leave no row PROCESSING and acknowledge nothing. -/
def Idle : Op → Prop
  | .save job => job.status ≠ .processing
  | .insert data => data.status ≠ .processing
  | .acknowledge => False
  | _ => True

section Programs

open WatcherService AdminService

theorem only_idle_recoverRow (job : Job) (count : Nat) : (recoverRow job count).Only Idle := by
  unfold recoverRow
  split_ifs <;> simp [Idle]

theorem only_idle_recoverRetryRow (job : Job) (count : Nat) :
    (recoverRetryRow job count).Only Idle := by
  unfold recoverRetryRow
  split_ifs
  · simp
  · cases job.nextRetryTime <;> simp [Idle]

theorem only_idle_recoverWatcher : recoverWatcher.Only Idle := by
  apply Prog.Only.bind
  · simp only [triggerRecovery, recoverMissedJobs, Service.currentTimeMillis, Service.query,
      Prog.perform, Prog.bind_eq_bind, Prog.bind_call, Prog.only_call, Prog.only_done_bind, Idle,
      true_and]
    intro now jobs
    apply (Prog.Only.foldEach only_idle_recoverRow jobs 0).bind
    intro count
    simp only [Prog.only_call, Prog.only_done_bind, Idle, true_and]
    exact fun retryJobs => Prog.Only.foldEach only_idle_recoverRetryRow retryJobs count
  · intro recovered
    trivial

theorem only_idle_reinsertOverdue (job : Job) (tally : Tally) :
    (reinsertOverdue job tally).Only Idle := by
  unfold reinsertOverdue
  split_ifs <;> simp [Idle]

theorem only_idle_requeueRetry (job : Job) (tally : Tally) :
    (requeueRetry job tally).Only Idle := by
  unfold requeueRetry
  split_ifs
  · simp
  · cases job.nextRetryTime <;> simp [Idle]

theorem only_idle_reconcileRedis : reconcileRedis.Only Idle := by
  simp only [reconcileRedis, Service.currentTimeMillis, Service.query, Prog.perform,
    Prog.bind_eq_bind, Prog.bind_call, Prog.only_call, Prog.only_done_bind, Idle, true_and]
  intro now overdue
  apply (Prog.Only.foldEach only_idle_reinsertOverdue overdue _).bind
  intro tally
  simp only [Prog.only_call, Prog.only_done_bind, Idle, true_and]
  intro retryDue
  exact (Prog.Only.foldEach only_idle_requeueRetry retryDue tally).bind fun _ => trivial

theorem only_idle_resetCircuit (type : String) : (resetCircuit type).Only Idle := by
  apply Prog.Only.bind
  · simp [KafkaConsumerService.resetCircuit, Idle]
  · intro _
    trivial

theorem only_idle_requeueJob (jobId : Int) : (requeueJob jobId).Only Idle := by
  simp only [requeueJob, Service.findById, Prog.perform, Prog.bind_eq_bind, Prog.bind_call,
    Prog.only_call, Prog.only_done_bind, Idle, true_and]
  rintro (_ | job)
  · trivial
  · simp only []
    split_ifs <;> simp [Idle]

end Programs

/-! ## All calls -/

namespace Executing

variable {L : Type} [RateLimiter L]

/-- A program with custody keeps to the execution protocol as well. -/
theorem obeys_of_custody {p : Service Unit} {c : Custody} {l : Executing} (h : Agrees c.phase l)
    (hobeys : p.Obeys (Custody.protocol L) c fun c _ => c.Finished) :
    p.Obeys (protocol L) l fun l _ => l.running = false := by
  refine hobeys.simulate (fun (c : Custody) l => Agrees c.phase l) (fun _ _ h => h)
    (fun _ _ _ h hallows => h.allows hallows) (fun _ _ _ reply h hallows _ => h.next hallows reply)
    ?_ h
  rintro c l _ h (⟨hphase, -⟩ | ⟨hphase, -⟩) <;> exact h.not_running (by simp [hphase])

theorem obeys_of_idle {p : Service Unit} (h : p.Only Idle) :
    p.Obeys (protocol L) ⟨none, false, false⟩ fun l _ => l.running = false := by
  refine h.obeys (fun (l : Executing) => l.running = false) ?_ rfl
  intro l op hop hrunning
  cases op with
  | save job => exact ⟨⟨fun h => absurd h hop, fun h => absurd (hrunning.symm.trans h) (by decide)⟩,
      fun _ => decide_eq_false hop⟩
  | insert data => exact ⟨hop, fun _ => hrunning⟩
  | acknowledge => exact hop.elim
  | _ => exact ⟨trivial, fun _ => hrunning⟩

theorem agrees_consume (message : String) :
    Agrees (Custody.init (.consume message)).phase ⟨parseLong message, false, false⟩ := by
  cases hid : parseLong message with
  | none =>
      simp only [Custody.init, hid]
      exact .idle rfl rfl
  | some jobId =>
      simp only [Custody.init, hid]
      exact ⟨fun _ h => h, by simp, by simp⟩

/-- Every call keeps to the execution protocol. -/
theorem obeys_program (c : Call) :
    c.program.Obeys (protocol L) (init c) fun l _ => l.running = false := by
  have hidle : Agrees .idle ⟨none, false, false⟩ := .idle rfl rfl
  cases c with
  | createJob request =>
      exact obeys_of_custody hidle (Custody.obeys_program (c := .createJob request) trivial)
  | watch => exact obeys_of_custody hidle (Custody.obeys_program (c := .watch) trivial)
  | dispatch => exact obeys_of_custody hidle (Custody.obeys_program (c := .dispatch) trivial)
  | consume message =>
      exact obeys_of_custody (agrees_consume message)
        (Custody.obeys_program (c := .consume message) trivial)
  | redeliver message =>
      exact obeys_of_custody (agrees_consume message)
        (Custody.obeys_program (c := .consume message) trivial)
  | cancelJob jobId => exact obeys_of_idle (by simp [Call.program, Idle])
  | triggerRecovery => exact obeys_of_idle (only_idle_recoverWatcher.bind fun _ => trivial)
  | reconcileRedis => exact obeys_of_idle (only_idle_reconcileRedis.bind fun _ => trivial)
  | requeueJob jobId => exact obeys_of_idle ((only_idle_requeueJob jobId).bind fun _ => trivial)
  | resetCircuit type => exact obeys_of_idle ((only_idle_resetCircuit type).bind fun _ => trivial)

end Executing

/-! ## Stops -/

/-- Threads stop, but none between the saves of PROCESSING and of the outcome. -/
def stopsAtRest (L : Type) [RateLimiter L] : Discipline (Executing.protocol L) Call (State L) where
  init := Executing.init
  final := fun l => l.running = false
  starts := fun _ => True
  performs := fun _ _ _ => True
  stops := fun l => l.running = false

/-- A PROCESSING job is executed. -/
def Attended {L : Type} (id : Int) (s : State L) (ls : List Executing) : Prop :=
  (s.view id).status? = some .processing → ∃ l ∈ ls, l.Executes id

namespace Attended

variable {L : Type} {id : Int} {s t : State L} {before after : List Executing} {l l' : Executing}

theorem status?_of_jobs (hjobs : t.jobs = s.jobs) : (t.view id).status? = (s.view id).status? := by
  rw [JobView.status?, JobView.status?, State.view_row, State.view_row, hjobs]

/-- A step of one thread that does not make the job PROCESSING and does not end
its execution. -/
theorem keep (h : Attended id s (before ++ l :: after))
    (hstep : (t.view id).status? = some .processing →
      (s.view id).status? = some .processing ∧ (l.Executes id → l'.Executes id)) :
    Attended id t (before ++ l' :: after) := by
  intro hprocessing
  obtain ⟨hold, hkeep⟩ := hstep hprocessing
  obtain ⟨w, hw, hexecutes⟩ := h hold
  rw [List.mem_append, List.mem_cons] at hw
  rcases hw with hw | rfl | hw
  · exact ⟨w, by simp [hw], hexecutes⟩
  · exact ⟨l', by simp, hkeep hexecutes⟩
  · exact ⟨w, by simp [hw], hexecutes⟩

/-- The save of PROCESSING starts an execution, every other save of the row ends
the need for one. -/
theorem save {job : Job} (hallows : l.allows (.save job))
    (h : Attended id s (before ++ l :: after)) :
    Attended id (s.saveJob job) (before ++ l.next (.save job) :: after) := by
  by_cases hid : id = job.id
  · subst hid
    intro hprocessing
    -- the row is PROCESSING after the save, so this very save made it so
    rw [State.status?_saveJob] at hprocessing
    obtain ⟨_, _, hstatus⟩ := Option.map_eq_some_iff.mp hprocessing
    obtain ⟨hjob, hacked⟩ := hallows.1 hstatus
    exact ⟨l.next (.save job), by simp, hjob, decide_eq_true hstatus, hacked⟩
  · apply h.keep
    rw [State.view_saveJob, if_neg hid]
    refine fun hprocessing => ⟨hprocessing, fun ⟨hjob, hrunning, _⟩ => ?_⟩
    exact absurd (Option.some.inj (hjob.symm.trans (hallows.2 hrunning))) hid

theorem insert {data : JobData} (hallows : data.status ≠ .processing)
    (h : Attended id s (before ++ l :: after)) :
    Attended id (s.insertJob data) (before ++ l :: after) := by
  apply h.keep
  intro hprocessing
  rw [State.view_insertJob] at hprocessing
  split_ifs at hprocessing
  · exact absurd (Option.some.inj hprocessing) hallows
  · exact ⟨hprocessing, fun hexecutes => hexecutes⟩

theorem perform [RateLimiter L] (reading : Reading) {op : Op} (hallows : l.allows op)
    (h : Attended id s (before ++ l :: after)) :
    Attended id (op.exec reading s).2 (before ++ l.next op :: after) := by
  cases op with
  | save job => exact h.save hallows
  | insert data => exact h.insert hallows
  | acknowledge =>
      exact h.keep fun hprocessing => ⟨hprocessing, fun ⟨_, hrunning, _⟩ =>
        absurd (hrunning.symm.trans hallows) (by decide)⟩
  | execute executor job =>
      obtain ⟨instant, order, outcome | _⟩ := reading <;>
        exact h.keep fun hprocessing => ⟨hprocessing, fun hexecutes => hexecutes⟩
  | _ => exact h.keep fun hprocessing => ⟨hprocessing, fun hexecutes => hexecutes⟩

/-- A call starts without a touch on the table. -/
theorem start {ls : List Executing} (h : Attended id s ls) (hjobs : t.jobs = s.jobs) :
    Attended id t (ls ++ [l]) := by
  intro hprocessing
  obtain ⟨w, hw, hexecutes⟩ := h (by rwa [status?_of_jobs hjobs] at hprocessing)
  exact ⟨w, by simp [hw], hexecutes⟩

/-- A thread that executes nothing stops. -/
theorem stop (h : Attended id s (before ++ l :: after)) (hstop : l.running = false)
    (hjobs : t.jobs = s.jobs) : Attended id t (before ++ after) := by
  intro hprocessing
  obtain ⟨w, hw, hexecutes⟩ := h (by rwa [status?_of_jobs hjobs] at hprocessing)
  rw [List.mem_append, List.mem_cons] at hw
  rcases hw with hw | rfl | hw
  · exact ⟨w, by simp [hw], hexecutes⟩
  · exact absurd (hexecutes.2.1.symm.trans hstop) (by decide)
  · exact ⟨w, by simp [hw], hexecutes⟩

end Attended

/-- What the operations of a thread so far say about its execution of a job. -/
def execution (t : ServiceThread) : Executing :=
  t.history.foldl (fun l event => l.next event.op) (Executing.init t.tag)

/-- A thread that has saved the job as PROCESSING, has not saved an outcome or
acknowledged since, and has operations left. -/
structure StillExecutes (id : Int) (t : ServiceThread) : Prop where
  executes : (execution t).Executes id
  unfinished : ∃ op next, t.prog = .call op next

theorem jobs_stopThread {L : Type} (t : ServiceThread) (s : State L) :
    (stopThread t s).jobs = s.jobs := by
  unfold stopThread
  dsimp only
  split
  · split_ifs <;> rfl
  · rfl
  · rfl

/-- If no thread stops between its save of PROCESSING and its save of the outcome,
a job is PROCESSING only while a consumer executes it that has not acknowledged its
message, in every interleaving of any number of calls and stops. -/
theorem processing_still_executed {L : Type} [RateLimiter L] {limiter : L} {p : ServicePool L}
    {labels : List (Pool.Label Op Reply JavaException Call Reading)}
    (hrun : Run (Pool.DisciplinedStep services (stopsAtRest L)) ⟨State.empty limiter, []⟩ labels p)
    {id : Int} (hprocessing : (p.store.view id).status? = some .processing) :
    ∃ t ∈ p.threads, StillExecutes id t := by
  have hinvariant := Pool.invariant (fun s ls => Attended id s ls) hrun
    (fun c _ => Executing.obeys_program c) (fun reading op s => ⟨reading, s, rfl⟩)
    (fun c s ls _ _ h => h.start (c.jobs_deliver s))
    (fun reading op s before l after hallows _ h => h.perform reading hallows)
    (fun t s before after hstop h => h.stop hstop (jobs_stopThread t s)) rfl
    (fun hnone => by cases hnone)
  obtain ⟨l, hl, hexecutes⟩ := hinvariant.1 hprocessing
  obtain ⟨t, ht, rfl⟩ := List.mem_map.mp hl
  refine ⟨t, ht, hexecutes, ?_⟩
  have hfollows := hinvariant.2 t ht
  -- a thread without operations left has saved an outcome
  cases hprog : t.prog with
  | done result =>
      rw [Pool.Follows, hprog] at hfollows
      exact absurd (hexecutes.2.1.symm.trans hfollows) (by decide)
  | call op next => exact ⟨op, next, rfl⟩

/-! ## Schedules -/

instance {L : Type} [RateLimiter L] (p : ServicePool L)
    (label : Pool.Label Op Reply JavaException Call Reading) :
    Decidable (Pool.Permits (stopsAtRest L) p label) :=
  match label with
  | .start _ => isTrue trivial
  | .perform _ _ _ => isTrue trivial
  | .stop t => inferInstanceAs (Decidable ((execution t).running = false))

/-- The four services; only consumers stop. -/
def ConsumersStop {L : Type} (_ : ServicePool L) :
    Pool.Label Op Reply JavaException Call Reading → Prop
  | .start c => c.Works
  | .perform _ _ _ => True
  | .stop t => ∃ message, t.tag = .consume message

instance {L : Type} (p : ServicePool L) : DecidablePred (ConsumersStop p) := fun label =>
  match label with
  | .start c => inferInstanceAs (Decidable c.Works)
  | .perform _ _ _ => isTrue trivial
  | .stop ⟨.consume message, _, _⟩ => isTrue ⟨message, rfl⟩
  | .stop ⟨.createJob _, _, _⟩ | .stop ⟨.cancelJob _, _, _⟩ | .stop ⟨.watch, _, _⟩
  | .stop ⟨.triggerRecovery, _, _⟩ | .stop ⟨.reconcileRedis, _, _⟩ | .stop ⟨.dispatch, _, _⟩
  | .stop ⟨.resetCircuit _, _, _⟩ | .stop ⟨.requeueJob _, _, _⟩ | .stop ⟨.redeliver _, _, _⟩ =>
      isFalse (by rintro ⟨message, h⟩; cases h)

/-- The thread has no operation left. -/
def finished (t : ServiceThread) : Bool :=
  match t.prog with
  | .done _ => true
  | .call _ _ => false

/-- A consumer stops before its save of PROCESSING; the second one takes over and
is executing. -/
def stopBefore : List (Pool.Command Call Reading) :=
  .start (.createJob (.immediate "LOG")) :: proceed 0 5 1000 ++
    .start (.consume "1") :: proceed 1 5 1001 ++ .stop 1 ::
    .start (.consume "1") :: proceed 1 6 1002

theorem processing_still_executed_stopBefore :
    ∃ labels p, Run (Pool.DisciplinedStep services (stopsAtRest LuaLimiter))
      ⟨State.empty LuaLimiter.empty, []⟩ labels p ∧
      (p.store.view 1).status? = some .processing ∧ ∃ t ∈ p.threads, StillExecutes 1 t := by
  have hschedule : (Pool.schedule services (Pool.Permits (stopsAtRest LuaLimiter)) stopBefore
      ⟨State.empty LuaLimiter.empty, []⟩).map (fun p => (p.store.view 1).status?) =
      some (some .processing) := by decide
  obtain ⟨labels, p, hrun, hprocessing⟩ := Pool.exists_run_of_schedule hschedule
  exact ⟨labels, p, hrun, hprocessing, processing_still_executed hrun hprocessing⟩

/-- A consumer stops after its save of PROCESSING; the second one acknowledges. -/
def stopBetween : List (Pool.Command Call Reading) :=
  .start (.createJob (.immediate "LOG")) :: proceed 0 5 1000 ++
    .start (.consume "1") :: proceed 1 6 1001 ++ .stop 1 ::
    .start (.consume "1") :: proceed 1 6 1002

/-- The job is PROCESSING, every thread has finished and no message is left. -/
theorem stopBetween_abandons :
    ∃ labels p, Run (fun p label q => Pool.Step services p label q ∧ ConsumersStop p label)
      ⟨State.empty LuaLimiter.empty, []⟩ labels p ∧
      (p.store.view 1).status? = some .processing ∧ p.threads.all finished = true ∧
      p.store.topic = [] := by
  have hschedule : (Pool.schedule services ConsumersStop stopBetween
      ⟨State.empty LuaLimiter.empty, []⟩).map
        (fun p => ((p.store.view 1).status?, p.threads.all finished, p.store.topic)) =
      some (some .processing, true, []) := by decide
  obtain ⟨labels, p, hrun, hend⟩ := Pool.exists_run_of_schedule hschedule
  simp only [Prod.mk.injEq] at hend
  exact ⟨labels, p, hrun, hend⟩

end JobQueue
