import JobQueue.Concurrency.Threads
import JobQueue.Lifecycle.View

/-!
# The protocol of a single call

`Custody` is what one call of `createJob`, `watch`, `dispatch` or `consume` does
with the jobs it handles, whatever other calls do in between.  A consumer has
custody of the job of its message from the delivery to the save that ends the
attempt; `createJob` and `dispatch` owe a message from the save of QUEUED to the
send.  A call also knows the status of its copy of each row: the one it read
last, or the one it wrote last.
-/

namespace JobQueue

open Decimal

/-- The calls that carry a job from its creation to its execution. -/
def Call.Works : Call → Prop
  | .createJob _ => True
  | .watch => True
  | .dispatch => True
  | .consume _ => True
  | _ => False

instance : DecidablePred Call.Works := fun c =>
  match c with
  | .createJob _ | .watch | .dispatch | .consume _ => isTrue trivial
  | .cancelJob _ | .triggerRecovery | .reconcileRedis | .resetCircuit _ | .requeueJob _
  | .redeliver _ => isFalse id

namespace Custody

/-- What a call has to do with the job of its message. -/
inductive Phase where
  | idle
  | received (id : Int)
  | read (id : Int) (status : Option JobStatus)
  | processing (id : Int)
  | executed (id : Int)
  | closed
  deriving DecidableEq

/-- The job a phase is about. -/
@[simp] def Phase.job? : Phase → Option Int
  | idle => none
  | received id => some id
  | read id _ => some id
  | processing id => some id
  | executed id => some id
  | closed => none

end Custody

structure Custody where
  phase : Custody.Phase
  owes : Option Int
  copy : Int → Option JobStatus

namespace Custody

/-- A consumer starts with custody of the job of its message. -/
def init : Call → Custody
  | .consume message =>
      ⟨match parseLong message with
        | none => .idle
        | some id => .received id, none, fun _ => none⟩
  | _ => ⟨.idle, none, fun _ => none⟩

/-- No custody and no debt. -/
def Settled (l : Custody) : Prop := l.phase = .idle ∧ l.owes = none

/-- The message of the call is acknowledged. -/
def Closed (l : Custody) : Prop := l.phase = .closed ∧ l.owes = none

def Finished (l : Custody) : Prop := l.Settled ∨ l.Closed

/-- When a row may be saved with a status. -/
@[simp] def allowsSave (l : Custody) (id : Int) : JobStatus → Prop
  | .pending => False
  | .scheduled =>
      l.phase = .idle ∧ (l.copy id = some .pending ∨ l.copy id = some .retry)
  | .queued =>
      l.phase = .idle ∧ l.owes = none ∧
        (l.copy id = some .pending ∨ l.copy id = some .scheduled)
  | .processing => l.phase = .read id (some .queued)
  | .cancelled => ∃ status, l.phase = .read id (some status)
  | .retry => (∃ status, l.phase = .read id (some status)) ∨ l.phase = .processing id
  | .failed => l.phase = .processing id
  | .completed => l.phase = .executed id

@[simp] def allows (l : Custody) : Op → Prop
  | .findById id => l.phase = .idle ∨ l.phase = .received id
  | .query _ => l.phase = .idle
  | .insert data => l.phase = .idle ∧ data.status = .pending
  | .save job => l.allowsSave job.id job.status
  | .sendJob message => l.phase = .idle ∧ ∃ id, l.owes = some id ∧ carries id message = true
  | .execute _ job => l.phase = .processing job.id
  | .acknowledge =>
      l.phase = .idle ∨ ∃ id status, l.phase = .read id status ∧ status ≠ some .queued
  | _ => True

/-- The phase after a save: PROCESSING keeps custody, an outcome ends it. -/
@[simp] def Phase.afterSave (phase : Phase) (id : Int) : JobStatus → Phase
  | .processing => .processing id
  | .pending => phase
  | .scheduled => phase
  | .queued => phase
  | _ => .idle

@[simp] def next (l : Custody) : (op : Op) → Except JavaException (Reply op) → Custody
  | .findById id, .ok row =>
      { l with
        phase := if l.phase = .received id then .read id (row.map fun job => job.status)
          else l.phase
        copy := Function.update l.copy id (row.map fun job => job.status) }
  | .query _, .ok rows =>
      { l with
        copy := fun id =>
          match rows.find? fun row => row.id = id with
          | some row => some row.status
          | none => l.copy id }
  | .insert _, .ok job => { l with copy := Function.update l.copy job.id (some job.status) }
  | .save job, _ =>
      { phase := l.phase.afterSave job.id job.status
        owes := if job.status = .queued then some job.id else l.owes
        copy := Function.update l.copy job.id (some job.status) }
  | .sendJob _, _ => { l with owes := none }
  | .execute _ job, .ok () => { l with phase := .executed job.id }
  | .acknowledge, _ => { l with phase := .closed }
  | _, _ => l

def protocol (L : Type) [RateLimiter L] : Protocol Op Reply JavaException Custody where
  possible := Possible L
  allows := allows
  next := next

/-- The saves of a call are about the job of its message, or of no message. -/
theorem job?_of_allowsSave {l : Custody} {jobId : Int} {status : JobStatus}
    (h : l.allowsSave jobId status) :
    l.phase = .idle ∨ l.phase.job? = some jobId := by
  cases status with
  | pending => exact h.elim
  | scheduled => exact .inl h.1
  | queued => exact .inl h.1
  | processing => exact .inr (by rw [show l.phase = _ from h, Phase.job?])
  | completed => exact .inr (by rw [show l.phase = _ from h, Phase.job?])
  | failed => exact .inr (by rw [show l.phase = _ from h, Phase.job?])
  | cancelled =>
      obtain ⟨_, hphase⟩ := h
      exact .inr (by rw [hphase, Phase.job?])
  | retry =>
      rcases h with ⟨_, hphase⟩ | hphase
      · exact .inr (by rw [hphase, Phase.job?])
      · exact .inr (by rw [hphase, Phase.job?])

theorem job?_afterSave {phase : Phase} {jobId : Int}
    (h : phase = .idle ∨ phase.job? = some jobId) (status : JobStatus) :
    phase.afterSave jobId status = .idle ∨ (phase.afterSave jobId status).job? = some jobId := by
  cases status with
  | pending | scheduled | queued => exact h
  | processing => exact .inr rfl
  | completed | failed | retry | cancelled => exact .inl rfl

/-! ## Copies of a page -/

section Copies

variable {L : Type} {l : Custody}

/-- The watcher holds the copies of the rows still to come, which are distinct. -/
def Holds (rows : List Job) (l : Custody) : Prop :=
  l.Settled ∧ (rows.map Job.id).Nodup ∧ ∀ row ∈ rows, l.copy row.id = some row.status

theorem Holds.settled {rows : List Job} (h : l.Holds rows) : l.Holds [] :=
  ⟨h.1, List.nodup_nil, by simp⟩

theorem Holds.tail {row : Job} {rest : List Job} (h : l.Holds (row :: rest)) : l.Holds rest :=
  ⟨h.1, (List.nodup_cons.mp h.2.1).2,
    fun other hother => h.2.2 other (List.mem_cons_of_mem _ hother)⟩

/-- A row that is PENDING or RETRY in its copy may be saved as SCHEDULED. -/
theorem Holds.allows_save {row : Job} {rest : List Job} (h : l.Holds (row :: rest))
    (hstatus : row.status = .pending ∨ row.status = .retry) :
    l.allows (.save { row with status := .scheduled }) := by
  refine ⟨h.1.1, ?_⟩
  rw [h.2.2 row List.mem_cons_self, Option.some.injEq, Option.some.injEq]
  exact hstatus

/-- Its save does not touch the copies of the other rows. -/
theorem Holds.save {row : Job} {rest : List Job} (h : l.Holds (row :: rest))
    (reply : Except JavaException Unit) :
    (l.next (.save { row with status := .scheduled }) reply).Holds rest := by
  obtain ⟨hfirst, hrest⟩ := List.nodup_cons.mp h.2.1
  refine ⟨h.1, hrest, fun other hother => ?_⟩
  have hne : other.id ≠ row.id := by
    intro heq
    exact hfirst (heq ▸ List.mem_map_of_mem hother)
  exact (Function.update_of_ne hne _ _).trans (h.2.2 other (List.mem_cons_of_mem row hother))

/-- The page a query returns. -/
theorem Holds.query {order : RowOrder} {q : JobQuery} (s : State L) (h : l.Settled) :
    (l.next (.query q) (.ok (s.jobs.select order q))).Holds (s.jobs.select order q) := by
  have hnodup := s.jobs.nodup_select order q
  refine ⟨h, hnodup, fun row hrow => ?_⟩
  simp [find?_id_of_mem hnodup hrow]

end Copies

/-! ## The programs -/

section Programs

open KafkaConsumerService WatcherService

variable {L : Type} [RateLimiter L] {l : Custody}

/-- A call operation obeys the protocol if it is allowed and the rest obeys it
after every reply that some state gives. -/
@[simp] theorem obeys_perform {α : Type} (op : Op)
    (next : Except JavaException (Reply op) → Service α)
    (post : Custody → Except JavaException α → Prop) :
    Prog.Obeys (protocol L) (.call op next) l post ↔
      l.allows op ∧ ∀ (reading : Reading) (s : State L),
        Prog.Obeys (protocol L) (next (op.exec reading s).1)
          (l.next op (op.exec reading s).1) post :=
  and_congr_right fun _ => forall_possible op _

/-- The postcondition of the producers. -/
def Ends {α : Type} (l : Custody) (_ : Except JavaException α) : Prop := l.Settled

/-- The postcondition of a consumer. -/
def Closes (l : Custody) (_ : Except JavaException Unit) : Prop := l.Closed

/-! ### The consumer -/

theorem obeys_deferRateLimited {job : Job} {status : JobStatus}
    (hphase : l.phase = .read job.id (some status)) (howes : l.owes = none) :
    (deferRateLimited job).Obeys (protocol L) l Closes := by
  simp [deferRateLimited, deferred, hphase, howes, Closes, Closed]

theorem obeys_deferCircuitOpen {job : Job} {status : JobStatus} (now : Int)
    (hphase : l.phase = .read job.id (some status)) (howes : l.owes = none) :
    (deferCircuitOpen now job).Obeys (protocol L) l Closes := by
  simp [deferCircuitOpen, deferred, hphase, howes, Closes, Closed]

theorem obeys_countFailure (job : Job) (now : Int) (e : JavaException) :
    (countFailure now job e).Obeys (protocol L) l fun l' result => result = .ok () ∧ l' = l := by
  simp only [countFailure, Service.incrementFailureCount, Service.setLastFailureTime,
    Prog.perform, Prog.bind_eq_bind, Prog.bind_call, Prog.bind_done_ok, obeys_perform, Op.exec,
    allows, next, true_and]
  intro reading s _ _
  by_cases hopen : FAILURE_THRESHOLD ≤ s.failureCount job.type + 1
  · simp [hopen]
  · simp [hopen]

/-- The `catch` block saves the outcome of a failed attempt, on every path. -/
theorem obeys_catchBlock {job : Job} (now : Int) (e : JavaException)
    (hphase : l.phase = .processing job.id) (howes : l.owes = none) :
    (catchBlock now job e).Obeys (protocol L) l fun l result => result = .ok () ∧ l.Settled := by
  -- counting the failure touches the circuit maps only
  apply (obeys_countFailure job now e).bind
  · rintro l' _ ⟨-, rfl⟩
    by_cases hexhausted : MAX_RETRY ≤ job.retryCount
    · simp [failedRow, hexhausted, hphase, howes, Settled]
    · simp [failedRow, deferred, hexhausted, hphase, howes, Settled]
  · rintro l' e ⟨h, -⟩
    cases h

/-- The `try` block ends with its job COMPLETED, or throws while it is
PROCESSING, or returns early. -/
theorem obeys_tryBlock {job : Job} (hphase : l.phase = .read job.id (some job.status))
    (howes : l.owes = none) :
    (tryBlock job).Obeys (protocol L) l fun l result =>
      l.owes = none ∧ match result with
        | .ok returned => l.phase = if returned then .closed else .idle
        | .error _ => l.phase = .processing job.id := by
  by_cases hqueued : job.status = .queued
  · simp only [tryBlock, hqueued, ExecutorFactory.getExecutor]
    cases ExecutorFactory.resolve job.type with
    | none => simp [hphase, howes, hqueued]
    | some executor =>
        have hsave : l.phase = .read job.id (some .queued) := by rw [hphase, hqueued]
        refine (obeys_perform _ _ _).mpr ⟨hsave, fun _ _ => ?_⟩
        refine (obeys_perform _ _ _).mpr ⟨rfl, ?_⟩
        -- the executor throws or returns, as the reading of the environment says
        rintro ⟨instant, order, _ | _⟩ s
        · exact ⟨howes, rfl⟩
        · simp [howes]
  · simp [tryBlock, hqueued, hphase, howes]

/-- The `try` statement ends with the outcome saved, and acknowledged if it
returns early. -/
theorem obeys_try {job : Job} (now : Int) (hphase : l.phase = .read job.id (some job.status))
    (howes : l.owes = none) :
    ((tryBlock job).tryCatch fun e => do catchBlock now job e; pure false).Obeys
      (protocol L) l fun l result => ∃ returned, result = .ok returned ∧ l.owes = none ∧
        l.phase = if returned then .closed else .idle := by
  apply (obeys_tryBlock hphase howes).tryCatch
  · rintro l returned ⟨howes, hphase⟩
    exact ⟨returned, rfl, howes, hphase⟩
  · rintro l e ⟨howes, hphase⟩
    apply (obeys_catchBlock now e hphase howes).bind
    · rintro l _ ⟨-, hphase, howes⟩
      exact ⟨false, rfl, howes, hphase⟩
    · rintro l e ⟨h, -⟩
      cases h

theorem obeys_attempt {job : Job} (now : Int)
    (hphase : l.phase = .read job.id (some job.status)) (howes : l.owes = none) :
    (attempt now job).Obeys (protocol L) l Closes := by
  apply (obeys_try now hphase howes).bind
  · rintro l result ⟨returned, heq, howes, hphase⟩
    obtain rfl := Except.ok.inj heq
    cases result with
    | true => exact ⟨hphase, howes⟩
    | false => exact ⟨.inl hphase, fun _ _ => ⟨rfl, howes⟩⟩
  · rintro l e ⟨_, h, -⟩
    cases h

theorem obeys_guardCircuit {job : Job} (now : Int)
    (hphase : l.phase = .read job.id (some job.status)) (howes : l.owes = none) :
    (guardCircuit now job).Obeys (protocol L) l Closes := by
  have hattempt := obeys_attempt (L := L) now hphase howes
  have hdefer := obeys_deferCircuitOpen (L := L) now hphase howes
  simp only [guardCircuit, Service.isCircuitOpen, Service.getLastFailureTime,
    Service.setCircuitOpen, Prog.perform, Prog.bind_eq_bind, Prog.bind_call, Prog.bind_done_ok,
    obeys_perform, Op.exec, allows, next, true_and]
  intro reading s
  by_cases hopen : s.circuitOpen job.type = true
  · rw [if_pos hopen]
    simp only [Prog.bind_done_ok, obeys_perform, Op.exec, allows, next, true_and]
    intro reading s
    by_cases hblocks : now - s.lastFailureTime job.type < CIRCUIT_TIMEOUT
    · rw [if_pos hblocks]
      exact hdefer
    · rw [if_neg hblocks]
      simp only [Prog.bind_done_ok, obeys_perform, Op.exec, allows, next, true_and]
      exact fun _ _ => hattempt
  · rw [if_neg hopen]
    exact hattempt

theorem obeys_consumeJob {job : Job} (hphase : l.phase = .read job.id (some job.status))
    (howes : l.owes = none) : (consumeJob job).Obeys (protocol L) l Closes := by
  have hguard := fun now => obeys_guardCircuit (L := L) now hphase howes
  have hdefer := obeys_deferRateLimited (L := L) hphase howes
  simp only [consumeJob, Service.isCancelled, Service.currentTimeMillis, Service.allow,
    Prog.perform, Prog.bind_eq_bind, Prog.bind_call, Prog.bind_done_ok,
    obeys_perform, Op.exec, allows, next, true_and]
  intro reading s
  by_cases hcancelled : s.isCancelled job.id reading.millis = true
  · simp [hcancelled, hphase, howes, Closes, Closed]
  · rw [if_neg hcancelled]
    simp only [Prog.bind_done_ok, obeys_perform, Op.exec, allows, next, true_and]
    intro reading' _ reading s
    by_cases hallowed :
        (RateLimiter.allow job.type LIMIT_PER_SEC reading.millis s.limiter).1 = true
    · rw [if_pos hallowed]
      exact hguard reading'.millis
    · rw [if_neg hallowed]
      exact hdefer

theorem obeys_consume (message : String) :
    (consume message).Obeys (protocol L) (init (.consume message)) Closes := by
  cases hid : parseLong message with
  | none => simp [consume, init, hid, Closes, Closed]
  | some jobId =>
      simp only [consume, init, hid, Service.findById, Prog.perform, Prog.bind_eq_bind,
        Prog.bind_call, Prog.bind_done_ok, obeys_perform, Op.exec, allows, next, or_true, true_and,
        if_true]
      intro reading s
      cases hrow : s.jobs.findById jobId with
      | none => simp [Closes, Closed]
      | some job =>
          obtain rfl := JobTable.id_of_findById hrow
          exact obeys_consumeJob rfl rfl

/-! ### The creator and the dispatcher -/

/-- Reading the clock is all that happens before the insertion. -/
theorem obeys_scheduleTime (request : JobRequest) :
    (JobService.scheduleTime request).Obeys (protocol L) l fun l' _ => l' = l := by
  unfold JobService.scheduleTime
  cases request.time with
  | none => simp
  | some time =>
      by_cases hempty : time = ""
      · simp [hempty]
      · simp only [hempty, if_false, JobService.scheduleTimeAt]
        cases JobService.parseTime time with
        | error e => simp
        | ok parts => simp

/-- The message of a row is sent after the row is saved as QUEUED. -/
theorem obeys_route {saved : Job} (hsettled : l.Settled)
    (hcopy : l.copy saved.id = some .pending) :
    (JobService.route saved).Obeys (protocol L) l Ends := by
  obtain ⟨hphase, howes⟩ := hsettled
  simp only [JobService.route, Service.currentTimeMillis, Prog.perform, Prog.bind_eq_bind,
    Prog.bind_call, Prog.bind_done_ok, obeys_perform, Op.exec, allows, next, true_and]
  intro reading s
  by_cases himmediate : saved.scheduleTime - reading.millis ≤ JobService.IMMEDIATE_THRESHOLD
  · simp [himmediate, JobService.sendNow, hphase, howes, hcopy, carries, Ends, Settled]
  · simp [himmediate, hphase, howes, Ends, Settled]

theorem obeys_createJob (request : JobRequest) :
    (JobService.createJob request).Obeys (protocol L) (init (.createJob request)) Ends := by
  apply (obeys_scheduleTime request).bind
  · rintro _ time rfl
    simp only [Service.insert, Prog.perform, Prog.bind_eq_bind, Prog.bind_call,
      Prog.bind_done_ok, obeys_perform, Op.exec]
    refine ⟨⟨rfl, rfl⟩, fun reading s => obeys_route ⟨rfl, rfl⟩ ?_⟩
    simp [JobService.newJob]
  · rintro _ e rfl
    exact ⟨rfl, rfl⟩

theorem obeys_dispatchOne (jobIdStr : String) (hsettled : l.Settled) :
    (RedisDispatcherService.dispatchOne jobIdStr).Obeys (protocol L) l Ends := by
  obtain ⟨hphase, howes⟩ := hsettled
  unfold RedisDispatcherService.dispatchOne RedisDispatcherService.process
  cases hid : parseLong jobIdStr with
  | none => simp [hphase, howes, Ends, Settled]
  | some jobId =>
      simp only [Service.findById, Prog.perform, Prog.bind_eq_bind, Prog.bind_call,
        Prog.bind_done_ok, Prog.tryCatch_call, obeys_perform, Op.exec, allows, next, hphase]
      refine ⟨.inl trivial, fun reading s => ?_⟩
      cases hrow : s.jobs.findById jobId with
      | none => simp [howes, Ends, Settled]
      | some job =>
          obtain rfl := JobTable.id_of_findById hrow
          by_cases hscheduled : job.status = .scheduled
          · simp [hscheduled, howes, carries, hid, Ends, Settled]
          · simp [hscheduled, howes, Ends, Settled]

theorem obeys_dispatch :
    RedisDispatcherService.dispatch.Obeys (protocol L) (init .dispatch) Ends := by
  simp only [RedisDispatcherService.dispatch, Service.currentTimeMillis, Service.getReadyJobs,
    Prog.perform, Prog.bind_eq_bind, Prog.bind_call, Prog.bind_done_ok, obeys_perform, Op.exec,
    allows, next, true_and]
  intro _ _ _ _
  exact Prog.Obeys.forEach (fun _ (l : Custody) => l.Settled) (fun _ _ h => h)
    (fun jobIdStr _ _ h => obeys_dispatchOne jobIdStr h) ⟨rfl, rfl⟩

/-! ### The watcher -/

theorem obeys_schedulePending {row : Job} {rest : List Job} (h : l.Holds (row :: rest)) :
    (schedulePending row).Obeys (protocol L) l fun l _ => l.Holds rest := by
  by_cases hpending : row.status = .pending
  · simp only [schedulePending, hpending, ne_eq, not_true_eq_false, if_false, Service.save,
      Service.scheduleJob, Prog.perform, Prog.bind_eq_bind, Prog.bind_call, Prog.bind_done_ok,
      obeys_perform, Op.exec]
    exact ⟨h.allows_save (.inl hpending), fun _ _ => ⟨trivial, fun _ _ => h.save (.ok ())⟩⟩
  · simpa [schedulePending, hpending] using h.tail

theorem obeys_scheduleRetry {row : Job} {rest : List Job} (h : l.Holds (row :: rest)) :
    (scheduleRetry row).Obeys (protocol L) l fun l _ => l.Holds rest := by
  by_cases hretry : row.status = .retry
  · simp only [scheduleRetry, hretry, ne_eq, not_true_eq_false, if_false, Service.save,
      Prog.perform, Prog.bind_eq_bind, Prog.bind_call, Prog.bind_done_ok, obeys_perform, Op.exec]
    refine ⟨h.allows_save (.inr hretry), fun _ _ => ?_⟩
    cases row.nextRetryTime with
    | none => exact h.save (.ok ())
    | some time => exact ⟨trivial, fun _ _ => h.save (.ok ())⟩
  · simpa [scheduleRetry, hretry] using h.tail

theorem obeys_recoverRow {row : Job} {rest : List Job} (count : Nat)
    (h : l.Holds (row :: rest)) :
    (recoverRow row count).Obeys (protocol L) l fun l _ => l.Holds rest := by
  by_cases hpending : row.status = .pending
  · simp only [recoverRow, hpending, ne_eq, not_true_eq_false, false_and, if_false, if_true,
      Service.save, Service.scheduleJob, Prog.perform, Prog.bind_eq_bind, Prog.bind_call,
      Prog.bind_done_ok, obeys_perform, Op.exec]
    exact ⟨trivial, fun _ _ => ⟨h.allows_save (.inl hpending), fun _ _ => h.save (.ok ())⟩⟩
  · by_cases hscheduled : row.status = .scheduled
    · simp only [recoverRow, hscheduled, ne_eq, not_true_eq_false, and_false, if_false,
        Service.scheduleJob, Prog.perform, Prog.bind_eq_bind, Prog.bind_call,
        Prog.bind_done_ok, obeys_perform, Op.exec]
      exact ⟨trivial, fun _ _ => h.tail⟩
    · simpa [recoverRow, hpending, hscheduled] using h.tail

theorem obeys_recoverRetryRow {row : Job} {rest : List Job} (count : Nat)
    (h : l.Holds (row :: rest)) :
    (recoverRetryRow row count).Obeys (protocol L) l fun l _ => l.Holds rest := by
  by_cases hretry : row.status = .retry
  · simp only [recoverRetryRow, hretry, ne_eq, not_true_eq_false, if_false, Service.save,
      Prog.perform, Prog.bind_eq_bind]
    cases row.nextRetryTime with
    | none => exact h.tail
    | some time =>
        simp only [Service.scheduleJobAt, Service.scheduleJob, Prog.perform, Prog.bind_call,
          Prog.bind_done_ok, obeys_perform, Op.exec]
        exact ⟨trivial, fun _ _ => ⟨h.allows_save (.inr hretry), fun _ _ => h.save (.ok ())⟩⟩
  · simpa [recoverRetryRow, hretry] using h.tail

/-- A loop over the rows of a page keeps to the protocol if its body does. -/
theorem obeys_page {α : Type} {body : Job → α → Service α} {order : RowOrder} {q : JobQuery}
    (hbody : ∀ (row : Job) (rest : List Job) (count : α) (l : Custody),
      l.Holds (row :: rest) → (body row count).Obeys (protocol L) l fun l _ => l.Holds rest)
    (count : α) (s : State L) (h : l.Settled) :
    (Prog.foldEach body (s.jobs.select order q) count).Obeys (protocol L)
      (l.next (.query q) (.ok (s.jobs.select order q))) Ends :=
  (Prog.Obeys.foldEach (fun rows l => l.Holds rows) (fun _ _ h => h.settled) hbody
    (Holds.query s h)).mono fun _ _ h => h.1

theorem obeys_recoverMissedJobs (now : Int) (h : l.Settled) :
    (recoverMissedJobs now).Obeys (protocol L) l Ends := by
  simp only [recoverMissedJobs, Service.query, Prog.perform, Prog.bind_eq_bind, Prog.bind_call,
    Prog.bind_done_ok, obeys_perform, Op.exec]
  refine ⟨h.1, fun reading s => ?_⟩
  apply (obeys_page (fun row rest count l h => obeys_recoverRow count h) 0 s h).bind
  · rintro l count (h : l.Settled)
    simp only [obeys_perform, Op.exec]
    exact ⟨h.1, fun reading s =>
      obeys_page (fun row rest count l h => obeys_recoverRetryRow count h) count s h⟩
  · rintro l e (h : l.Settled)
    exact h

theorem obeys_recoverAfterGap (now : Int) (last : Option Int) (h : l.Settled) :
    (recoverAfterGap now last).Obeys (protocol L) l Ends := by
  unfold recoverAfterGap
  cases last with
  | none => exact h
  | some last =>
      by_cases hgap : now - last > 25000
      · simp only [hgap, if_true, Service.publish, Prog.perform, Prog.bind_eq_bind,
          Prog.bind_call, Prog.bind_done_ok, obeys_perform, Op.exec]
        exact ⟨trivial, fun _ _ => (obeys_recoverMissedJobs now h).bind
          (fun _ _ hend => hend) (fun _ _ hend => hend)⟩
      · simp only [hgap, if_false]
        exact h

theorem obeys_scheduleWindow (now : Int) (h : l.Settled) :
    (scheduleWindow now).Obeys (protocol L) l Ends := by
  simp only [scheduleWindow, Service.query, Prog.perform, Prog.bind_eq_bind, Prog.bind_call,
    Prog.bind_done_ok, obeys_perform, Op.exec]
  refine ⟨h.1, fun reading s => ?_⟩
  apply (obeys_page (fun row rest _ l h => obeys_schedulePending h) () s h).bind
  · rintro l _ (h : l.Settled)
    simp only [obeys_perform, Op.exec]
    exact ⟨h.1, fun _ s => obeys_page (fun row rest _ l h => obeys_scheduleRetry h) () s h⟩
  · rintro l e (h : l.Settled)
    exact h

theorem obeys_watch : watch.Obeys (protocol L) (init .watch) Ends := by
  simp only [watch, Service.currentTimeMillis, Service.getLastRun, Service.setLastRun,
    Prog.perform, Prog.bind_eq_bind, Prog.bind_call, Prog.bind_done_ok,
    obeys_perform, Op.exec, allows, next, true_and]
  intro reading _ _ s _ _
  apply (obeys_recoverAfterGap reading.millis s.lastRun ⟨rfl, rfl⟩).bind
  · rintro l _ (h : l.Settled)
    exact obeys_scheduleWindow reading.millis h
  · rintro l e (h : l.Settled)
    exact h

/-! ### The calls -/

/-- Every worker call keeps to the protocol. -/
theorem obeys_program {c : Call} (h : c.Works) :
    c.program.Obeys (protocol L) (init c) fun l _ => l.Finished := by
  cases c with
  | createJob request =>
      exact (obeys_createJob request).bind (fun _ _ hend => .inl hend) (fun _ _ hend => .inl hend)
  | watch => exact obeys_watch.mono fun _ _ hend => .inl hend
  | dispatch => exact obeys_dispatch.mono fun _ _ hend => .inl hend
  | consume message => exact (obeys_consume message).mono fun _ _ hend => .inr hend
  | cancelJob _ | triggerRecovery | reconcileRedis | resetCircuit _ | requeueJob _
  | redeliver _ => exact h.elim

end Programs

end Custody

end JobQueue
