import JobQueue.Concurrency.Custody

/-!
# What a call goes by

A call writes about jobs whose rows it was given, by a query, a lookup or the insertion, and
into the status, the retries and the time of the next one only.  `Copies` is the protocol that
says so, and every call obeys it.
-/

namespace JobQueue

open Decimal KafkaConsumerService

/-! ## Copies of a row -/

/-- The columns that only the insertion writes. -/
structure SameOrigin (row job : Job) : Prop where
  id : job.id = row.id
  type : job.type = row.type
  payload : job.payload = row.payload
  email : job.email = row.email
  message : job.message = row.message
  scheduleTime : job.scheduleTime = row.scheduleTime

namespace SameOrigin

variable {row job later : Job}

theorem refl (row : Job) : SameOrigin row row := ⟨rfl, rfl, rfl, rfl, rfl, rfl⟩

theorem trans (h : SameOrigin row job) (h' : SameOrigin job later) : SameOrigin row later where
  id := h'.id.trans h.id
  type := h'.type.trans h.type
  payload := h'.payload.trans h.payload
  email := h'.email.trans h.email
  message := h'.message.trans h.message
  scheduleTime := h'.scheduleTime.trans h.scheduleTime

theorem symm (h : SameOrigin row job) : SameOrigin job row :=
  ⟨h.id.symm, h.type.symm, h.payload.symm, h.email.symm, h.message.symm, h.scheduleTime.symm⟩

end SameOrigin

/-! ## The protocol -/

/-- What a call goes by: the message it was started with and the rows it was given. -/
structure Copies where
  message : Option String
  rows : List Job

namespace Copies

def init : Call → Copies
  | .consume message => ⟨some message, []⟩
  | _ => ⟨none, []⟩

/-- Operations that give a call further rows. -/
def Reads : Op → Prop
  | .findById _ | .query _ | .insert _ => True
  | _ => False

/-- What is written is written about a row that the call was given. -/
def allows (l : Copies) : Op → Prop
  | .insert data => data.retryCount = 0
  | .save job => ∃ row ∈ l.rows, SameOrigin row job ∧ job.retryCount ≤ max row.retryCount MAX_RETRY
  | .scheduleJob id _ => ∃ row ∈ l.rows, row.id = id
  | .sendJob message => ∃ row ∈ l.rows, carries row.id message = true
  | .publish incident => ∀ text, incident.jobId = some text →
      ∃ row ∈ l.rows, carries row.id text = true
  | .execute _ job => ∃ row ∈ l.rows, row.id = job.id
  | _ => True

def next (l : Copies) : (op : Op) → Except JavaException (Reply op) → Copies
  | .findById _, .ok (some row) => { l with rows := row :: l.rows }
  | .query _, .ok rows => { l with rows := rows ++ l.rows }
  | .insert _, .ok row => { l with rows := row :: l.rows }
  | _, _ => l

def protocol (L : Type) [RateLimiter L] : Protocol Op Reply JavaException Copies where
  possible := Possible L
  allows := allows
  next := next

/-- Allowed, and no reading. -/
def Writes (l : Copies) (op : Op) : Prop := l.allows op ∧ ¬ Reads op

/-- Operations on the clocks, the limiter, the circuits, the flags and the delivery. -/
@[reducible] def free : Op → Bool
  | .findById _ | .query _ | .insert _ | .save _ | .scheduleJob _ _ | .sendJob _ | .publish _
  | .execute _ _ => false
  | _ => true

@[simp] theorem writes_of_free {l : Copies} {op : Op} (h : free op = true) : l.Writes op := by
  cases op with
  | findById | query | insert | save | scheduleJob | sendJob | publish | execute => cases h
  | _ => exact ⟨trivial, id⟩

theorem next_of_not_reads {l : Copies} {op : Op} (h : ¬ Reads op)
    (reply : Except JavaException (Reply op)) : l.next op reply = l := by
  cases op with
  | findById | query | insert => exact absurd trivial h
  | _ => rfl

/-- The message stays the one of the start. -/
theorem message_next (l : Copies) (op : Op) (reply : Except JavaException (Reply op)) :
    (l.next op reply).message = l.message := by
  unfold next
  split <;> rfl

/-! ## The programs -/

section Programs

variable {L : Type} [RateLimiter L] {l : Copies} {job : Job} {α : Type}

/-- A program without readings goes by the same rows to its end. -/
theorem obeys_of_writes {p : Service α} (h : p.Only l.Writes) :
    p.Obeys (protocol L) l fun l' _ => l' = l := by
  refine h.obeys (P := protocol L) (· = l) ?_ rfl
  rintro l' op ⟨hallows, hreads⟩ rfl
  exact ⟨hallows, next_of_not_reads hreads⟩

/-- The columns that are written: the status, the retries and the time of the next one. -/
theorem writes_save (h : job ∈ l.rows) (status : JobStatus) {retryCount : Nat}
    (hretries : retryCount ≤ max job.retryCount MAX_RETRY) (nextRetryTime : Option Int) :
    l.Writes (.save { job with status, retryCount, nextRetryTime }) :=
  ⟨⟨job, h, ⟨rfl, rfl, rfl, rfl, rfl, rfl⟩, hretries⟩, id⟩

theorem writes_saveStatus (h : job ∈ l.rows) (status : JobStatus) :
    l.Writes (.save { job with status }) :=
  writes_save h status (le_max_left _ _) job.nextRetryTime

theorem writes_scheduleJob (h : job ∈ l.rows) (time : Int) :
    l.Writes (.scheduleJob job.id time) :=
  ⟨⟨job, h, rfl⟩, id⟩

theorem writes_publish (h : job ∈ l.rows) {incident : Incident}
    (hjob : incident.jobId = some (longToString job.id)) : l.Writes (.publish incident) := by
  refine ⟨fun text htext => ⟨job, h, ?_⟩, id⟩
  rw [hjob] at htext
  rw [← Option.some.inj htext, carries_longToString]
  exact decide_eq_true rfl

/-! ### The consumer -/

theorem only_countFailure (h : job ∈ l.rows) (now : Int) (e : JavaException) :
    (countFailure now job e).Only l.Writes := by
  have hpublish : ∀ failures, l.Writes (.publish (circuitTriggeredIncident job e failures)) :=
    fun _ => writes_publish h rfl
  simp only [countFailure, Service.incrementFailureCount, Service.setLastFailureTime,
    Prog.perform, Prog.bind_eq_bind, Prog.bind_call, Prog.only_call, Prog.only_done_bind]
  refine ⟨writes_of_free rfl, fun failures => ⟨writes_of_free rfl, fun _ => ?_⟩⟩
  split_ifs <;> simp [free, hpublish]

theorem writes_failedRow (h : job ∈ l.rows) (now : Int) :
    l.Writes (.save (failedRow job now)) := by
  unfold failedRow
  split_ifs with hexhausted
  · exact writes_saveStatus h .failed
  · refine writes_save h .retry ?_ _
    show job.retryCount + 1 ≤ max job.retryCount MAX_RETRY
    omega

theorem only_catchBlock (h : job ∈ l.rows) (now : Int) (e : JavaException) :
    (catchBlock now job e).Only l.Writes := by
  have hpublish : l.Writes (.publish (exhaustedIncident job e)) := writes_publish h rfl
  refine (only_countFailure h now e).bind fun _ => ?_
  simp only [Prog.bind_eq_bind, Service.save, Prog.perform, Prog.bind_call, Prog.only_call,
    Prog.only_done_bind]
  refine ⟨writes_failedRow h now, fun _ => ?_⟩
  split_ifs <;> simp [hpublish]

theorem only_tryBlock (h : job ∈ l.rows) : (tryBlock job).Only l.Writes := by
  unfold tryBlock ExecutorFactory.getExecutor
  split_ifs
  · simp [free]
  · cases ExecutorFactory.resolve job.type with
    | none => simp [writes_saveStatus h]
    | some executor =>
        have hexecute : ∀ row : Job, row.id = job.id → l.Writes (.execute executor row) :=
          fun row hid => ⟨⟨job, h, hid.symm⟩, id⟩
        simp [free, writes_saveStatus h, hexecute]

theorem only_attempt (h : job ∈ l.rows) (now : Int) : (attempt now job).Only l.Writes := by
  have hcatch : ∀ e, ((catchBlock now job e).bind fun _ => .done (.ok false)).Only l.Writes :=
    fun e => (only_catchBlock h now e).bind fun _ => trivial
  refine ((only_tryBlock h).tryCatch hcatch).bind fun returned => ?_
  split_ifs <;> simp [free]

theorem only_guardCircuit (h : job ∈ l.rows) (now : Int) :
    (guardCircuit now job).Only l.Writes := by
  have hpublish : l.Writes (.publish (circuitOpenIncident job)) := writes_publish h rfl
  have hdefer : (deferCircuitOpen now job).Only l.Writes := by
    simp [deferCircuitOpen, deferred, free, hpublish, writes_save h]
  simp only [guardCircuit, Service.isCircuitOpen, Prog.perform, Prog.bind_eq_bind,
    Prog.bind_call, Prog.only_call, Prog.only_done_bind]
  refine ⟨writes_of_free rfl, fun isOpen => ?_⟩
  split_ifs
  · refine ⟨writes_of_free rfl, fun reply => ?_⟩
    cases reply with
    | error e => trivial
    | ok lastFailure =>
        dsimp only [Prog.bind_done_ok]
        split_ifs
        · exact hdefer
        · refine ⟨writes_of_free rfl, fun reply => ?_⟩
          cases reply with
          | error e => trivial
          | ok _ => exact only_attempt h now
  · exact only_attempt h now

theorem only_consumeJob (h : job ∈ l.rows) : (consumeJob job).Only l.Writes := by
  have hpublish : l.Writes (.publish (rateLimitedIncident job)) := writes_publish h rfl
  have hdefer : (deferRateLimited job).Only l.Writes := by
    simp [deferRateLimited, deferred, free, hpublish, writes_save h]
  simp only [consumeJob, Service.isCancelled, Prog.perform, Prog.bind_eq_bind, Prog.bind_call,
    Prog.only_call, Prog.only_done_bind]
  refine ⟨writes_of_free rfl, fun cancelled => ?_⟩
  split_ifs
  · simp [free, writes_saveStatus h]
  · simp only [Service.currentTimeMillis, Service.allow, Prog.perform, Prog.bind_call,
      Prog.only_call, Prog.only_done_bind]
    refine ⟨writes_of_free rfl, fun now => ⟨writes_of_free rfl, fun allowed => ?_⟩⟩
    split_ifs
    · exact only_guardCircuit h now
    · exact hdefer

/-- A row that was read is handed on. -/
theorem obeys_findById {id : Int} {f : Option Job → Service α}
    (hnone : (f none).Obeys (protocol L) l fun _ _ => True)
    (hsome : ∀ row, row.id = id →
      (f (some row)).Obeys (protocol L) { l with rows := row :: l.rows } fun _ _ => True) :
    (Service.findById id >>= f).Obeys (protocol L) l fun _ _ => True := by
  refine ⟨trivial, ?_⟩
  rintro reply ⟨reading, s, rfl⟩
  show (f (s.jobs.findById id)).Obeys (protocol L)
    (l.next (.findById id) (.ok (s.jobs.findById id))) _
  cases hrow : s.jobs.findById id with
  | none => exact hnone
  | some row => exact hsome row (JobTable.id_of_findById hrow)

theorem obeys_query {q : JobQuery} {f : List Job → Service α}
    (h : ∀ rows, (f rows).Obeys (protocol L) { l with rows := rows ++ l.rows } fun _ _ => True) :
    (Service.query q >>= f).Obeys (protocol L) l fun _ _ => True := by
  refine ⟨trivial, ?_⟩
  rintro reply ⟨reading, s, rfl⟩
  exact h _

/-- A program without readings, and what comes after it. -/
theorem obeys_writes_bind {β : Type} {p : Service α} {f : α → Service β} (h : p.Only l.Writes)
    (hf : ∀ a, (f a).Obeys (protocol L) l fun _ _ => True) :
    (p >>= f).Obeys (protocol L) l fun _ _ => True := by
  refine (obeys_of_writes (L := L) h).bind ?_ fun _ _ _ => trivial
  rintro l' a rfl
  exact hf a

theorem obeys_writes {p : Service α} (h : p.Only l.Writes) :
    p.Obeys (protocol L) l fun _ _ => True :=
  (obeys_of_writes h).mono fun _ _ _ => trivial

theorem obeys_consume (message : String) :
    (consume message).Obeys (protocol L) l fun _ _ => True := by
  unfold consume
  cases parseLong message with
  | none => exact obeys_writes (by simp [free])
  | some jobId =>
      refine obeys_findById ?_ fun row hrow => ?_
      · exact obeys_writes (by simp [free])
      · exact obeys_writes (only_consumeJob List.mem_cons_self)

/-! ### The other calls -/

section Loops

open WatcherService

theorem only_scheduleJobAt (h : job ∈ l.rows) (time : Option Int) :
    (Service.scheduleJobAt job.id time).Only l.Writes := by
  cases time with
  | none => trivial
  | some time => exact ⟨writes_scheduleJob h time, fun _ => trivial⟩

theorem only_recoverRow (h : job ∈ l.rows) (count : Nat) :
    (recoverRow job count).Only l.Writes := by
  unfold recoverRow
  split_ifs <;> simp [writes_scheduleJob h, writes_saveStatus h]

theorem only_recoverRetryRow (h : job ∈ l.rows) (count : Nat) :
    (recoverRetryRow job count).Only l.Writes := by
  unfold recoverRetryRow
  split_ifs
  · trivial
  · refine (only_scheduleJobAt h job.nextRetryTime).bind fun _ => ?_
    simp [writes_saveStatus h]

theorem only_schedulePending (h : job ∈ l.rows) : (schedulePending job).Only l.Writes := by
  unfold schedulePending
  split_ifs <;> simp [writes_scheduleJob h, writes_saveStatus h]

theorem only_scheduleRetry (h : job ∈ l.rows) : (scheduleRetry job).Only l.Writes := by
  unfold scheduleRetry
  split_ifs
  · trivial
  · refine ⟨writes_saveStatus h .scheduled, fun reply => ?_⟩
    cases reply with
    | error e => trivial
    | ok _ => exact only_scheduleJobAt h job.nextRetryTime

theorem only_reinsertOverdue (h : job ∈ l.rows) (tally : AdminService.Tally) :
    (AdminService.reinsertOverdue job tally).Only l.Writes := by
  unfold AdminService.reinsertOverdue
  split_ifs <;> simp [writes_scheduleJob h]

theorem only_requeueRetry (h : job ∈ l.rows) (tally : AdminService.Tally) :
    (AdminService.requeueRetry job tally).Only l.Writes := by
  unfold AdminService.requeueRetry
  split_ifs
  · trivial
  · refine ⟨writes_saveStatus h .scheduled, fun reply => ?_⟩
    cases reply with
    | error e => trivial
    | ok _ => exact (only_scheduleJobAt h job.nextRetryTime).bind fun _ => trivial

/-- A loop over rows of the call, whose body goes by the row it is given. -/
theorem only_foldEach {γ : Type} {body : Job → γ → Service γ} {rows : List Job}
    (hrows : ∀ row ∈ rows, row ∈ l.rows)
    (hbody : ∀ row ∈ l.rows, ∀ acc, (body row acc).Only l.Writes) (acc : γ) :
    (Prog.foldEach body rows acc).Only l.Writes :=
  Prog.Only.foldEach_of_mem (fun row hrow acc => hbody row (hrows row hrow) acc) acc

/-- A page and a loop over it. -/
theorem obeys_page {γ : Type} {q : JobQuery} {body : Job → γ → Service γ}
    (hbody : ∀ (l : Copies), ∀ row ∈ l.rows, ∀ acc, (body row acc).Only l.Writes) (acc : γ) :
    (Service.query q >>= fun rows => Prog.foldEach body rows acc).Obeys (protocol L) l
      fun _ _ => True := by
  refine obeys_query fun rows => obeys_writes (only_foldEach ?_ (hbody _) acc)
  exact fun row hrow => List.mem_append_left _ hrow

/-- A page, a loop over it, and what goes by whatever rows there are then. -/
theorem obeys_page_bind {γ : Type} {q : JobQuery} {body : Job → γ → Service γ} {f : γ → Service α}
    (hbody : ∀ (l : Copies), ∀ row ∈ l.rows, ∀ acc, (body row acc).Only l.Writes) (acc : γ)
    (hf : ∀ (l : Copies) acc, (f acc).Obeys (protocol L) l fun _ _ => True) :
    (Service.query q >>= fun rows => Prog.foldEach body rows acc >>= f).Obeys (protocol L) l
      fun _ _ => True := by
  refine obeys_query fun rows => obeys_writes_bind (only_foldEach ?_ (hbody _) acc) (hf _)
  exact fun row hrow => List.mem_append_left _ hrow

theorem obeys_recoverMissedJobs (now : Int) :
    (recoverMissedJobs now).Obeys (protocol L) l fun _ _ => True := by
  refine obeys_page_bind (fun _ _ hrow count => only_recoverRow hrow count) 0 fun l count => ?_
  exact obeys_page (fun _ _ hrow count => only_recoverRetryRow hrow count) count

/-- Two programs. -/
theorem obeys_bind {β : Type} {p : Service α} {f : α → Service β}
    (hp : p.Obeys (protocol L) l fun _ _ => True)
    (hf : ∀ (l : Copies) a, (f a).Obeys (protocol L) l fun _ _ => True) :
    (p >>= f).Obeys (protocol L) l fun _ _ => True :=
  hp.bind (fun l a _ => hf l a) fun _ _ _ => trivial

theorem obeys_recoverAfterGap (now : Int) (last : Option Int) :
    (recoverAfterGap now last).Obeys (protocol L) l fun _ _ => True := by
  cases last with
  | none => trivial
  | some last =>
      unfold recoverAfterGap
      dsimp only
      split_ifs
      · have hpublish : (Service.publish (gapIncident now last)).Only l.Writes :=
          ⟨⟨nofun, id⟩, fun _ => trivial⟩
        refine obeys_writes_bind hpublish fun _ => ?_
        exact obeys_bind (obeys_recoverMissedJobs now) fun _ _ => trivial
      · trivial

theorem only_free {op : Op} (h : free op = true) : (Prog.perform op : Service _).Only l.Writes :=
  ⟨writes_of_free h, fun _ => trivial⟩

theorem obeys_watch : watch.Obeys (protocol L) l fun _ _ => True := by
  refine obeys_writes_bind (only_free rfl) fun now => ?_
  refine obeys_writes_bind (only_free rfl) fun last => ?_
  refine obeys_writes_bind (only_free rfl) fun _ => ?_
  refine obeys_bind (obeys_recoverAfterGap now last) fun l _ => ?_
  refine obeys_page_bind (fun _ _ hrow _ => only_schedulePending hrow) () fun l _ => ?_
  exact obeys_page (fun _ _ hrow _ => only_scheduleRetry hrow) ()

theorem obeys_recoverWatcher :
    AdminService.recoverWatcher.Obeys (protocol L) l fun _ _ => True := by
  have htrigger : triggerRecovery.Obeys (protocol L) l fun _ _ => True :=
    obeys_writes_bind (only_free rfl) fun now => obeys_recoverMissedJobs now
  exact obeys_bind htrigger fun _ _ => trivial

theorem obeys_reconcileRedis :
    AdminService.reconcileRedis.Obeys (protocol L) l fun _ _ => True := by
  refine obeys_writes_bind (only_free rfl) fun now => ?_
  refine obeys_page_bind (fun _ _ hrow tally => only_reinsertOverdue hrow tally) _
    fun l tally => ?_
  exact obeys_page_bind (fun _ _ hrow tally => only_requeueRetry hrow tally) tally
    fun _ _ => trivial

end Loops

/-- What is sent for a row that was found under the id that a text has. -/
theorem writes_sendJob (h : job ∈ l.rows) {message : String}
    (hmessage : parseLong message = some job.id) : l.Writes (.sendJob message) :=
  ⟨⟨job, h, decide_eq_true hmessage⟩, id⟩

theorem obeys_dispatchOne (jobIdStr : String) :
    (RedisDispatcherService.dispatchOne jobIdStr).Obeys (protocol L) l fun _ _ => True := by
  have hprocess : (RedisDispatcherService.process jobIdStr).Obeys (protocol L) l
      fun _ _ => True := by
    unfold RedisDispatcherService.process
    cases hparse : parseLong jobIdStr with
    | none => trivial
    | some jobId =>
        refine obeys_findById ?_ fun row hid => ?_
        · exact obeys_writes (by simp [free])
        · apply obeys_writes
          have hmem : row ∈ (row :: l.rows) := List.mem_cons_self
          have hsend := writes_sendJob (l := ⟨l.message, row :: l.rows⟩) hmem
            (by rw [hparse, hid] : parseLong jobIdStr = some row.id)
          have hsave := writes_saveStatus (l := ⟨l.message, row :: l.rows⟩) hmem .queued
          dsimp only
          split_ifs <;> simp [free, hsend, hsave]
  exact hprocess.tryCatch (fun _ _ _ => trivial) fun _ _ _ => trivial

theorem obeys_dispatch :
    RedisDispatcherService.dispatch.Obeys (protocol L) l fun _ _ => True := by
  refine obeys_writes_bind (only_free rfl) fun now => ?_
  refine obeys_writes_bind (only_free rfl) fun jobIds => ?_
  exact (Prog.Obeys.forEach (fun _ _ => True) (fun _ _ _ => trivial)
    (fun jobIdStr _ _ _ => obeys_dispatchOne jobIdStr) trivial).mono fun _ _ _ => trivial

theorem obeys_requeueJob (jobId : Int) :
    (AdminService.requeueJob jobId).Obeys (protocol L) l fun _ _ => True := by
  refine obeys_findById trivial fun row hid => obeys_writes ?_
  have hmem : row ∈ (row :: l.rows) := List.mem_cons_self
  have hsend := writes_sendJob (l := ⟨l.message, row :: l.rows⟩) hmem
    (by rw [hid, parseLong_longToString] : parseLong (longToString jobId) = some row.id)
  have hsave := writes_saveStatus (l := ⟨l.message, row :: l.rows⟩) hmem .queued
  dsimp only
  split_ifs
  · trivial
  · simp [hsend, hsave]

theorem only_scheduleTime (request : JobRequest) :
    (JobService.scheduleTime request).Only l.Writes := by
  unfold JobService.scheduleTime
  cases request.time with
  | none => exact only_free rfl
  | some time =>
      dsimp only
      split_ifs
      · exact only_free rfl
      · unfold JobService.scheduleTimeAt
        cases JobService.parseTime time with
        | error e => trivial
        | ok fields => simp [free]

theorem only_route (h : job ∈ l.rows) : (JobService.route job).Only l.Writes := by
  have hsend := writes_sendJob h (parseLong_longToString job.id)
  unfold JobService.route
  simp only [Service.currentTimeMillis, Prog.perform, Prog.bind_eq_bind, Prog.bind_call,
    Prog.only_call, Prog.only_done_bind]
  refine ⟨writes_of_free rfl, fun now => ?_⟩
  split_ifs
  · simp [JobService.sendNow, hsend, writes_saveStatus h]
  · trivial

theorem obeys_createJob (request : JobRequest) :
    (JobService.createJob request).Obeys (protocol L) l fun _ _ => True := by
  refine obeys_writes_bind (only_scheduleTime request) fun time => ⟨rfl, ?_⟩
  rintro reply ⟨reading, s, rfl⟩
  exact obeys_writes (only_route List.mem_cons_self)

/-- Every call goes by the rows it was given. -/
theorem obeys_program (c : Call) :
    c.program.Obeys (protocol L) (init c) fun _ _ => True := by
  cases c with
  | createJob request => exact obeys_bind (obeys_createJob request) fun _ _ => trivial
  | cancelJob id => exact obeys_writes (only_free rfl)
  | watch => exact obeys_watch
  | triggerRecovery => exact obeys_bind obeys_recoverWatcher fun _ _ => trivial
  | reconcileRedis => exact obeys_bind obeys_reconcileRedis fun _ _ => trivial
  | dispatch => exact obeys_dispatch
  | resetCircuit type =>
      have hreset : (KafkaConsumerService.resetCircuit type).Only
          (init (.resetCircuit type)).Writes := by
        simp [KafkaConsumerService.resetCircuit, free]
      have hadmin : (AdminService.resetCircuit type).Only (init (.resetCircuit type)).Writes :=
        hreset.bind fun _ => trivial
      have hprogram : (Call.resetCircuit type).program.Only (init (.resetCircuit type)).Writes :=
        hadmin.bind fun _ => trivial
      exact obeys_writes hprogram
  | requeueJob id => exact obeys_bind (obeys_requeueJob id) fun _ _ => trivial
  | consume message => exact obeys_consume message
  | redeliver message => exact obeys_consume message

end Programs

end Copies

end JobQueue
