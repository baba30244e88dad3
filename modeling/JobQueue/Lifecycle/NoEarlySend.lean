import JobQueue.Lib.Trace
import JobQueue.Lifecycle.Carrier

/-!
# No job runs early

A message for a job is sent by `createJob`, for a job that is due within a
minute, and by `dispatch`, for a job whose score has come.  The score of a job
that was never sent is its schedule time, whichever pass wrote it, and the clock
does not go back, so no later score can bring a message before the first one.
-/

namespace JobQueue

open Call JobService KafkaConsumerService

variable {L : Type} [RateLimiter L]

/-! ## The messages of a call -/

/-- The message an operation sends. -/
def Op.messages : Op → List String
  | .sendJob message => [message]
  | _ => []

/-- The messages a method sends when it is called, each with the millisecond of
the send. -/
def Service.sends {α : Type} (service : Service α) (env : CallEnv) (store : State L × Nat) :
    List (String × Int) :=
  (Prog.trace env.handle service store).flatMap fun entry =>
    entry.1.messages.map fun message => (message, env.millis entry.2.2)

/-- What a method sends ends up among the messages ever sent. -/
theorem Service.sent_run {α : Type} (service : Service α) (env : CallEnv)
    (store : State L × Nat) :
    (Prog.run env.handle service store).2.1.sent =
      store.1.sent ++ (service.sends env store).map Prod.fst := by
  have hlog : ∀ op (store : State L × Nat),
      (env.handle op store).2.1.sent = store.1.sent ++ op.messages := by
    intro op store
    cases op with
    | sendJob message => rfl
    | execute executor job =>
        simp only [CallEnv.handle, Op.exec, Op.messages, List.append_nil]
        cases (env.reading store.2).outcome <;> rfl
    | _ => exact (List.append_nil _).symm
  rw [Prog.log_run env.handle (fun store : State L × Nat => store.1.sent)
    (fun op _ => op.messages) hlog, Service.sends, List.map_flatMap]
  simp [Function.comp_def]

/-- Nothing is sent before the clock reading that precedes the call. -/
theorem Service.millis_le_of_sends {α : Type} {service : Service α} {env : CallEnv}
    (hclock : Monotone env.clock) {s : State L} {k : Nat} {message : String} {time : Int}
    (h : (message, time) ∈ service.sends env (s, k)) : env.millis k ≤ time := by
  have hkeep : ∀ op (store : State L × Nat), k ≤ store.2 → k ≤ (env.handle op store).2.2 := by
    intro op store hle
    simp only [CallEnv.handle]
    split_ifs <;> omega
  obtain ⟨entry, hentry, hsend⟩ := List.mem_flatMap.mp h
  obtain ⟨_, -, heq⟩ := List.mem_map.mp hsend
  have hle : k ≤ entry.2.2 :=
    (Prog.trace_invariant env.handle (fun store : State L × Nat => k ≤ store.2) hkeep service
      le_rfl).1 entry hentry
  rw [← (Prod.mk.inj heq).2]
  exact Int.ediv_le_ediv (by decide) (hclock hle)

namespace Call

/-- The messages of a whole call. -/
def sends (c : Call) (env : CallEnv) (s : State L) : List (String × Int) :=
  c.program.sends env (c.deliver s, 0)

/-- The messages of one call after the other. -/
def sendsAll : List (Call × CallEnv) → State L → List (String × Int)
  | [], _ => []
  | (c, env) :: rest, s => c.sends env s ++ sendsAll rest (c.exec env s)

theorem sent_exec (c : Call) (env : CallEnv) (s : State L) :
    (c.exec env s).sent = s.sent ++ (c.sends env s).map Prod.fst := by
  rw [← c.sent_deliver s]
  exact Service.sent_run c.program env (c.deliver s, 0)

theorem sent_execAll (labels : List (Call × CallEnv)) (s : State L) :
    (execAll labels s).sent = s.sent ++ (sendsAll labels s).map Prod.fst := by
  induction labels generalizing s with
  | nil => exact (List.append_nil _).symm
  | cons label rest ih =>
      rw [execAll, ih, sent_exec, sendsAll, List.map_append, List.append_assoc]

theorem sendsAll_append (first second : List (Call × CallEnv)) (s : State L) :
    sendsAll (first ++ second) s = sendsAll first s ++ sendsAll second (execAll first s) := by
  induction first generalizing s with
  | nil => rfl
  | cons label rest ih => rw [List.cons_append, sendsAll, ih, sendsAll, List.append_assoc]; rfl

/-- A job for which a call has sent a message has been sent. -/
theorem sent_pos_exec {c : Call} {env : CallEnv} {s : State L} {id : Int} {message : String}
    {time : Int} (h : (message, time) ∈ c.sends env s) (hcarries : carries id message = true) :
    0 < ((c.exec env s).view id).sent := by
  refine List.countP_pos_iff.mpr ⟨message, ?_, hcarries⟩
  rw [sent_exec]
  exact List.mem_append_right _ (List.mem_map.mpr ⟨_, h, rfl⟩)

/-- A job for which a message was sent has been sent. -/
theorem sent_pos {labels : List (Call × CallEnv)} {s : State L} {id : Int} {message : String}
    {time : Int} (h : (message, time) ∈ sendsAll labels s) (hcarries : carries id message = true) :
    0 < ((execAll labels s).view id).sent := by
  refine List.countP_pos_iff.mpr ⟨message, ?_, hcarries⟩
  rw [sent_execAll]
  exact List.mem_append_right _ (List.mem_map.mpr ⟨_, h, rfl⟩)

/-- A method that sends nothing on its way leaves no trace of a send. -/
theorem sends_eq_nil_of_sent {α : Type} {service : Service α} {env : CallEnv}
    {store : State L × Nat}
    (h : (Prog.run env.handle service store).2.1.sent = store.1.sent) :
    service.sends env store = [] := by
  rw [Service.sent_run] at h
  exact List.map_eq_nil_iff.mp (List.append_right_eq_self.mp h)

/-- A call of `createJob` either changes nothing, or inserts a row and routes it;
what it sends is sent after the clock reading of the routing. -/
theorem createJob_cases (request : JobRequest) {env : CallEnv} (hclock : Monotone env.clock)
    (s : State L) :
    (createJob request).exec env s = s ∨
      ∃ time k, (createJob request).exec env s = createEffect request time (env.millis k) s ∧
        ∀ message sent, (message, sent) ∈ (createJob request).sends env s →
          env.millis k ≤ sent := by
  obtain ⟨result, k, htime⟩ := run_scheduleTime env request s 0
  cases result with
  | error e =>
      left
      rw [exec, program, call_discard, Service.call]
      have hrun : Prog.run env.handle (JobService.createJob request) (s, 0) =
          (.error e, (s, k)) := Prog.run_bind_error env.handle htime
      exact congrArg (fun result => result.2.1) hrun
  | ok time =>
      right
      let rest : Service Job := do
        let saved ← Service.insert (newJob request time)
        route saved
      have hrun : Prog.run env.handle (JobService.createJob request) (s, 0) =
          Prog.run env.handle rest (s, k) := Prog.run_bind_ok env.handle htime
      have hroute := run_route env { newJob request time with id := s.jobs.nextId }
        (s.insertJob (newJob request time)) k
      refine ⟨time, k, ?_, fun message sent hsend => ?_⟩
      · rw [exec, program, call_discard, Service.call]
        exact (congrArg (fun result => result.2.1) hrun).trans (congrArg Prod.fst hroute)
      · -- up to the insertion nothing is sent, so every send comes after the reading
        have hquiet : (scheduleTime request).sends env (s, 0) = [] :=
          sends_eq_nil_of_sent (by rw [htime])
        have htrace : Prog.trace env.handle (createJob request).program (s, 0) =
            Prog.trace env.handle (scheduleTime request) (s, 0) ++
              Prog.trace env.handle rest (s, k) :=
          (Prog.trace_discard env.handle _ _).trans (Prog.trace_bind_ok env.handle htime)
        change (message, sent) ∈ (createJob request).program.sends env (s, 0) at hsend
        rw [Service.sends, htrace, List.flatMap_append] at hsend
        rw [Service.sends] at hquiet
        rw [hquiet] at hsend
        exact Service.millis_le_of_sends hclock hsend

end Call

/-! ## Times in the life of a job -/

namespace JobView

/-- The schedule time of the row, if there is a row. -/
def scheduleTime? (v : JobView) : Option Int := v.row.map fun job => job.scheduleTime

@[simp] theorem scheduleTime?_withStatus (v : JobView) (status : JobStatus) :
    (v.withStatus status).scheduleTime? = v.scheduleTime? := by
  cases hrow : v.row <;> simp [withStatus, scheduleTime?, hrow]

end JobView

theorem scheduleTime_failedRow (job : Job) (now : Int) :
    (failedRow job now).scheduleTime = job.scheduleTime := by
  unfold failedRow
  split_ifs <;> rfl

/-- The schedule time of a job never changes. -/
theorem Move.scheduleTime?_kept {m : Move} {v : JobView} {id time : Int} (henabled : m.Enabled v)
    (h : v.scheduleTime? = some time) : (m.apply id v).scheduleTime? = some time := by
  obtain ⟨job, hrow, rfl⟩ := Option.map_eq_some_iff.mp h
  cases m with
  | create data =>
      rw [henabled.1] at hrow
      cases hrow
  | consume delivery outcome =>
      cases outcome <;>
        simp [Move.apply, Outcome.apply, JobView.scheduleTime?, JobView.withStatus, hrow, deferred,
          scheduleTime_failedRow]
  | sendNow | requestCancel | schedule | scheduleRetry | reinsert | dispatch | drop | requeue =>
      simp [Move.apply, JobView.scheduleTime?, JobView.withStatus, JobView.withMessage, hrow]

/-- Messages are only added. -/
theorem Move.sent_le (id : Int) (m : Move) (v : JobView) : v.sent ≤ (m.apply id v).sent := by
  cases m with
  | consume delivery outcome => cases outcome <;> exact le_rfl
  | sendNow | dispatch | requeue => exact Nat.le_succ v.sent
  | create | requestCancel | schedule | scheduleRetry | reinsert | drop => exact le_rfl

/-- Until its first message a job has no retry time and can have no score but
its schedule time; from then on its schedule time is past, up to `slack`. -/
structure Timely (slack now : Int) (v : JobView) : Prop where
  absent : v.row = none → v.sent = 0 ∧ v.score = none
  delivered : v.inFlight ≤ v.sent
  pending : v.status? = some .pending → v.sent = 0
  retryTime : v.sent = 0 → v.retryTime? = none
  score : v.sent = 0 → ∀ score, v.score = some score → v.scheduleTime? = some score
  sent : 0 < v.sent → ∀ time, v.scheduleTime? = some time → time - slack ≤ now

namespace Timely

variable {slack now : Int} {v : JobView} {id : Int}

theorem later {now' : Int} (h : Timely slack now v) (hle : now ≤ now') : Timely slack now' v :=
  { h with sent := fun hsent time htime => (h.sent hsent time htime).trans hle }

/-- A job that was sent before stays timely whatever happens to it. -/
theorem of_sent (h : Timely slack now v) (hsent : 0 < v.sent) {w : JobView}
    (hrow : w.row ≠ none) (hin : w.inFlight ≤ w.sent) (hle : v.sent ≤ w.sent)
    (hpending : w.status? ≠ some .pending)
    (htime : w.scheduleTime? = v.scheduleTime?) : Timely slack now w := by
  have hpos : w.sent ≠ 0 := by omega
  refine ⟨fun hnone => absurd hnone hrow, hin, fun h => absurd h hpending,
    fun hzero => absurd hzero hpos, fun hzero => absurd hzero hpos, fun _ time hw => ?_⟩
  exact h.sent hsent time (htime ▸ hw)

/-- A message is sent for a job whose schedule time has come, up to `slack`. -/
theorem withMessage (h : Timely slack now v) {status : JobStatus} (hstatus : status ≠ .pending)
    {w : JobView} (hw : w.row = (v.withStatus status).row) (hrow : v.row ≠ none)
    (hin : w.inFlight = v.inFlight + 1) (hsent : w.sent = v.sent + 1)
    (hdue : ∀ time, v.scheduleTime? = some time → time - slack ≤ now) : Timely slack now w := by
  obtain ⟨job, hv⟩ := Option.ne_none_iff_exists'.mp hrow
  have hrow' : w.row = some { job with status := status } := by
    simp [hw, JobView.withStatus, hv]
  have hdelivered := h.delivered
  refine ⟨by simp [hrow'], by omega, ?_, by omega, by omega, fun _ time htime => ?_⟩
  · simp [JobView.status?, hrow', hstatus]
  · refine hdue time ?_
    rw [← htime]
    simp [JobView.scheduleTime?, hrow', hv]

/-- A delivery of a message that was sent, for the first time or again. -/
theorem consume (h : Timely slack now v) (hsent : 0 < v.sent) {delivery : Delivery}
    {outcome : Outcome} (henabled : (Move.consume delivery outcome).Enabled v) :
    Timely slack now ((Move.consume delivery outcome).apply id v) := by
  have hdelivered := h.delivered
  obtain ⟨job, hrow⟩ := Option.ne_none_iff_exists'.mp fun hnone => hsent.ne' (h.absent hnone).1
  have htime : v.scheduleTime? = some job.scheduleTime := by simp [JobView.scheduleTime?, hrow]
  have hkept : ((Move.consume delivery outcome).apply id v).scheduleTime? = v.scheduleTime? :=
    (Move.scheduleTime?_kept henabled htime).trans htime.symm
  have hsame : (outcome.apply v).sent = v.sent := by cases outcome <;> rfl
  have hrow' : (outcome.apply v).row ≠ none := by
    cases outcome <;> simp [Outcome.apply, JobView.withStatus, hrow]
  have hstatus : (outcome.apply v).status? ≠ some .pending := by
    cases outcome with
    | honour time => simp [Outcome.apply, JobView.withStatus, JobView.status?, hrow]
    | defer time => simp [Outcome.apply, JobView.status?, hrow, deferred]
    | ignore => exact fun hpending => hsent.ne' (h.pending hpending)
    | complete => simp [Outcome.apply, JobView.withStatus, JobView.status?, hrow]
    | fail time =>
        rcases failedRow_cases job time with hs | ⟨hs, -⟩ <;>
          simp [Outcome.apply, JobView.status?, hrow, hs]
  refine h.of_sent hsent hrow' ?_ hsame.ge hstatus hkept
  show v.inFlight - delivery.taken ≤ (outcome.apply v).sent
  omega

/-- Every move keeps the times, when what it sends is due. -/
theorem move (m : Move) (hrequeue : m ≠ .requeue) (henabled : m.Enabled v) (hslack : 0 ≤ slack)
    (hsendNow : m = .sendNow → ∀ time, v.scheduleTime? = some time → time - slack ≤ now)
    (hdispatch : ∀ time, m = .dispatch time → time ≤ now)
    (hagain : ∀ outcome, m = .consume .again outcome → 0 < v.sent)
    (h : Timely slack now v) : Timely slack now (m.apply id v) := by
  cases m with
  | create data =>
      obtain ⟨hnone, -, hretry⟩ := henabled
      obtain ⟨hsent, hscore⟩ := h.absent hnone
      exact ⟨by simp [Move.apply], h.delivered, fun _ => hsent,
        fun _ => by simp [Move.apply, JobView.retryTime?, hretry],
        fun _ score hs => by simp [Move.apply, hscore] at hs,
        fun hpos => absurd hsent hpos.ne'⟩
  | sendNow =>
      obtain ⟨job, hrow, -⟩ := JobView.exists_row henabled
      exact h.withMessage (by decide) rfl (by simp [hrow]) rfl rfl (hsendNow rfl)
  | requestCancel deadline =>
      exact ⟨h.absent, h.delivered, h.pending, h.retryTime, h.score, h.sent⟩
  | schedule =>
      obtain ⟨job, hrow, -⟩ := JobView.exists_row henabled
      have hsent := h.pending henabled
      refine ⟨by simp [Move.apply, JobView.withStatus, hrow], h.delivered,
        fun _ => hsent, fun _ => ?_, fun _ score hs => ?_, fun hpos => absurd hsent hpos.ne'⟩
      · exact (JobView.retryTime?_withStatus v .scheduled).trans (h.retryTime hsent)
      · exact (JobView.scheduleTime?_withStatus v .scheduled).trans hs
  | scheduleRetry =>
      obtain ⟨hstatus, hretry⟩ := henabled
      obtain ⟨job, hrow, -⟩ := JobView.exists_row hstatus
      have hpos : 0 < v.sent := Nat.pos_of_ne_zero fun hzero => hretry (h.retryTime hzero)
      exact h.of_sent hpos (by simp [Move.apply, JobView.withStatus, hrow]) h.delivered le_rfl
        (by simp [Move.apply, JobView.withStatus, JobView.status?, hrow])
        (JobView.scheduleTime?_withStatus v .scheduled)
  | reinsert time => exact ⟨fun hnone => by
      obtain ⟨hstatus, -⟩ := henabled
      obtain ⟨job, hrow, -⟩ := JobView.exists_row hstatus
      simp [Move.apply, hrow] at hnone,
      h.delivered, h.pending, h.retryTime, fun _ score hs => hs, h.sent⟩
  | dispatch time =>
      obtain ⟨hstatus, score, hscore, -, hdue⟩ := henabled
      obtain ⟨job, hrow, -⟩ := JobView.exists_row hstatus
      have hnow := hdispatch time rfl
      refine h.withMessage (by decide) rfl (by simp [hrow]) rfl rfl fun scheduled hs => ?_
      by_cases hsent : v.sent = 0
      · -- the first message of the job: its score is the schedule time
        have heq := (h.score hsent score hscore).symm.trans hs
        have := Option.some.inj heq
        omega
      · exact h.sent (Nat.pos_of_ne_zero hsent) scheduled hs
  | drop time =>
      exact ⟨fun hnone => ⟨(h.absent hnone).1, rfl⟩, h.delivered, h.pending, h.retryTime,
        fun _ score hs => by simp [Move.apply] at hs, h.sent⟩
  | requeue => exact absurd rfl hrequeue
  | consume delivery outcome =>
      cases delivery with
      | again => exact h.consume (hagain outcome rfl) henabled
      | first =>
          have hpos : 1 ≤ v.inFlight := henabled.1
          exact h.consume (hpos.trans h.delivered) henabled

end Timely

/-! ## Runs -/

section Runs

variable {slack id : Int} {s t : Timed L} {labels : List (Call × CallEnv)}

theorem state_of_run (hrun : Run NoRequeueStep s labels t) :
    t.state = execAll labels s.state :=
  state_of_timedCallRun (hrun.mono fun _ _ _ h => h.2)

theorem scheduleTime?_of_step {label : Call × CallEnv} (hstep : NoRequeueStep s label t)
    {time : Int} (h : (s.state.view id).scheduleTime? = some time) :
    (t.state.view id).scheduleTime? = some time := by
  obtain ⟨-, ⟨henabled, hexec⟩, -⟩ := hstep
  rw [hexec]
  exact (life_exec label.2 s.state id label.1 henabled).invariant
    (fun v => v.scheduleTime? = some time)
    (fun m v _ hm hv => Move.scheduleTime?_kept hm hv) h

theorem scheduleTime?_of_run (hrun : Run NoRequeueStep s labels t) {time : Int}
    (h : (s.state.view id).scheduleTime? = some time) :
    (t.state.view id).scheduleTime? = some time :=
  hrun.invariant (fun s => (s.state.view id).scheduleTime? = some time)
    (fun _ _ _ _ hs hstep => scheduleTime?_of_step hstep hs) h

omit [RateLimiter L] in
/-- Routing a new row keeps the times of a job, if the new row is not that of the
job or may be sent a minute early. -/
theorem Timely.create (hslack : 0 ≤ slack) {s : State L} {request : JobRequest} {time now : Int}
    (hcreated : IMMEDIATE_THRESHOLD ≤ slack ∨ (s.view id).row ≠ none)
    (h : Timely slack now (s.view id)) :
    Timely slack now ((createEffect request time now s).view id) := by
  have hlife : Life (fun m => id = s.jobs.nextId ∧ (m = .create (newJob request time) ∨
      (m = .sendNow ∧ time - now ≤ IMMEDIATE_THRESHOLD))) id (s.view id)
      ((createEffect request time now s).view id) :=
    life_createEffect s id request time now (fun hid => ⟨hid, .inl rfl⟩)
      (fun hid himmediate => ⟨hid, .inr ⟨rfl, himmediate⟩⟩)
  have hfresh : id = s.jobs.nextId → (s.view id).row = none := by
    rintro rfl
    exact JobTable.findById_eq_none (by rw [JobTable.nextId]; omega)
  refine (hlife.invariant (fun v => Timely slack now v ∧
    (id = s.jobs.nextId → ∀ scheduled, v.scheduleTime? = some scheduled → scheduled = time))
    ?_ ⟨h, fun hid scheduled hs => ?_⟩).1
  · rintro m v ⟨hid, rfl | ⟨rfl, himmediate⟩⟩ hm ⟨hv, htime⟩
    · refine ⟨hv.move _ (by simp) hm hslack (fun heq => by cases heq) (fun _ heq => by cases heq)
        (fun _ heq => by cases heq), fun _ scheduled hs => ?_⟩
      exact (Option.some.inj hs).symm
    · have hlate : IMMEDIATE_THRESHOLD ≤ slack :=
        hcreated.resolve_right fun hrow => hrow (hfresh hid)
      refine ⟨hv.move _ (by simp) hm hslack (fun _ scheduled hs => ?_) (fun _ heq => by cases heq)
        (fun _ heq => by cases heq), fun _ scheduled hs => ?_⟩
      · rw [htime hid scheduled hs]
        omega
      · exact htime hid scheduled ((JobView.scheduleTime?_withStatus v .queued).symm.trans hs)
  · simp [JobView.scheduleTime?, hfresh hid] at hs

/-- A call keeps the times of a job, and sends nothing before the time up to
which it does. -/
theorem Timely.step (hslack : 0 ≤ slack)
    (hcreated : IMMEDIATE_THRESHOLD ≤ slack ∨ (s.state.view id).row ≠ none)
    {label : Call × CallEnv} (hstep : NoRequeueStep s label t)
    (h : Timely slack s.now (s.state.view id)) :
    ∃ now ≤ t.now, Timely slack now (t.state.view id) ∧
      ∀ message time, (message, time) ∈ label.1.sends label.2 s.state → now ≤ time := by
  obtain ⟨c, env⟩ := label
  obtain ⟨hrequeue, hstep⟩ := hstep
  obtain ⟨henabled, hexec⟩ := hstep.step
  have hsends : ∀ message time, (message, time) ∈ c.sends env s.state → env.millis 0 ≤ time :=
    fun message time hsend => Service.millis_le_of_sends hstep.clock hsend
  rw [hexec]
  by_cases hcreate : ∃ request, c = .createJob request
  · obtain ⟨request, rfl⟩ := hcreate
    rcases createJob_cases request hstep.clock s.state with hsame | ⟨time, k, heffect, hlate⟩
    · rw [hsame]
      exact ⟨s.now, hstep.now_le, h, fun message time hsend =>
        (hstep.after 0).trans (hsends message time hsend)⟩
    · rw [heffect]
      exact ⟨env.millis k, hstep.before k, (h.later (hstep.after k)).create hslack hcreated,
        hlate⟩
  · refine ⟨env.millis 0, hstep.before 0, ?_, hsends⟩
    -- a message that comes again was sent before the call
    have hagain : ∀ outcome, c.Allows env s.state id (.consume .again outcome) →
        0 < (s.state.view id).sent := by
      rintro outcome ⟨⟨message, rfl, hcarries⟩, -⟩
      exact List.countP_pos_iff.mpr ⟨message, henabled, hcarries⟩
    refine ((life_exec env s.state id c henabled).invariant
      (fun v => Timely slack (env.millis 0) v ∧ (s.state.view id).sent ≤ v.sent) ?_
      ⟨h.later (hstep.after 0), le_rfl⟩).1
    rintro m v hallowed hm ⟨hv, hsent⟩
    refine ⟨hv.move m (hrequeue.allows hallowed) hm hslack ?_ ?_ ?_, hsent.trans (m.sent_le id v)⟩
    · rintro rfl
      obtain ⟨request, hcall, -⟩ := hallowed
      exact absurd ⟨request, hcall⟩ hcreate
    · rintro time rfl
      exact hallowed.2.le
    · rintro outcome rfl
      exact (hagain outcome hallowed).trans_le hsent

/-- What is sent for a timely job is sent when its schedule time has come, up to
`slack`. -/
theorem Timely.sends (hslack : 0 ≤ slack) (hrun : Run NoRequeueStep s labels t)
    (hcreated : IMMEDIATE_THRESHOLD ≤ slack ∨ (s.state.view id).row ≠ none)
    (h : Timely slack s.now (s.state.view id)) {scheduled : Int}
    (hscheduled : (t.state.view id).scheduleTime? = some scheduled) {message : String} {time : Int}
    (hsend : (message, time) ∈ sendsAll labels s.state) (hcarries : carries id message = true) :
    scheduled - slack ≤ time := by
  induction hrun with
  | nil s => cases hsend
  | @cons s u t label rest hfirst hrest ih =>
      obtain ⟨now, hnow, htimely, hlate⟩ := h.step hslack hcreated hfirst
      have hexec : u.state = label.1.exec label.2 s.state := hfirst.2.step.2
      rw [sendsAll, ← hexec] at hsend
      rcases List.mem_append.mp hsend with hsend | hsend
      · -- sent by this call: the job has been sent now, so its time has come
        have hpos : 0 < (u.state.view id).sent := by
          rw [hexec]
          exact sent_pos_exec hsend hcarries
        obtain ⟨job, hrow⟩ := Option.ne_none_iff_exists'.mp fun hnone =>
          hpos.ne' (htimely.absent hnone).1
        have htime : (u.state.view id).scheduleTime? = some job.scheduleTime := by
          simp [JobView.scheduleTime?, hrow]
        have heq := Option.some.inj ((scheduleTime?_of_run hrest htime).symm.trans hscheduled)
        have hdue := htimely.sent hpos _ htime
        have hnow := hlate message time hsend
        omega
      · refine ih (hcreated.imp_right fun hrow => ?_) (htimely.later hnow) hscheduled hsend
        obtain ⟨job, hrow⟩ := Option.ne_none_iff_exists'.mp hrow
        have htime : (s.state.view id).scheduleTime? = some job.scheduleTime := by
          simp [JobView.scheduleTime?, hrow]
        obtain ⟨row, hrow', -⟩ := Option.map_eq_some_iff.mp (scheduleTime?_of_step hfirst htime)
        simp [hrow']

/-- No job runs early.  Along every run without manual requeue and with a clock that
does not go back, no message for a job is sent more than 60000 ms before its
schedule time; and if `createJob` left the job PENDING, none is sent before its
schedule time. -/
theorem no_early_send {limiter : L} {start : Int}
    (hrun : Run NoRequeueStep ⟨State.empty limiter, start⟩ labels t) {job : Job}
    (hrow : t.state.jobs.findById id = some job) {message : String} {time : Int}
    (hsend : (message, time) ∈ sendsAll labels (State.empty limiter))
    (hcarries : carries id message = true) :
    job.scheduleTime - 60000 ≤ time ∧
      ∀ before request env after, labels = before ++ (.createJob request, env) :: after →
        (execAll before (State.empty limiter)).jobs.nextId = id →
        ((execAll (before ++ [(.createJob request, env)]) (State.empty limiter)).view id).status? =
          some .pending →
        job.scheduleTime ≤ time := by
  have hscheduled : (t.state.view id).scheduleTime? = some job.scheduleTime := by
    have hview : (t.state.view id).row = some job := hrow
    simp [JobView.scheduleTime?, hview]
  have hstart : ∀ slack now, Timely slack now ((State.empty limiter).view id) := by
    intro slack now
    rw [State.view_empty]
    constructor <;> simp [JobView.status?, JobView.retryTime?]
  constructor
  · exact Timely.sends (by decide) hrun (.inl le_rfl) (hstart _ _) hscheduled hsend hcarries
  · rintro before request env after rfl - hpending
    rw [List.append_cons] at hrun hsend
    obtain ⟨u, hcreated, hafter⟩ := hrun.split
    have hu := state_of_run hcreated
    rw [sendsAll_append, ← hu] at hsend
    rw [← hu] at hpending
    have htimely : Timely IMMEDIATE_THRESHOLD u.now (u.state.view id) :=
      hcreated.invariant (fun s => Timely IMMEDIATE_THRESHOLD s.now (s.state.view id))
        (fun s label t _ hs hstep => by
          obtain ⟨now, hnow, ht, -⟩ := Timely.step (by decide) (.inl le_rfl) hstep hs
          exact ht.later hnow) (hstart _ _)
    -- a PENDING job was never sent, so it has no early message to look back at
    have hunsent := htimely.pending hpending
    rcases List.mem_append.mp hsend with hsend | hsend
    · have hpos := sent_pos hsend hcarries
      rw [← hu] at hpos
      exact absurd hunsent hpos.ne'
    · have hstrict : Timely 0 u.now (u.state.view id) :=
        { htimely with sent := fun hpos => absurd hunsent hpos.ne' }
      obtain ⟨row, hrow', -⟩ := JobView.exists_row hpending
      have hlate := Timely.sends le_rfl hafter (.inr (by simp [hrow'])) hstrict hscheduled hsend
        hcarries
      omega

end Runs

/-- A job for 10:00 is created early in the morning, scheduled ten seconds ahead
and sent half a second late. -/
theorem no_early_send_oneRetry :
    ∃ time, ("1", time) ∈ sendsAll oneRetry (State.empty LuaLimiter.empty) ∧
      16200000 ≤ time := by
  let start := State.empty LuaLimiter.empty
  have htimes : Chronological 0 oneRetry :=
    ⟨_, _, rfl, by decide, _, _, rfl, by decide, _, _, rfl, by decide, _, _, rfl, by decide,
      trivial⟩
  have hrun : Run NoRequeueStep ⟨start, 0⟩ oneRetry
      ⟨execAll oneRetry start, latest 0 oneRetry⟩ :=
    (timedRun_execAll (by decide) (by decide) htimes).mono noRequeue_of_timed
  have hrow : (execAll oneRetry start).jobs.findById 1 =
      some ⟨⟨"API", .retry, none, none, none, 1, 16200000, some 16203000⟩, 1⟩ := by decide
  have hsend : ("1", 16200500) ∈ sendsAll oneRetry start := by decide
  exact ⟨16200500, hsend, (no_early_send hrun hrow hsend (by decide)).2 [] _ _ _ rfl (by decide)
    (by decide)⟩

end JobQueue
