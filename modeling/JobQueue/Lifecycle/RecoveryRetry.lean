import JobQueue.Lib.Trace
import JobQueue.Lifecycle.Backoff
import JobQueue.Lifecycle.Drain

/-!
# A recovery call that is made twice

`reconcileRedis` and `triggerRecovery` put the rows of two pages into the delay queue: waiting
jobs with their schedule times, and RETRY jobs, which become SCHEDULED, with their retry times.
The client makes the call again when the answer is lost.  The second call finds the former RETRY
jobs among the SCHEDULED ones and may give them their schedule times as scores, which is another
score, but one that is due as well.
-/

namespace JobQueue

open Decimal Call AdminService RedisDispatcherService WatcherService

/-! ## Views that differ in a due score -/

/-- The same job, but for a score that is due at `now` in either view. -/
structure SameUpToDue (now : Int) (v w : JobView) : Prop where
  row : w.row = v.row
  sent : w.sent = v.sent
  score : w.score = v.score ∨ v.Ready now ∧ w.Ready now

namespace SameUpToDue

variable {now later : Int} {v w : JobView}

theorem refl (v : JobView) : SameUpToDue now v v := ⟨rfl, rfl, .inl rfl⟩

theorem isSome_score (h : SameUpToDue now v w) : w.score.isSome = v.score.isSome := by
  rcases h.score with hscore | ⟨⟨a, hv, -⟩, b, hw, -⟩
  · rw [hscore]
  · rw [hv, hw]
    rfl

/-- From `now` on, neither is ready without the other. -/
theorem ready_iff (h : SameUpToDue now v w) (hlater : now ≤ later) :
    w.Ready later ↔ v.Ready later := by
  rcases h.score with hscore | ⟨⟨a, hv, ha, hdue⟩, b, hw, hb, hdue'⟩
  · rw [JobView.Ready, JobView.Ready, hscore]
  · exact iff_of_true ⟨b, hw, hb, hdue'.trans hlater⟩ ⟨a, hv, ha, hdue.trans hlater⟩

end SameUpToDue

/-! ## One pass over two pages -/

/-- What a pass does to a job: it schedules the row of its first page or of its retry page, or
skips the job. -/
inductive Passed (first retry : JobQuery) (skips : Job → Prop) (v : JobView) : JobView → Prop
  | first {job : Job} : v.row = some job → first.selects job = true →
      Passed first retry skips v { v.withStatus .scheduled with score := some job.scheduleTime }
  | retry {job : Job} {time : Int} : v.row = some job → retry.selects job = true →
      job.nextRetryTime = some time →
      Passed first retry skips v { v.withStatus .scheduled with score := some time }
  | skipped : (∀ job, v.row = some job → skips job) → Passed first retry skips v v

/-- The two queries of a pass at `now`. -/
structure PassQueries (now : Int) (first retry : JobQuery) : Prop where
  forRetry : retry.ForRetry
  due : ∀ job, first.selects job = true → job.scheduleTime ≤ now
  retryDue : ∀ job time, retry.selects job = true → job.nextRetryTime = some time → time ≤ now

/-- The row is on neither page. -/
def Unselected (first retry : JobQuery) (job : Job) : Prop :=
  first.selects job = false ∧ retry.selects job = false

/-- A pass over a SCHEDULED job with a due score changes at most this score into another due
one: the schedule time. -/
theorem Passed.of_scheduled {now score : Int} {first retry : JobQuery}
    (hq : PassQueries now first retry) {skips : Job → Prop} {v w : JobView} {job : Job}
    (hrow : v.row = some job) (hscheduled : job.status = .scheduled)
    (hschedule : 0 ≤ job.scheduleTime) (hscore : v.score = some score) (hnonneg : 0 ≤ score)
    (hdue : score ≤ now) (h : Passed first retry skips v w) : SameUpToDue now v w := by
  cases h with
  | @first row hrow' hsel =>
      obtain rfl := Option.some.inj (hrow.symm.trans hrow')
      refine ⟨?_, rfl, .inr ⟨⟨score, hscore, hnonneg, hdue⟩, job.scheduleTime, rfl, hschedule,
        hq.due job hsel⟩⟩
      show v.row.map _ = v.row
      rw [hrow, Option.map_some, ← hscheduled]
  | @retry row time hrow' hsel htime =>
      obtain rfl := Option.some.inj (hrow.symm.trans hrow')
      have hretry := (JobQuery.retry_of_selects hq.forRetry hsel).1
      rw [hscheduled] at hretry
      cases hretry
  | skipped => exact .refl v

/-- After a pass that has skipped no row it selects, a further pass changes at most a due score
into another one. -/
theorem Passed.again {now : Int} {first retry : JobQuery} (hq : PassQueries now first retry)
    {skips : Job → Prop} {v w x : JobView}
    (htimes : ∀ job, v.row = some job →
      0 ≤ job.scheduleTime ∧ ∀ time, job.nextRetryTime = some time → 0 ≤ time)
    (honce : Passed first retry (Unselected first retry) v w)
    (hagain : Passed first retry skips w x) : SameUpToDue now w x := by
  cases honce with
  | @first job hrow hsel =>
      have hrow' : (v.withStatus .scheduled).row = some { job with status := .scheduled } :=
        congrArg (Option.map _) hrow
      have hschedule := (htimes job hrow).1
      exact hagain.of_scheduled hq hrow' rfl hschedule rfl hschedule (hq.due job hsel)
  | @retry job time hrow hsel htime =>
      have hrow' : (v.withStatus .scheduled).row = some { job with status := .scheduled } :=
        congrArg (Option.map _) hrow
      obtain ⟨hschedule, hretry⟩ := htimes job hrow
      exact hagain.of_scheduled hq hrow' rfl hschedule rfl (hretry time htime)
        (hq.retryDue job time hsel htime)
  | skipped hskips =>
      -- the row is the same, and selected as little as before
      cases hagain with
      | @first job hrow hsel =>
          rw [(hskips job hrow).1] at hsel
          cases hsel
      | @retry job time hrow hsel htime =>
          rw [(hskips job hrow).2] at hsel
          cases hsel
      | skipped => exact .refl v

/-! ## The loops of a pass -/

section Loops

variable {L : Type}

/-- A page that is not full lists all rows that the query selects. -/
theorem mem_page_of_selects {env : CallEnv} {q : JobQuery} {s : State L} {job : Job}
    (hlength : (s.jobs.rows.filter q.selects).length ≤ q.pageSize)
    (hrow : s.jobs.findById job.id = some job) (hsel : q.selects job = true) :
    job ∈ env.page q s := by
  have hperm : (q.sort ((env.order q).arrange (s.jobs.rows.filter q.selects))).Perm
      (s.jobs.rows.filter q.selects) := (q.sort_perm _).trans ((env.order q).perm _)
  rw [CallEnv.page, JobTable.select, List.take_of_length_le (hperm.length_eq.trans_le hlength),
    hperm.mem_iff]
  exact List.mem_filter.mpr ⟨((JobTable.findById_eq_some_iff _ _ _).mp hrow).1, hsel⟩

variable {env : CallEnv} {now : Int} {first retry : JobQuery} {effect : Job → State L → State L}
  {s : State L} {id : Int}

/-- A pass over the two pages, for one job. -/
theorem passed (hq : PassQueries now first retry) (heffect : SchedulesRows first effect)
    {skips : Job → Prop}
    (hskips : ∀ job, s.jobs.findById id = some job → job ∉ env.page first s →
      (foundRows env first effect s).jobs.findById id = some job →
      job ∉ env.page retry (foundRows env first effect s) → skips job) :
    Passed first retry skips (s.view id) ((passEffect env first retry effect s).view id) := by
  by_cases hfirst : ∃ job ∈ env.page first s, job.id = id
  · obtain ⟨job, hmem, rfl⟩ := hfirst
    obtain ⟨hrow, hsel⟩ := JobTable.mem_select hmem
    rw [view_pass_of_first heffect hq.forRetry hmem]
    exact .first hrow hsel
  · push Not at hfirst
    by_cases hretry : ∃ job ∈ env.page retry (foundRows env first effect s), job.id = id
    · obtain ⟨job, hmem, rfl⟩ := hretry
      obtain ⟨hrow, time, htime, hpass⟩ := view_pass_of_retry heffect hq.forRetry hmem
      rw [hpass]
      exact .retry hrow (JobTable.mem_select hmem).2 htime
    · push Not at hretry
      rw [view_pass_of_unlisted heffect hfirst hretry]
      refine .skipped fun job hrow => ?_
      have hid := JobTable.id_of_findById hrow
      have hfound := congrArg JobView.row (view_found_of_not_mem heffect hfirst)
      exact hskips job hrow (fun hmem => hfirst job hmem hid) (hfound.trans hrow)
        fun hmem => hretry job hmem hid

end Loops

/-! ## The two calls -/

section Calls

variable {L : Type}

theorem passQueries_reconcile (now : Int) :
    PassQueries now (.findOverdueScheduled now 500) (.findRetryDue now 500) where
  forRetry := trivial
  due _ hsel := (JobQuery.of_selects_overdue hsel).2
  retryDue _ _ hsel htime := by
    have hretry : (JobQuery.findRetryDue now 500).ForRetry := trivial
    exact JobQuery.retryTime_le_of_selects hretry hsel htime

theorem passQueries_recover (now : Int) :
    PassQueries now (.findPendingOrScheduledInRange (now - 60000) now 500)
      (.findRetryInRange (now - 60000) now 500) where
  forRetry := trivial
  due _ hsel := (JobQuery.of_selects_inRange hsel).2.2
  retryDue _ _ hsel htime := by
    have hretry : (JobQuery.findRetryInRange (now - 60000) now 500).ForRetry := trivial
    exact JobQuery.retryTime_le_of_selects hretry hsel htime

variable [RateLimiter L]

/-- No query of the call selects more rows than fit on its page. -/
def Untruncated (c : Call) (env : CallEnv) (s : State L) : Prop :=
  ∀ q t k, (Op.query q, t, k) ∈ Prog.trace env.handle c.program (c.deliver s, 0) →
    (t.jobs.rows.filter q.selects).length ≤ q.pageSize

/-- The two queries of a pass: one before its first loop and one after it. -/
theorem queries_mem_trace {γ δ : Type} (env : CallEnv) (first retry : JobQuery)
    {body : Job → γ → Service γ} (update : Job → γ → γ) (effect : Job → State L → State L)
    (hbody : ∀ job acc s k, Prog.run env.handle (body job acc) (s, k) =
      (.ok (update job acc), (effect job s, k)))
    (acc : γ) (rest : γ → List Job → Service δ) (s : State L) (k : Nat) :
    (Op.query first, s, k) ∈ Prog.trace env.handle (do
        let rows ← Service.query first
        let acc ← Prog.foldEach body rows acc
        let retryRows ← Service.query retry
        rest acc retryRows) (s, k) ∧
      (Op.query retry, foundRows env first effect s, k) ∈ Prog.trace env.handle (do
        let rows ← Service.query first
        let acc ← Prog.foldEach body rows acc
        let retryRows ← Service.query retry
        rest acc retryRows) (s, k) := by
  have hloop := Service.run_foldEach env.handle update effect (env.page first s)
    (fun job _ acc s k => hbody job acc s k) acc s k
  have htrace : Prog.trace env.handle (do
      let rows ← Service.query first
      let acc ← Prog.foldEach body rows acc
      let retryRows ← Service.query retry
      rest acc retryRows) (s, k) =
        (Op.query first, s, k) ::
          Prog.trace env.handle ((Prog.foldEach body (env.page first s) acc).bind fun acc => do
            let retryRows ← Service.query retry
            rest acc retryRows) (s, k) := rfl
  rw [htrace, Prog.trace_bind_ok env.handle hloop]
  refine ⟨List.mem_cons_self, List.mem_cons_of_mem _ (List.mem_append_right _ ?_)⟩
  exact List.mem_cons_self

/-- The call is a pass over the pages of two queries. -/
structure RecoveryPass (c : Call) (now : Int) (first retry : JobQuery)
    (effect : Job → State L → State L) : Prop where
  queries : PassQueries now first retry
  schedules : SchedulesRows first effect
  exec : ∀ env s, env.millis 0 = now → c.exec env s = passEffect env first retry effect s
  traced : ∀ env s, env.millis 0 = now →
    (Op.query first, s, 1) ∈ Prog.trace env.handle c.program (c.deliver s, 0) ∧
      (Op.query retry, foundRows env first effect s, 1) ∈
        Prog.trace env.handle c.program (c.deliver s, 0)

theorem recoveryPass_reconcileRedis (now : Int) :
    RecoveryPass (L := L) .reconcileRedis now (.findOverdueScheduled now 500)
      (.findRetryDue now 500) reinsertOverdueEffect where
  queries := passQueries_reconcile now
  schedules := schedulesRows_reconcile now
  exec env s hnow := by
    rw [exec_reconcileRedis, hnow]
    rfl
  traced env s hnow := by
    subst hnow
    have hqueries := queries_mem_trace env (.findOverdueScheduled (env.millis 0) 500)
      (.findRetryDue (env.millis 0) 500) reinsertedTally reinsertOverdueEffect
      (fun job tally t k => run_reinsertOverdue env job tally t k) ⟨0, []⟩
      (fun tally retryDue => do
        let tally ← Prog.foldEach requeueRetry retryDue tally
        pure (AdminActionResult.ok "RECONCILE_REDIS_DELAY_QUEUE" "Redis reconciliation completed"
          tally.count tally.details)) s 1
    have hdiscard : Prog.trace env.handle Call.reconcileRedis.program
        (Call.reconcileRedis.deliver s, 0) =
          Prog.trace env.handle AdminService.reconcileRedis (s, 0) :=
      Prog.trace_discard env.handle _ _
    have htrace : Prog.trace env.handle AdminService.reconcileRedis (s, 0) =
        (Op.currentTimeMillis, s, 0) :: _ := rfl
    rw [hdiscard, htrace]
    exact ⟨List.mem_cons_of_mem _ hqueries.1, List.mem_cons_of_mem _ hqueries.2⟩

theorem recoveryPass_triggerRecovery (now : Int) :
    RecoveryPass (L := L) .triggerRecovery now
      (.findPendingOrScheduledInRange (now - 60000) now 500)
      (.findRetryInRange (now - 60000) now 500) recoverRowEffect where
  queries := passQueries_recover now
  schedules := schedulesRows_recover now
  exec env s hnow := by
    rw [exec_triggerRecovery, hnow]
    rfl
  traced env s hnow := by
    subst hnow
    have hqueries := queries_mem_trace env
      (.findPendingOrScheduledInRange (env.millis 0 - 60000) (env.millis 0) 500)
      (.findRetryInRange (env.millis 0 - 60000) (env.millis 0) 500) _ recoverRowEffect
      (fun job count t k => run_recoverRow env job count t k) 0
      (fun count retryJobs => Prog.foldEach recoverRetryRow retryJobs count) s 1
    have htrace : Prog.trace env.handle WatcherService.triggerRecovery (s, 0) =
        (Op.currentTimeMillis, s, 0) :: _ := rfl
    have hdiscard : Prog.trace env.handle Call.triggerRecovery.program
        (Call.triggerRecovery.deliver s, 0) = Prog.trace env.handle recoverWatcher (s, 0) :=
      Prog.trace_discard env.handle _ _
    have hrecover : Prog.trace env.handle recoverWatcher (s, 0) =
        Prog.trace env.handle WatcherService.triggerRecovery (s, 0) ++ _ :=
      Prog.trace_bind env.handle _ _ _
    rw [hdiscard, hrecover, htrace]
    exact ⟨List.mem_append_left _ (List.mem_cons_of_mem _ hqueries.1),
      List.mem_append_left _ (List.mem_cons_of_mem _ hqueries.2)⟩

/-! ## The call is made again -/

variable {c : Call} {env env' : CallEnv} {now : Int} {first retry : JobQuery}
  {effect : Job → State L → State L} {s : State L}

/-- On pages that are not full, a pass skips no row that it selects. -/
theorem passed_untruncated (h : RecoveryPass c now first retry effect) (hnow : env.millis 0 = now)
    (huntruncated : Untruncated c env s) (id : Int) :
    Passed first retry (Unselected first retry) (s.view id) ((c.exec env s).view id) := by
  obtain ⟨hfirst, hretry⟩ := h.traced env s hnow
  rw [h.exec env s hnow]
  refine passed h.queries h.schedules fun job hrow hnone hfound hnone' => ?_
  have hid := JobTable.id_of_findById hrow
  constructor
  · by_contra hsel
    exact hnone (mem_page_of_selects (huntruncated _ _ _ hfirst) (hid ▸ hrow)
      (Bool.not_eq_false _ ▸ hsel))
  · by_contra hsel
    exact hnone' (mem_page_of_selects (huntruncated _ _ _ hretry) (hid ▸ hfound)
      (Bool.not_eq_false _ ▸ hsel))

/-- The same pass once more changes at most due scores. -/
theorem sameUpToDue_again (h : RecoveryPass c now first retry effect) (hnow : env.millis 0 = now)
    (hnow' : env'.millis 0 = now) (htimes : NonNegative s) (huntruncated : Untruncated c env s)
    (id : Int) :
    SameUpToDue now ((c.exec env s).view id) ((c.exec env' (c.exec env s)).view id) := by
  have hagain : Passed first retry (fun _ => True) ((c.exec env s).view id)
      ((c.exec env' (c.exec env s)).view id) := by
    rw [h.exec env' _ hnow']
    exact passed h.queries h.schedules fun _ _ _ _ _ => trivial
  exact (passed_untruncated h hnow huntruncated id).again h.queries (htimes id) hagain

/-- A dispatch publishes the job. -/
def Publishes (env : CallEnv) (s : State L) (id : Int) : Prop :=
  (s.view id).sent < ((Call.dispatch.exec env s).view id).sent

theorem publishes_iff (id : Int) :
    Publishes env s id ↔
      (s.view id).status? = some .scheduled ∧ (s.view id).Ready (env.millis 0) := by
  constructor
  · exact ready_of_sent
  · rintro ⟨hscheduled, hready⟩
    rw [Publishes, exec_dispatch, view_dispatchEffect_of_ready s id _ hready, dispatchMove,
      if_pos hscheduled]
    exact Nat.lt_succ_self _

theorem SameUpToDue.publishes_iff {t : State L} {id : Int}
    (h : SameUpToDue now (s.view id) (t.view id)) (hlater : now ≤ env.millis 0) :
    Publishes env t id ↔ Publishes env s id := by
  rw [JobQueue.publishes_iff, JobQueue.publishes_iff, h.ready_iff hlater, JobView.status?, h.row]
  rfl

/-- A recovery call that is made a second time, at the same time, leaves every row, the members
of the delay queue and the jobs that a later dispatch publishes as the first call has left them,
when no page of the first call was too small for its rows. -/
theorem recovery_retry_safe (hc : c = .reconcileRedis ∨ c = .triggerRecovery)
    (hnow : env'.millis 0 = env.millis 0) (htimes : NonNegative s)
    (huntruncated : Untruncated c env s) :
    (∀ id, (c.exec env' (c.exec env s)).jobs.findById id = (c.exec env s).jobs.findById id) ∧
    (∀ member, ((c.exec env' (c.exec env s)).scheduledJobs.set.score? member).isSome =
      ((c.exec env s).scheduledJobs.set.score? member).isSome) ∧
    ∀ later : CallEnv, env.millis 0 ≤ later.millis 0 → ∀ id,
      (Publishes later (c.exec env' (c.exec env s)) id ↔ Publishes later (c.exec env s) id) := by
  have hsame : ∀ id, SameUpToDue (env.millis 0) ((c.exec env s).view id)
      ((c.exec env' (c.exec env s)).view id) := by
    rcases hc with rfl | rfl
    · exact sameUpToDue_again (recoveryPass_reconcileRedis _) rfl hnow htimes huntruncated
    · exact sameUpToDue_again (recoveryPass_triggerRecovery _) rfl hnow htimes huntruncated
  refine ⟨fun id => (hsame id).row, fun member => ?_, fun later hlater id =>
    (hsame id).publishes_iff hlater⟩
  by_cases hmember : ∃ id : Int, member = longToString id
  · obtain ⟨id, rfl⟩ := hmember
    exact (hsame id).isSome_score
  · -- only texts of ids are members
    have hnone : ∀ t : State L, t.scheduledJobs.set.score? member = none := fun t =>
      Option.eq_none_iff_forall_not_mem.mpr fun score hscore =>
        hmember (t.scheduledJobs.decimal member score hscore)
    rw [hnone, hnone]

end Calls

/-- Job 1 of `oneRetry` is due at 16203000 and keeps its schedule time 16200000.  The second call
lowers its score to the schedule time. -/
theorem recovery_retry_safe_oneRetry :
    let env := CallEnv.within 16203500 (.ok ())
    let once := Call.reconcileRedis.exec env (Call.execAll oneRetry (State.empty LuaLimiter.empty))
    let twice := Call.reconcileRedis.exec env once
    once.scheduledJobs.score? 1 = some 16203000 ∧ twice.scheduledJobs.score? 1 = some 16200000 ∧
      twice.jobs.findById 1 = once.jobs.findById 1 := by
  intro env once twice
  have htimes : NonNegative (Call.execAll oneRetry (State.empty LuaLimiter.empty)) := by
    intro id job hrow
    have hmem := ((JobTable.findById_eq_some_iff _ _ _).mp hrow).1
    have hrows : (Call.execAll oneRetry (State.empty LuaLimiter.empty)).jobs.rows =
        [⟨⟨"API", .retry, none, none, none, 1, 16200000, some 16203000⟩, 1⟩] := by decide
    rw [hrows, List.mem_singleton] at hmem
    subst hmem
    refine ⟨by decide, fun time htime => ?_⟩
    obtain rfl := Option.some.inj htime
    decide
  have huntruncated : Untruncated .reconcileRedis env
      (Call.execAll oneRetry (State.empty LuaLimiter.empty)) := by
    intro q t k hmem
    have hfit : (Prog.trace env.handle Call.reconcileRedis.program
        (Call.reconcileRedis.deliver (Call.execAll oneRetry (State.empty LuaLimiter.empty)),
          0)).all (fun entry => match entry with
            | (.query q, t, _) => decide ((t.jobs.rows.filter q.selects).length ≤ q.pageSize)
            | _ => true) = true := by decide
    exact of_decide_eq_true (List.all_eq_true.mp hfit _ hmem)
  exact ⟨by decide, by decide,
    (recovery_retry_safe (.inl rfl) rfl htimes huntruncated).1 1⟩

end JobQueue
