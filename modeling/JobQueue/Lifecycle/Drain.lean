import JobQueue.Lifecycle.RecoveryPages
import JobQueue.Lifecycle.RedisLoss

/-!
# Draining a backlog

`reconcileRedis` and `dispatch`, one after the other, are a round.  A round picks
at most 500 overdue SCHEDULED jobs and 500 due RETRY jobs, and the dispatcher
sends all of them; an overdue job that is in the delay queue already is sent even
when it is on no page.  No round adds to either backlog, so after as many rounds
as the larger one has pages both are empty, and every job of the two was sent
once.
-/

namespace JobQueue

open Call AdminService RedisDispatcherService WatcherService

variable {L : Type}

/-! ## Backlogs -/

/-- A SCHEDULED job with its schedule time in `[0, now]`. -/
def Overdue (now : Int) (job : Job) : Prop :=
  job.status = .scheduled ∧ 0 ≤ job.scheduleTime ∧ job.scheduleTime ≤ now

/-- A RETRY job with its retry time in `[0, now]`. -/
def RetryDue (now : Int) (job : Job) : Prop :=
  job.status = .retry ∧ ∃ time, job.nextRetryTime = some time ∧ 0 ≤ time ∧ time ≤ now

instance (now : Int) : DecidablePred (Overdue now) := fun _ =>
  inferInstanceAs (Decidable (_ ∧ _))

instance (now : Int) : DecidablePred (RetryDue now) := fun job =>
  match htime : job.nextRetryTime with
  | none => isFalse (by simp [RetryDue, htime])
  | some time =>
      decidable_of_iff (job.status = .retry ∧ 0 ≤ time ∧ time ≤ now) (by simp [RetryDue, htime])

/-- The rows of a kind. -/
def backlog (kind : Job → Prop) [DecidablePred kind] (s : State L) : List Job :=
  s.jobs.rows.filter fun job => kind job

theorem mem_backlog {kind : Job → Prop} [DecidablePred kind] {s : State L} {job : Job} :
    job ∈ backlog kind s ↔ s.jobs.findById job.id = some job ∧ kind job := by
  simp [backlog, JobTable.findById_eq_some_iff]

theorem nodup_backlog (kind : Job → Prop) [DecidablePred kind] (s : State L) :
    (backlog kind s).Nodup :=
  s.jobs.nodup.of_map.filter _

/-- No time in the table is negative. -/
def NonNegative (s : State L) : Prop :=
  ∀ id job, s.jobs.findById id = some job →
    0 ≤ job.scheduleTime ∧ ∀ time, job.nextRetryTime = some time → 0 ≤ time

theorem selects_overdue_iff {s : State L} (htimes : NonNegative s) {now : Int} {job : Job}
    (hrow : s.jobs.findById job.id = some job) :
    (JobQuery.findOverdueScheduled now 500).selects job = true ↔ Overdue now job := by
  have hnonneg := (htimes job.id job hrow).1
  simp [JobQuery.selects, Overdue, hnonneg]

theorem selects_retryDue_iff {s : State L} (htimes : NonNegative s) {now : Int} {job : Job}
    (hrow : s.jobs.findById job.id = some job) :
    (JobQuery.findRetryDue now 500).selects job = true ↔ RetryDue now job := by
  have hnonneg := (htimes job.id job hrow).2
  cases htime : job.nextRetryTime with
  | none => simp [JobQuery.selects, JobQuery.retryDueBy, RetryDue, htime]
  | some time =>
      have htime' := hnonneg time htime
      simp [JobQuery.selects, JobQuery.retryDueBy, RetryDue, htime, htime']

/-- A page is full or lists everything the query selects. -/
theorem length_page (env : CallEnv) (q : JobQuery) (s : State L) :
    (env.page q s).length =
      min q.pageSize (s.jobs.rows.filter fun job => q.selects job).length := by
  rw [CallEnv.page, JobTable.select, List.length_take, (q.sort_perm _).length_eq,
    ((env.order q).perm _).length_eq]

/-- A backlog from which a pass takes some rows and to which it adds nothing
shrinks by the number of these rows. -/
theorem length_backlog_add_le {kind : Job → Prop} [DecidablePred kind] {s t : State L}
    {taken : List Job} (hnodup : taken.Nodup) (htaken : ∀ job ∈ taken, job ∈ backlog kind s)
    (hshrinks : ∀ job ∈ backlog kind t, job ∈ backlog kind s ∧ job ∉ taken) :
    (backlog kind t).length + taken.length ≤ (backlog kind s).length := by
  -- what is left and what was taken are disjoint parts of the backlog before
  have hboth : (backlog kind t ++ taken).Nodup :=
    (nodup_backlog kind t).append hnodup fun job hleft hright => (hshrinks job hleft).2 hright
  have hsubset : backlog kind t ++ taken ⊆ backlog kind s := by
    intro job hjob
    rcases List.mem_append.mp hjob with hleft | hright
    · exact (hshrinks job hleft).1
    · exact htaken job hright
  have hlength := (List.subperm_of_subset hboth hsubset).length_le
  rwa [List.length_append] at hlength

/-- A backlog from which a pass takes a page and to which it adds nothing shrinks
by the size of the page. -/
theorem length_backlog_le {kind : Job → Prop} [DecidablePred kind] (q : JobQuery) (env : CallEnv)
    {size : Nat} (hsize : q.pageSize = size) {s t : State L}
    (hselects : ∀ job, s.jobs.findById job.id = some job →
      (q.selects job = true ↔ kind job))
    (hshrinks : ∀ job ∈ backlog kind t, job ∈ backlog kind s ∧ job ∉ env.page q s) :
    (backlog kind t).length ≤ (backlog kind s).length - size := by
  have hsame : (s.jobs.rows.filter fun job => q.selects job) = backlog kind s := by
    apply List.filter_congr
    intro job hjob
    have hrow : s.jobs.findById job.id = some job :=
      (JobTable.findById_eq_some_iff _ _ _).mpr ⟨hjob, rfl⟩
    rw [Bool.eq_iff_iff, hselects job hrow, decide_eq_true_iff]
  have hpage : ∀ job ∈ env.page q s, job ∈ backlog kind s := by
    intro job hjob
    obtain ⟨hrow, hsel⟩ := JobTable.mem_select hjob
    exact mem_backlog.mpr ⟨hrow, (hselects job hrow).mp hsel⟩
  have hnodup : (env.page q s).Nodup := (JobTable.nodup_select _ _ _).of_map
  have hlength := length_backlog_add_le hnodup hpage hshrinks
  rw [length_page, hsame, hsize] at hlength
  omega

/-! ## One reconciliation -/

section Reconcile

variable (env : CallEnv) (now : Int) (s : State L)

/-- The page of overdue jobs. -/
def overduePage : List Job := env.page (.findOverdueScheduled now 500) s

/-- The page of due RETRY jobs. -/
def retryPage : List Job := env.page (.findRetryDue now 500) s

/-- The state between the two loops, in which the second page is read. -/
def reinserted : State L :=
  (overduePage env now s).foldl (fun t job => reinsertOverdueEffect job t) s

theorem jobs_reinserted : (reinserted env now s).jobs = s.jobs := by
  unfold reinserted
  generalize overduePage env now s = rows
  induction rows generalizing s with
  | nil => rfl
  | cons row rest ih =>
      have hrow : (reinsertOverdueEffect row s).jobs = s.jobs := by
        unfold reinsertOverdueEffect
        split_ifs <;> rfl
      exact (ih (reinsertOverdueEffect row s)).trans hrow

theorem retryPage_reinserted : retryPage env now (reinserted env now s) = retryPage env now s := by
  rw [retryPage, retryPage, CallEnv.page, CallEnv.page, jobs_reinserted]

theorem reconcileEffect_eq : reconcileEffect env now s =
    passEffect env (.findOverdueScheduled now 500) (.findRetryDue now 500) reinsertOverdueEffect s :=
  rfl

variable {s} {job : Job}

theorem of_mem_overduePage (h : job ∈ overduePage env now s) :
    s.jobs.findById job.id = some job ∧ job.status = .scheduled ∧ job.scheduleTime ≤ now := by
  obtain ⟨hrow, hsel⟩ := JobTable.mem_select h
  exact ⟨hrow, JobQuery.of_selects_overdue hsel⟩

theorem of_mem_retryPage (h : job ∈ retryPage env now s) :
    s.jobs.findById job.id = some job ∧ job.status = .retry ∧
      ∃ time, job.nextRetryTime = some time ∧ time ≤ now := by
  obtain ⟨hrow, hsel⟩ := JobTable.mem_select h
  have hretry : (JobQuery.findRetryDue now 500).ForRetry := trivial
  obtain ⟨hstatus, time, htime⟩ := JobQuery.retry_of_selects hretry hsel
  exact ⟨hrow, hstatus, time, htime, JobQuery.retryTime_le_of_selects hretry hsel htime⟩

/-- An overdue job of the page gets its schedule time as score. -/
theorem view_reconcile_of_overdue (h : job ∈ overduePage env now s) :
    (reconcileEffect env now s).view job.id =
      { s.view job.id with score := some job.scheduleTime } := by
  obtain ⟨hrow, hscheduled, -⟩ := of_mem_overduePage env now h
  have hview : (s.view job.id).row = some job := hrow
  have hretry : (JobQuery.findRetryDue now 500).ForRetry := trivial
  have hpass := view_pass_of_first (schedulesRows_reconcile now) hretry h
  rw [← hscheduled, withStatus_self hview] at hpass
  rw [reconcileEffect_eq, hpass]

/-- A RETRY job of the page becomes SCHEDULED with its retry time as score. -/
theorem view_reconcile_of_retryDue (h : job ∈ retryPage env now s) {time : Int}
    (htime : job.nextRetryTime = some time) :
    (reconcileEffect env now s).view job.id =
      { (s.view job.id).withStatus .scheduled with score := some time } := by
  rw [← retryPage_reinserted] at h
  have hretry : (JobQuery.findRetryDue now 500).ForRetry := trivial
  obtain ⟨-, time', htime', hview⟩ := view_pass_of_retry (schedulesRows_reconcile now) hretry h
  obtain rfl := Option.some.inj (htime.symm.trans htime')
  rw [reconcileEffect_eq, hview]

/-- Any other job is left alone. -/
theorem view_reconcile_of_unlisted {id : Int}
    (hoverdue : ∀ row ∈ overduePage env now s, row.id ≠ id)
    (hretry : ∀ row ∈ retryPage env now s, row.id ≠ id) :
    (reconcileEffect env now s).view id = s.view id := by
  rw [← retryPage_reinserted] at hretry
  rw [reconcileEffect_eq]
  exact view_pass_of_unlisted (schedulesRows_reconcile now) hoverdue hretry

end Reconcile

/-! ## One round -/

/-- The job was sent once and is QUEUED; its entry in the delay queue is gone. -/
structure SentOnce (v w : JobView) : Prop where
  row : w.row = v.row.map fun job => { job with status := .queued }
  inFlight : w.inFlight = v.inFlight + 1
  sent : w.sent = v.sent + 1
  score : w.score = none

/-- The job was not sent and its row is the same; at most its entry in the delay
queue was dropped. -/
structure Untouched (v w : JobView) : Prop where
  row : w.row = v.row
  inFlight : w.inFlight = v.inFlight
  sent : w.sent = v.sent
  score : v.score = none → w.score = none

namespace Untouched

variable {u v w : JobView}

theorem refl (v : JobView) : Untouched v v := ⟨rfl, rfl, rfl, id⟩

theorem trans (huv : Untouched u v) (hvw : Untouched v w) : Untouched u w :=
  ⟨hvw.row.trans huv.row, hvw.inFlight.trans huv.inFlight, hvw.sent.trans huv.sent,
    fun h => hvw.score (huv.score h)⟩

theorem sentOnce (huv : Untouched u v) (hvw : SentOnce v w) : SentOnce u w :=
  ⟨by rw [hvw.row, huv.row], by rw [hvw.inFlight, huv.inFlight], by rw [hvw.sent, huv.sent],
    hvw.score⟩

end Untouched

theorem SentOnce.untouched {u v w : JobView} (huv : SentOnce u v) (hvw : Untouched v w) :
    SentOnce u w :=
  ⟨by rw [hvw.row, huv.row], by rw [hvw.inFlight, huv.inFlight], by rw [hvw.sent, huv.sent],
    hvw.score huv.score⟩

section Round

variable (now : Int) {s : State L} {id : Int}

/-- A dispatch sends a ready SCHEDULED job. -/
theorem sentOnce_dispatch (hready : (s.view id).Ready now)
    (hscheduled : (s.view id).status? = some .scheduled) :
    SentOnce (s.view id) ((dispatchEffect now s).view id) := by
  rw [view_dispatchEffect_of_ready s id now hready, dispatchMove, if_pos hscheduled]
  exact ⟨rfl, rfl, rfl, rfl⟩

/-- It leaves any other job alone. -/
theorem untouched_dispatch (h : (s.view id).Ready now → (s.view id).status? ≠ some .scheduled) :
    Untouched (s.view id) ((dispatchEffect now s).view id) := by
  by_cases hready : (s.view id).Ready now
  · rw [view_dispatchEffect_of_ready s id now hready, dispatchMove, if_neg (h hready)]
    exact ⟨rfl, rfl, rfl, fun _ => rfl⟩
  · rw [view_dispatchEffect_of_not_ready s id now hready]
    exact .refl _

variable [RateLimiter L]

/-- `reconcileRedis` and then `dispatch`. -/
def drainRound (round : CallEnv × CallEnv) (s : State L) : State L :=
  Call.dispatch.exec round.2 (Call.reconcileRedis.exec round.1 s)

/-- One round after the other. -/
def drain : List (CallEnv × CallEnv) → State L → State L
  | [], s => s
  | round :: rest, s => drain rest (drainRound round s)

/-- Both calls of the round happen at `now`. -/
def At (now : Int) (round : CallEnv × CallEnv) : Prop :=
  round.1.millis 0 = now ∧ round.2.millis 0 = now

variable {now} {round : CallEnv × CallEnv} (hclock : At now round) {job : Job}

include hclock

theorem drainRound_eq (s : State L) :
    drainRound round s = dispatchEffect now (reconcileEffect round.1 now s) := by
  rw [drainRound, exec_dispatch, exec_reconcileRedis, hclock.1, hclock.2]

/-- A job of a page is sent. -/
theorem round_listed (htimes : NonNegative s)
    (hmem : job ∈ overduePage round.1 now s ∨ job ∈ retryPage round.1 now s) :
    SentOnce (s.view job.id) ((drainRound round s).view job.id) := by
  rw [drainRound_eq hclock]
  rcases hmem with hmem | hmem
  · obtain ⟨hrow, hscheduled, hdue⟩ := of_mem_overduePage round.1 now hmem
    have hview : (s.view job.id).row = some job := hrow
    have hmiddle := view_reconcile_of_overdue round.1 now hmem
    have hready : ((reconcileEffect round.1 now s).view job.id).Ready now := by
      rw [hmiddle]
      exact ⟨_, rfl, (htimes job.id job hrow).1, hdue⟩
    have hstatus : ((reconcileEffect round.1 now s).view job.id).status? = some .scheduled := by
      rw [hmiddle, ← hscheduled]
      exact JobView.status?_of_row hview
    have hsent := sentOnce_dispatch now hready hstatus
    rw [hmiddle] at hsent
    exact ⟨hsent.row, hsent.inFlight, hsent.sent, hsent.score⟩
  · obtain ⟨hrow, -, time, htime, hdue⟩ := of_mem_retryPage round.1 now hmem
    have hview : (s.view job.id).row = some job := hrow
    have hmiddle := view_reconcile_of_retryDue round.1 now hmem htime
    have hready : ((reconcileEffect round.1 now s).view job.id).Ready now := by
      rw [hmiddle]
      exact ⟨time, rfl, (htimes job.id job hrow).2 time htime, hdue⟩
    have hstatus : ((reconcileEffect round.1 now s).view job.id).status? = some .scheduled := by
      rw [hmiddle]
      simp [JobView.withStatus, JobView.status?, hview]
    have hsent := sentOnce_dispatch now hready hstatus
    rw [hmiddle] at hsent
    refine ⟨hsent.row.trans ?_, hsent.inFlight, hsent.sent, hsent.score⟩
    simp [JobView.withStatus, hview]

/-- A job of neither page is sent if it is SCHEDULED and ready, and left alone
otherwise. -/
theorem round_unlisted
    (hpages : ∀ row, s.jobs.findById id = some row →
      row ∉ overduePage round.1 now s ∧ row ∉ retryPage round.1 now s) :
    (SentOnce (s.view id) ((drainRound round s).view id) ∧
        (s.view id).status? = some .scheduled) ∨
      Untouched (s.view id) ((drainRound round s).view id) := by
  have hmiddle : (reconcileEffect round.1 now s).view id = s.view id := by
    refine view_reconcile_of_unlisted round.1 now ?_ ?_
    · rintro row hmem rfl
      exact (hpages row (of_mem_overduePage round.1 now hmem).1).1 hmem
    · rintro row hmem rfl
      exact (hpages row (of_mem_retryPage round.1 now hmem).1).2 hmem
  rw [drainRound_eq hclock]
  by_cases hready : (s.view id).Ready now ∧ (s.view id).status? = some .scheduled
  · have hsent : SentOnce ((reconcileEffect round.1 now s).view id)
        ((dispatchEffect now (reconcileEffect round.1 now s)).view id) :=
      sentOnce_dispatch now (hmiddle ▸ hready.1) (hmiddle ▸ hready.2)
    rw [hmiddle] at hsent
    exact .inl ⟨hsent, hready.2⟩
  · have huntouched : Untouched ((reconcileEffect round.1 now s).view id)
        ((dispatchEffect now (reconcileEffect round.1 now s)).view id) :=
      untouched_dispatch now fun h hstatus => hready ⟨hmiddle ▸ h, hmiddle ▸ hstatus⟩
    rw [hmiddle] at huntouched
    exact .inr huntouched

/-- A round sends a job that is SCHEDULED or in RETRY, or leaves it alone; it
sends the jobs of its pages. -/
theorem round_cases (htimes : NonNegative s) (id : Int) :
    (SentOnce (s.view id) ((drainRound round s).view id) ∧
        ((s.view id).status? = some .scheduled ∨ (s.view id).status? = some .retry)) ∨
      (Untouched (s.view id) ((drainRound round s).view id) ∧
        ∀ row, s.jobs.findById id = some row →
          row ∉ overduePage round.1 now s ∧ row ∉ retryPage round.1 now s) := by
  by_cases hpages : ∀ row, s.jobs.findById id = some row →
      row ∉ overduePage round.1 now s ∧ row ∉ retryPage round.1 now s
  · rcases round_unlisted hclock hpages with ⟨hsent, hscheduled⟩ | huntouched
    · exact .inl ⟨hsent, .inl hscheduled⟩
    · exact .inr ⟨huntouched, hpages⟩
  · push Not at hpages
    obtain ⟨row, hrow, hlisted⟩ := hpages
    obtain rfl := JobTable.id_of_findById hrow
    have hmem : row ∈ overduePage round.1 now s ∨ row ∈ retryPage round.1 now s := by
      by_cases hoverdue : row ∈ overduePage round.1 now s
      · exact .inl hoverdue
      · exact .inr (hlisted hoverdue)
    have hview : (s.view row.id).row = some row := hrow
    refine .inl ⟨round_listed hclock htimes hmem, ?_⟩
    rw [JobView.status?_of_row hview]
    rcases hmem with hmem | hmem
    · exact .inl (congrArg some (of_mem_overduePage round.1 now hmem).2.1)
    · exact .inr (congrArg some (of_mem_retryPage round.1 now hmem).2.1)

/-- A row after a round is QUEUED or was the same before, on no page. -/
theorem row_of_round (htimes : NonNegative s)
    (hrow : (drainRound round s).jobs.findById job.id = some job) :
    (job.status = .queued ∧ ∃ row, s.jobs.findById job.id = some row ∧
        job = { row with status := .queued }) ∨
      (s.jobs.findById job.id = some job ∧
        job ∉ overduePage round.1 now s ∧ job ∉ retryPage round.1 now s) := by
  have hview := (State.view_row (drainRound round s) job.id).trans hrow
  rcases round_cases hclock htimes job.id with ⟨hsent, -⟩ | ⟨huntouched, hpages⟩
  · rw [hsent.row] at hview
    obtain ⟨row, hbefore, rfl⟩ := Option.map_eq_some_iff.mp hview
    exact .inl ⟨rfl, row, hbefore, rfl⟩
  · rw [huntouched.row] at hview
    exact .inr ⟨hview, hpages job hview⟩

theorem nonNegative_round (htimes : NonNegative s) : NonNegative (drainRound round s) := by
  intro id job hrow
  obtain rfl := JobTable.id_of_findById hrow
  rcases row_of_round hclock htimes hrow with ⟨-, row, hbefore, heq⟩ | ⟨hbefore, -⟩
  · rw [heq]
    exact htimes job.id row hbefore
  · exact htimes job.id job hbefore

/-- A round takes a page from each backlog. -/
theorem length_overdue_round (htimes : NonNegative s) :
    (backlog (Overdue now) (drainRound round s)).length ≤
      (backlog (Overdue now) s).length - 500 := by
  refine length_backlog_le (.findOverdueScheduled now 500) round.1 rfl
    (fun job hrow => selects_overdue_iff htimes hrow) fun job hjob => ?_
  obtain ⟨hrow, hdue⟩ := mem_backlog.mp hjob
  rcases row_of_round hclock htimes hrow with ⟨hqueued, -⟩ | ⟨hbefore, hpage, -⟩
  · rw [Overdue, hqueued] at hdue
    cases hdue.1
  · exact ⟨mem_backlog.mpr ⟨hbefore, hdue⟩, hpage⟩

theorem length_retryDue_round (htimes : NonNegative s) :
    (backlog (RetryDue now) (drainRound round s)).length ≤
      (backlog (RetryDue now) s).length - 500 := by
  refine length_backlog_le (.findRetryDue now 500) round.1 rfl
    (fun job hrow => selects_retryDue_iff htimes hrow) fun job hjob => ?_
  obtain ⟨hrow, hdue⟩ := mem_backlog.mp hjob
  rcases row_of_round hclock htimes hrow with ⟨hqueued, -⟩ | ⟨hbefore, -, hpage⟩
  · rw [RetryDue, hqueued] at hdue
    cases hdue.1
  · exact ⟨mem_backlog.mpr ⟨hbefore, hdue⟩, hpage⟩

end Round

/-! ## All rounds -/

section Drain

variable [RateLimiter L] {now : Int} {rounds : List (CallEnv × CallEnv)} {s : State L} {id : Int}

/-- A job that is neither SCHEDULED nor in RETRY is left alone. -/
theorem untouched_drain (hclock : ∀ round ∈ rounds, At now round) (htimes : NonNegative s)
    (hscheduled : (s.view id).status? ≠ some .scheduled)
    (hretry : (s.view id).status? ≠ some .retry) :
    Untouched (s.view id) ((drain rounds s).view id) := by
  induction rounds generalizing s with
  | nil => exact .refl _
  | cons round rest ih =>
      have hround := hclock round List.mem_cons_self
      have hrest : ∀ other ∈ rest, At now other :=
        fun other hother => hclock other (List.mem_cons_of_mem round hother)
      have hfirst : Untouched (s.view id) ((drainRound round s).view id) := by
        rcases round_cases hround htimes id with ⟨-, h | h⟩ | ⟨h, -⟩
        · exact absurd h hscheduled
        · exact absurd h hretry
        · exact h
      have hstatus : ((drainRound round s).view id).status? = (s.view id).status? := by
        rw [JobView.status?, hfirst.row]
        rfl
      rw [drain]
      refine hfirst.trans (ih hrest (nonNegative_round hround htimes) ?_ ?_)
      · rwa [hstatus]
      · rwa [hstatus]

/-- Every job of the two backlogs is sent once. -/
theorem sentOnce_drain (hclock : ∀ round ∈ rounds, At now round) (htimes : NonNegative s)
    (henough : max (backlog (Overdue now) s).length (backlog (RetryDue now) s).length ≤
      500 * rounds.length)
    {job : Job} (hrow : s.jobs.findById job.id = some job)
    (hdue : Overdue now job ∨ RetryDue now job) :
    SentOnce (s.view job.id) ((drain rounds s).view job.id) := by
  induction rounds generalizing s with
  | nil =>
      -- no rounds are enough for empty backlogs only
      rcases hdue with hdue | hdue
      · have hpos := List.length_pos_of_mem (mem_backlog.mpr ⟨hrow, hdue⟩)
        rw [List.length_nil] at henough
        omega
      · have hpos := List.length_pos_of_mem (mem_backlog.mpr ⟨hrow, hdue⟩)
        rw [List.length_nil] at henough
        omega
  | cons round rest ih =>
      have hround := hclock round List.mem_cons_self
      have hrest : ∀ other ∈ rest, At now other :=
        fun other hother => hclock other (List.mem_cons_of_mem round hother)
      have htimes' := nonNegative_round hround htimes
      rw [drain]
      rcases round_cases hround htimes job.id with ⟨hsent, -⟩ | ⟨huntouched, -⟩
      · -- QUEUED from now on
        have hview : (s.view job.id).row = some job := hrow
        have hqueued : ((drainRound round s).view job.id).status? = some .queued := by
          rw [JobView.status?, hsent.row, hview]
          rfl
        exact hsent.untouched (untouched_drain hrest htimes' (by rw [hqueued]; decide)
          (by rw [hqueued]; decide))
      · have hsame : (drainRound round s).jobs.findById job.id = some job := by
          rw [← State.view_row, huntouched.row, State.view_row, hrow]
        refine huntouched.sentOnce (ih hrest htimes' ?_ hsame)
        have hoverdue := length_overdue_round hround htimes
        have hretry := length_retryDue_round hround htimes
        rw [List.length_cons] at henough
        omega

/-- Reconciliation drains any backlog without loss or duplication.  Let no time
in the table be negative.  After `k` rounds at `now`, where `500 * k` is at least
the number of overdue SCHEDULED jobs and the number of due RETRY jobs, each job
of the two backlogs is QUEUED, exactly one message was sent for it and is in the
topic, and it is not in the delay queue; a job that was neither SCHEDULED nor in
RETRY has the same row, and nothing was sent for it.  The delay queue may hold
anything to begin with. -/
theorem backlog_drained (hclock : ∀ round ∈ rounds, At now round) (htimes : NonNegative s)
    (henough : max (backlog (Overdue now) s).length (backlog (RetryDue now) s).length ≤
      500 * rounds.length)
    {job : Job} (hrow : s.jobs.findById id = some job) :
    (Overdue now job ∨ RetryDue now job →
      (drain rounds s).jobs.findById id = some { job with status := .queued } ∧
        (drain rounds s).sent.countP (carries id) = s.sent.countP (carries id) + 1 ∧
        (drain rounds s).topic.countP (carries id) = s.topic.countP (carries id) + 1 ∧
        (drain rounds s).scheduledJobs.score? id = none) ∧
      (job.status ≠ .scheduled → job.status ≠ .retry →
        (drain rounds s).jobs.findById id = some job ∧
          (drain rounds s).sent.countP (carries id) = s.sent.countP (carries id) ∧
          (drain rounds s).topic.countP (carries id) = s.topic.countP (carries id)) := by
  obtain rfl := JobTable.id_of_findById hrow
  have hview : (s.view job.id).row = some job := hrow
  have hstatus := JobView.status?_of_row hview
  constructor
  · intro hdue
    have hsent := sentOnce_drain hclock htimes henough hrow hdue
    have hrow' := hsent.row
    rw [hview, State.view_row] at hrow'
    exact ⟨hrow', hsent.sent, hsent.inFlight, hsent.score⟩
  · intro hscheduled hretry
    have huntouched : Untouched (s.view job.id) ((drain rounds s).view job.id) := by
      refine untouched_drain hclock htimes ?_ ?_
      · rw [hstatus]
        exact fun h => hscheduled (Option.some.inj h)
      · rw [hstatus]
        exact fun h => hretry (Option.some.inj h)
    have hrow' := huntouched.row
    rw [hview, State.view_row] at hrow'
    exact ⟨hrow', huntouched.sent, huntouched.inFlight⟩

end Drain

/-- A job for 10:00 is SCHEDULED and a job that failed once is in RETRY when Redis
loses its data. -/
def lostBacklog : State LuaLimiter :=
  (Call.execAll
    [(.createJob (.scheduled "LOG" "10:00"), .within 1000 (.ok ())),
      (.watch, .within 16190000 (.ok ())),
      (.createJob (.immediate "API"), .within 16191000 (.ok ())),
      (.consume "2", .within 16192000 (.error ⟨none⟩))]
    (State.empty LuaLimiter.empty)).loseRedis .empty

/-- One round sends both. -/
theorem backlog_drained_lostBacklog :
    let round := (CallEnv.within 16300000 (.ok ()), CallEnv.within 16300000 (.ok ()))
    (drain [round] lostBacklog).sent.countP (carries 1) = 1 ∧
      (drain [round] lostBacklog).sent.countP (carries 2) = 2 := by
  intro round
  have hclock : ∀ other ∈ [round], At 16300000 other := by
    intro other hother
    rw [List.mem_singleton.mp hother]
    exact ⟨by decide, by decide⟩
  have hrows : lostBacklog.jobs.rows =
      [⟨⟨"LOG", .scheduled, none, none, none, 0, 16200000, none⟩, 1⟩,
        ⟨⟨"API", .retry, none, none, none, 1, 16191000, some 16194000⟩, 2⟩] := by decide
  have htimes : NonNegative lostBacklog := by
    intro id job hrow
    have hmem := ((JobTable.findById_eq_some_iff _ _ _).mp hrow).1
    rw [hrows] at hmem
    rcases List.mem_cons.mp hmem with rfl | hmem
    · simp
    · rw [List.mem_singleton.mp hmem]
      simp
  have hfirst : lostBacklog.jobs.findById 1 =
      some ⟨⟨"LOG", .scheduled, none, none, none, 0, 16200000, none⟩, 1⟩ := by decide
  have hsecond : lostBacklog.jobs.findById 2 =
      some ⟨⟨"API", .retry, none, none, none, 1, 16191000, some 16194000⟩, 2⟩ := by decide
  have hsent := backlog_drained hclock htimes (by decide) hfirst
  have hsent' := backlog_drained hclock htimes (by decide) hsecond
  exact ⟨(hsent.1 (.inl (by decide))).2.1, (hsent'.1 (.inr (by decide))).2.1⟩

end JobQueue
