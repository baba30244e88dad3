import JobQueue.Lifecycle.PendingPage
import JobQueue.Lifecycle.RecoveryPages

/-!
# The retry page of the watcher

The second loop of the watcher takes at most 200 RETRY jobs a call, those with the
earliest retry times first.  A consumer puts a job back for a time at least two
seconds ahead, so nothing joins the RETRY jobs that are due already: like the
backlog of PENDING jobs, that of due RETRY jobs loses a page with every call.
-/

namespace JobQueue

open Call KafkaConsumerService WatcherService

variable {L : Type}

/-! ## One page -/

/-- The retry page of the window at `now`. -/
def retryWindowPage (env : CallEnv) (now : Int) (s : State L) : List Job :=
  env.page (.findRetryWindow 0 (now + 20000) 200) s

theorem length_retryWindowPage_filter (env : CallEnv) (s : State L) {now limit : Int}
    (hlimit : limit ≤ now + 20000) :
    ((retryWindowPage env now s).filter fun job => RetryDue limit job).length =
      min 200 (backlog (RetryDue limit) s).length := by
  refine length_page_filter env s rfl ?_ ?_
  · rintro job ⟨hretry, time, htime, hlow, hhigh⟩
    simp only [JobQuery.selects, JobQuery.retryBetween, hretry, htime, decide_eq_true_eq]
    exact ⟨trivial, hlow, hhigh.trans hlimit⟩
  · rintro a b hsel ⟨-, timeB, htimeB, -, hhigh⟩ hle
    simp only [JobQuery.selects, decide_eq_true_eq] at hsel
    cases htimeA : a.nextRetryTime with
    | none => simp [JobQuery.retryBetween, htimeA] at hsel
    | some timeA =>
        simp only [JobQuery.retryBetween, htimeA, decide_eq_true_eq] at hsel
        simp only [htimeA, htimeB, Option.getD_some] at hle
        exact ⟨hsel.1, timeA, htimeA, hsel.2.1, hle.trans hhigh⟩

/-! ## One call -/

/-- The first attempt after a failure is at least two seconds later. -/
theorem two_seconds_le_backoff (retryCount : Nat) : 2000 ≤ backoff (retryCount + 1) := by
  have hpow : (1 : Int) ≤ 2 ^ retryCount := one_le_pow₀ (by decide)
  rw [backoff, pow_succ]
  omega

/-- The job is in RETRY because it was so in `v`, or it was put back by a reading
of the clock of at least two seconds before its retry time. -/
def Rejoined (env : CallEnv) (v w : JobView) : Prop :=
  w.row = v.row ∨ ∃ time k, w.retryTime? = some time ∧ env.millis k + 2000 ≤ time

section Calls

variable [RateLimiter L] {env : CallEnv} {s : State L} {id : Int}

/-- A delivery puts its job back for a time at least two seconds ahead. -/
theorem deliveryOutcome_time :
    (∀ time, deliveryOutcome s id env = .defer time → ∃ k, env.millis k + 2000 ≤ time) ∧
      (∀ now, deliveryOutcome s id env = .fail now → now = env.millis 1) := by
  unfold deliveryOutcome
  cases s.jobs.findById id with
  | none => exact ⟨nofun, nofun⟩
  | some job =>
      dsimp only
      unfold consumeOutcome
      cases verdict env job s with
      | cancelled => exact ⟨nofun, nofun⟩
      | rateLimited =>
          refine ⟨fun time h => ⟨3, ?_⟩, nofun⟩
          rw [Outcome.defer.inj h]
      | circuitOpen =>
          refine ⟨fun time h => ⟨1, ?_⟩, nofun⟩
          rw [← Outcome.defer.inj h]
          omega
      | admitted =>
          dsimp only
          split_ifs
          · unfold executeOutcome
            split
            · exact ⟨nofun, nofun⟩
            · exact ⟨nofun, fun _ h => (Outcome.fail.inj h).symm⟩
          · exact ⟨nofun, nofun⟩

/-- The same for the move of a whole call. -/
theorem Move.rejoined {c : Call} {m : Move} {v w : JobView} (hallowed : c.Allows env s id m)
    (henabled : m.Enabled w) (h : w.status? = some .retry → Rejoined env v w)
    (hretry : (m.apply id w).status? = some .retry) : Rejoined env v (m.apply id w) := by
  cases m with
  | create data =>
      obtain ⟨-, hpending, -⟩ := henabled
      simp [Move.apply, JobView.status?, hpending] at hretry
  | requestCancel | reinsert | drop => exact h hretry
  | sendNow | schedule | scheduleRetry | dispatch | requeue =>
      cases hrow : w.row <;>
        simp [Move.apply, JobView.status?, JobView.withStatus, JobView.withMessage, hrow] at hretry
  | consume delivery outcome =>
      obtain ⟨-, houtcome⟩ := hallowed
      obtain ⟨-, henabled⟩ := henabled
      cases outcome with
      | ignore => exact h hretry
      | honour | complete =>
          cases hrow : w.row <;>
            simp [Move.apply, Outcome.apply, JobView.status?, JobView.withStatus, hrow] at hretry
      | defer time =>
          obtain ⟨job, hrow⟩ := Option.isSome_iff_exists.mp henabled
          obtain ⟨k, hk⟩ := deliveryOutcome_time.1 time houtcome.symm
          exact .inr ⟨time, k, by simp [Move.apply, Outcome.apply, JobView.retryTime?, hrow,
            deferred], hk⟩
      | fail now =>
          obtain ⟨job, hrow, -⟩ := JobView.exists_row henabled
          obtain rfl := deliveryOutcome_time.2 now houtcome.symm
          have hbackoff := two_seconds_le_backoff job.retryCount
          have hcount : ¬ MAX_RETRY ≤ job.retryCount := by
            intro hexhausted
            simp [Move.apply, Outcome.apply, JobView.status?, hrow, failedRow, hexhausted]
              at hretry
          refine .inr ⟨env.millis 1 + backoff (job.retryCount + 1), 1, ?_, by omega⟩
          simp [Move.apply, Outcome.apply, JobView.retryTime?, hrow, failedRow, hcount, deferred]

/-- A job that is in RETRY after a call was so before, or was put back by it. -/
theorem rejoined_of_exec {c : Call} (henabled : c.Enabled s)
    (hretry : ((c.exec env s).view id).status? = some .retry) :
    Rejoined env (s.view id) ((c.exec env s).view id) :=
  (life_exec env s id c henabled).invariant
    (fun w => w.status? = some .retry → Rejoined env (s.view id) w)
    (fun _ _ hallowed hm hw => Move.rejoined hallowed hm hw) (fun _ => .inl rfl) hretry

/-- No call adds to a backlog of RETRY jobs that are due within two seconds. -/
theorem mem_retryBacklog_of_exec {c : Call} {limit : Int} (henabled : c.Enabled s)
    (hclock : ∀ k, limit < env.millis k + 2000) {job : Job}
    (hjob : job ∈ backlog (RetryDue limit) (c.exec env s)) :
    job ∈ backlog (RetryDue limit) s := by
  obtain ⟨hrow, hdue⟩ := mem_backlog.mp hjob
  have hview : ((c.exec env s).view job.id).row = some job := hrow
  have hretry : ((c.exec env s).view job.id).status? = some .retry := by
    rw [JobView.status?_of_row hview, hdue.1]
  rcases rejoined_of_exec henabled hretry with hsame | ⟨time, k, htime, hk⟩
  · exact mem_backlog.mpr ⟨hsame.symm.trans hview, hdue⟩
  · obtain ⟨-, due, hdueTime, -, hlimit⟩ := hdue
    rw [JobView.retryTime?_of_row hview, hdueTime] at htime
    have hsoon := hclock k
    have := Option.some.inj htime
    omega

end Calls

/-- The moves of a scheduling pass. -/
def Move.OfPass (m : Move) : Prop :=
  m = .schedule ∨ m = .scheduleRetry ∨ ∃ now, m = .reinsert now

/-- The scheduling passes put no job into RETRY. -/
theorem Life.row_of_retry {id : Int} {v w : JobView} (hlife : Life Move.OfPass id v w)
    (hretry : w.status? = some .retry) : w.row = v.row := by
  refine hlife.invariant (fun w => w.status? = some .retry → w.row = v.row) ?_ (fun _ => rfl)
    hretry
  intro m w hm henabled hw hretry
  rcases hm with rfl | rfl | ⟨now, rfl⟩
  · obtain ⟨job, hrow, -⟩ := JobView.exists_row henabled
    simp [Move.apply, JobView.status?, JobView.withStatus, hrow] at hretry
  · obtain ⟨job, hrow, -⟩ := JobView.exists_row henabled.1
    simp [Move.apply, JobView.status?, JobView.withStatus, hrow] at hretry
  · exact hw hretry

section Watch

variable [RateLimiter L] {env : CallEnv} {s : State L} {limit : Int}

/-- A call of the watcher takes a page from the backlog of due RETRY jobs. -/
theorem length_retryBacklog_watch (hclock : limit ≤ env.millis 0 + 20000) :
    (backlog (RetryDue limit) (watch.exec env s)).length ≤
      (backlog (RetryDue limit) s).length - 200 := by
  let now := env.millis 0
  let recovered := gapEffect env now s.lastRun { s with lastRun := some now }
  let scheduled := (windowPage env now recovered).foldl
    (fun t job => schedulePendingEffect job t) recovered
  have hexec : watch.exec env s = (retryWindowPage env now scheduled).foldl
      (fun t job => scheduleRetryEffect job t) scheduled := exec_watch env s
  have hwindow : (JobQuery.findRetryWindow 0 (now + 20000) 200).ForRetry := trivial
  have hpass : ∀ id, Life Move.OfPass id (s.view id) (scheduled.view id) := by
    intro id
    have hgap : Life Move.OfPass id (s.view id) (recovered.view id) :=
      life_gap env s id now s.lastRun (.inl rfl) (.inr (.inl rfl))
        (fun _ _ => .inr (.inr ⟨_, rfl⟩))
    have hrows : AtMostOne Move.OfPass id (recovered.view id) (scheduled.view id) :=
      atMostOne_schedulePending env recovered id now (.inl rfl)
    exact hgap.trans hrows.to_reflTransGen
  refine length_backlog_le_of_page (q := .findRetryWindow 0 (now + 20000) 200) (t := scheduled) ?_
    (length_retryWindowPage_filter env scheduled hclock) ?_
  · -- what comes before the second loop leaves rows in RETRY as they are
    intro job hjob
    obtain ⟨hrow, hdue⟩ := mem_backlog.mp hjob
    have hview : (scheduled.view job.id).row = some job := hrow
    have hretry : (scheduled.view job.id).status? = some .retry := by
      rw [JobView.status?_of_row hview, hdue.1]
    have hsame := (hpass job.id).row_of_retry hretry
    exact mem_backlog.mpr ⟨hsame.symm.trans hview, hdue⟩
  · intro job hjob
    obtain ⟨hrow, hdue⟩ := mem_backlog.mp hjob
    have hview : ((watch.exec env s).view job.id).row = some job := hrow
    have hretry : ((watch.exec env s).view job.id).status? = some .retry := by
      rw [JobView.status?_of_row hview, hdue.1]
    have hloop : Life Move.OfPass job.id (scheduled.view job.id)
        ((watch.exec env s).view job.id) := by
      rw [hexec]
      exact (atMostOne_scheduleRetry env scheduled job.id _ hwindow
        (.inr (.inl rfl))).to_reflTransGen
    have hsame := hloop.row_of_retry hretry
    refine ⟨mem_backlog.mpr ⟨hsame.symm.trans hview, hdue⟩, fun hmem => ?_⟩
    -- a job of the page is SCHEDULED after the loop
    have hstatus := status?_scheduleRetry hwindow hmem
    rw [hexec] at hretry
    rw [retryWindowPage, hstatus] at hretry
    cases hretry

/-! ## Runs -/

/-- Along a run, the backlog of due RETRY jobs loses a page with every call of the
watcher. -/
theorem length_retryBacklog_run {s t : Timed L} {labels : List (Call × CallEnv)}
    (hrun : Run TimedCallStep s labels t) (hlimit : limit < s.now + 2000) :
    (backlog (RetryDue limit) t.state).length ≤
      (backlog (RetryDue limit) s.state).length -
        200 * labels.countP fun label => label.1 = .watch := by
  refine length_backlog_run (fun env u hlater => ?_)
    (fun c env u henabled hlater job hjob => ?_) hrun (le_refl s.now)
  · refine length_retryBacklog_watch ?_
    have hreading := hlater 0
    omega
  · refine mem_retryBacklog_of_exec henabled (fun k => ?_) hjob
    exact hlimit.trans_le (Int.add_le_add_right (hlater k) _)

end Watch

end JobQueue
