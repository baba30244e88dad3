import JobQueue.Lifecycle.NoEarlySend
import JobQueue.Lifecycle.Drain

/-!
# The page of the watcher

The watcher schedules at most 200 PENDING jobs a call, the earliest first.  A job
that is created later and stays PENDING is due more than a minute after its
creation, so it comes after every job of the window at an earlier time: what a
call takes from a backlog it takes from its front, and nothing is added to the
backlog.  After as many calls as the backlog has pages it is empty, whatever
other calls come between them.
-/

namespace JobQueue

open Call JobService KafkaConsumerService WatcherService

variable {L : Type}

/-- A PENDING job with its schedule time in `[0, limit]`. -/
def PendingBy (limit : Int) (job : Job) : Prop :=
  job.status = .pending ∧ 0 ≤ job.scheduleTime ∧ job.scheduleTime ≤ limit

instance (limit : Int) : DecidablePred (PendingBy limit) := fun _ =>
  inferInstanceAs (Decidable (_ ∧ _))

/-! ## The front of an ordered list -/

/-- In a list that has the items of a kind first, a page takes these first. -/
theorem filter_take_of_pairwise {α : Type} {p : α → Bool} {l : List α}
    (hfront : l.Pairwise fun a b => p b = true → p a = true) (n : Nat) :
    (l.take n).filter p = (l.filter p).take n := by
  induction l generalizing n with
  | nil => simp
  | cons a rest ih =>
      obtain ⟨hhead, hrest⟩ := List.pairwise_cons.mp hfront
      cases n with
      | zero => simp
      | succ n =>
          by_cases ha : p a = true
          · simp [ha, ih hrest]
          · -- the kind is over
            have hnone : rest.filter p = [] :=
              List.filter_eq_nil_iff.mpr fun b hb hpb => ha (hhead b hb hpb)
            rw [List.take_succ_cons, List.filter_cons_of_neg ha, List.filter_cons_of_neg ha,
              ih hrest, hnone, List.take_nil, List.take_nil]

/-! ## One page -/

/-- A page ordered by a column is full of the rows of a kind that comes first in
this order, or holds all of them. -/
theorem length_page_filter {kind : Job → Prop} [DecidablePred kind] {q : JobQuery}
    {key : Job → Int} (env : CallEnv) (s : State L) (horder : q.orderBy = some key)
    (hselects : ∀ job, kind job → q.selects job = true)
    (hfirst : ∀ a b, q.selects a = true → kind b → key a ≤ key b → kind a) :
    ((env.page q s).filter fun job => kind job).length =
      min q.pageSize (backlog kind s).length := by
  let found := (env.order q).arrange (s.jobs.rows.filter q.selects)
  have hsort : q.sort found = found.insertionSort fun a b => key a ≤ key b := by
    simp only [JobQuery.sort, horder]
  have hsorted : (q.sort found).Pairwise fun a b => key a ≤ key b := by
    rw [hsort]
    exact List.pairwise_insertionSort (fun a b : Job => key a ≤ key b) found
  have hperm : (q.sort found).Perm (s.jobs.rows.filter q.selects) :=
    (q.sort_perm found).trans ((env.order q).perm _)
  have hfront : (q.sort found).Pairwise fun a b =>
      decide (kind b) = true → decide (kind a) = true := by
    refine hsorted.imp_of_mem fun ha _ hle hb => ?_
    have hsel := (List.mem_filter.mp (hperm.mem_iff.mp ha)).2
    exact decide_eq_true (hfirst _ _ hsel (of_decide_eq_true hb) hle)
  have hsame : (s.jobs.rows.filter q.selects).filter (fun job => kind job) = backlog kind s := by
    rw [List.filter_filter]
    refine List.filter_congr fun job _ => ?_
    rw [Bool.and_eq_left_iff_imp]
    exact fun hjob => hselects job (of_decide_eq_true hjob)
  have hpage : env.page q s = (q.sort found).take q.pageSize := rfl
  rw [hpage, filter_take_of_pairwise hfront, List.length_take,
    (hperm.filter fun job => kind job).length_eq, hsame]

/-- A backlog that has not grown up to the query loses such a page, if nothing is added to it
and no row of the page stays in it. -/
theorem length_backlog_le_of_page {kind : Job → Prop} [DecidablePred kind] {q : JobQuery}
    {env : CallEnv} {s t u : State L} (hgrown : ∀ job ∈ backlog kind t, job ∈ backlog kind s)
    (hfull : ((env.page q t).filter fun job => kind job).length =
      min q.pageSize (backlog kind t).length)
    (hshrinks : ∀ job ∈ backlog kind u, job ∈ backlog kind t ∧ job ∉ env.page q t) :
    (backlog kind u).length ≤ (backlog kind s).length - q.pageSize := by
  have hpage : ∀ job ∈ (env.page q t).filter fun job => kind job, job ∈ backlog kind t := by
    intro job hjob
    obtain ⟨hmem, hkind⟩ := List.mem_filter.mp hjob
    exact mem_backlog.mpr ⟨(JobTable.mem_select hmem).1, of_decide_eq_true hkind⟩
  have hnodup : ((env.page q t).filter fun job => kind job).Nodup :=
    (JobTable.nodup_select _ _ _).of_map.filter _
  have htaken := length_backlog_add_le hnodup hpage fun job hjob =>
    ⟨(hshrinks job hjob).1, fun hmem => (hshrinks job hjob).2 (List.mem_of_mem_filter hmem)⟩
  have hfewer := (List.subperm_of_subset (nodup_backlog kind t) hgrown).length_le
  omega

section Page

variable (env : CallEnv) {s : State L} {now limit : Int}

/-- The page of the window at `now`. -/
def windowPage (env : CallEnv) (now : Int) (s : State L) : List Job :=
  env.page (.findWindow 0 (now + 20000) 200) s

/-- The page is full of backlog, or holds the whole of it. -/
theorem length_windowPage_filter (hlimit : limit ≤ now + 20000) :
    ((windowPage env now s).filter fun job => PendingBy limit job).length =
      min 200 (backlog (PendingBy limit) s).length := by
  refine length_page_filter env s rfl ?_ ?_
  · rintro job ⟨hpending, hlow, hhigh⟩
    simp only [JobQuery.selects, decide_eq_true_eq]
    exact ⟨hpending, hlow, hhigh.trans hlimit⟩
  · rintro a b hsel ⟨-, -, hhigh⟩ hle
    obtain ⟨hpending, hlow, -⟩ := JobQuery.of_selects_window hsel
    exact ⟨hpending, hlow, hle.trans hhigh⟩

end Page

/-! ## One call -/

/-- No move makes an existing job PENDING, and a job that stays PENDING keeps its
row. -/
theorem Move.row_of_pending {m : Move} {v : JobView} {id : Int} (henabled : m.Enabled v)
    (hrow : v.row ≠ none) (hpending : (m.apply id v).status? = some .pending) :
    (m.apply id v).row = v.row := by
  obtain ⟨job, hjob⟩ := Option.ne_none_iff_exists'.mp hrow
  cases m with
  | create data => exact absurd henabled.1 hrow
  | requestCancel | reinsert | drop => rfl
  | sendNow | schedule | scheduleRetry | dispatch | requeue =>
      simp [Move.apply, JobView.status?, JobView.withStatus, JobView.withMessage, hjob]
        at hpending
  | consume delivery outcome =>
      cases outcome with
      | ignore => rfl
      | honour | defer | complete =>
          simp [Move.apply, Outcome.apply, JobView.status?, JobView.withStatus, hjob, deferred]
            at hpending
      | fail now =>
          rcases failedRow_cases job now with hs | ⟨hs, -⟩ <;>
            simp [Move.apply, Outcome.apply, JobView.status?, hjob, hs] at hpending

/-- A job with a row that is PENDING in the end was PENDING all the time. -/
theorem Life.row_of_pending {allowed : Move → Prop} {id : Int} {v w : JobView}
    (hlife : Life allowed id v w) (hrow : v.row ≠ none) :
    w.row ≠ none ∧ (w.status? = some .pending → w.row = v.row) := by
  refine hlife.invariant (fun w => w.row ≠ none ∧ (w.status? = some .pending → w.row = v.row))
    (fun m w _ henabled ⟨hw, hsame⟩ => ⟨?_, fun hpending => ?_⟩) ⟨hrow, fun _ => rfl⟩
  · obtain ⟨job, hjob⟩ := Option.ne_none_iff_exists'.mp hw
    cases m with
    | consume delivery outcome =>
        cases outcome <;> simp [Move.apply, Outcome.apply, JobView.withStatus, hjob]
    | _ => simp [Move.apply, JobView.withStatus, JobView.withMessage, hjob]
  · have hmove := Move.row_of_pending henabled hw hpending
    have hstatus : w.status? = some .pending := by
      rw [JobView.status?, hmove] at hpending
      exact hpending
    rw [hmove, hsame hstatus]

/-- Only a creation gives a job its row. -/
theorem Life.row_none {allowed : Move → Prop} {id : Int} {v w : JobView}
    (hlife : Life allowed id v w) (hcreate : ∀ data, ¬ allowed (.create data))
    (hrow : v.row = none) : w.row = none := by
  refine hlife.invariant (fun w => w.row = none) (fun m w hallowed _ hw => ?_) hrow
  cases m with
  | create data => exact absurd hallowed (hcreate data)
  | consume delivery outcome =>
      cases outcome <;> simp [Move.apply, Outcome.apply, JobView.withStatus, hw]
  | _ => simp [Move.apply, JobView.withStatus, JobView.withMessage, hw]

/-- Where no job is created, a PENDING row was there before. -/
theorem Life.row_before {allowed : Move → Prop} {id : Int} {v w : JobView} {job : Job}
    (hlife : Life allowed id v w) (hcreate : ∀ data, ¬ allowed (.create data))
    (hrow : w.row = some job) (hpending : job.status = .pending) : v.row = some job := by
  have hbefore : v.row ≠ none := by
    intro hnone
    rw [hlife.row_none hcreate hnone] at hrow
    cases hrow
  have hstatus : w.status? = some .pending := by
    rw [JobView.status?_of_row hrow, hpending]
  rw [← (hlife.row_of_pending hbefore).2 hstatus, hrow]

/-- A new job that stays PENDING is due more than a minute later. -/
theorem scheduleTime_createEffect {request : JobRequest} {time now : Int} {s : State L}
    {job : Job} (hrow : (createEffect request time now s).jobs.findById s.jobs.nextId = some job)
    (hpending : job.status = .pending) : now + IMMEDIATE_THRESHOLD < job.scheduleTime := by
  rw [← State.view_row, view_createEffect_self] at hrow
  dsimp only at hrow
  split_ifs at hrow with himmediate
  · rw [← Option.some.inj hrow] at hpending
    cases hpending
  · rw [← Option.some.inj hrow]
    show now + IMMEDIATE_THRESHOLD < time
    omega

/-- A row that is PENDING after the two loops of the watcher was on no page. -/
theorem row_of_windowEffect (env : CallEnv) {s : State L} {now : Int} {job : Job}
    (hrow : (windowEffect env now s).jobs.findById job.id = some job)
    (hpending : job.status = .pending) :
    s.jobs.findById job.id = some job ∧ job ∉ windowPage env now s := by
  have hview : ((windowEffect env now s).view job.id).row = some job := hrow
  have hlife : Life (fun m => ∀ data, m ≠ .create data) job.id (s.view job.id)
      ((windowEffect env now s).view job.id) :=
    life_window env s job.id now (fun _ h => by cases h) (fun _ h => by cases h)
  refine ⟨hlife.row_before (fun data h => h data rfl) hview hpending, fun hmem => ?_⟩
  have hscheduled := status?_schedulePending hmem
  have hretries : Life (fun m => m = .schedule ∨ m = .scheduleRetry) job.id _
      ((windowEffect env now s).view job.id) :=
    (atMostOne_scheduleRetry env _ job.id (.findRetryWindow 0 (now + 20000) 200) trivial
      (.inr rfl)).to_reflTransGen
  rw [← hretries.eq_of_scheduled hscheduled, JobView.status?_of_row hview, hpending] at hscheduled
  cases hscheduled

/-- A watcher schedules the PENDING job it moves, with its schedule time as score. -/
theorem Life.scheduled {allowed : Move → Prop} {id : Int} {v w : JobView} {job : Job}
    (hlife : Life allowed id v w)
    (hallowed : ∀ m, allowed m → m = .schedule ∨ m = .scheduleRetry ∨ ∃ now, m = .reinsert now)
    (hrow : v.row = some job) (hpending : job.status = .pending) :
    w.row = some job ∨
      w.row = some { job with status := .scheduled } ∧ w.score = some job.scheduleTime := by
  refine hlife.invariant (fun w => w.row = some job ∨
    w.row = some { job with status := .scheduled } ∧ w.score = some job.scheduleTime) ?_
    (.inl hrow)
  rintro m w hm henabled (hw | ⟨hw, hscore⟩)
  · have hstatus : w.status? = some .pending := by
      rw [JobView.status?_of_row hw, hpending]
    rcases hallowed m hm with rfl | rfl | ⟨now, rfl⟩
    · exact .inr (by simp [Move.apply, JobView.withStatus, hw])
    · simp [Move.Enabled, hstatus] at henabled
    · simp [Move.Enabled, hstatus] at henabled
  · have hstatus : w.status? = some .scheduled := JobView.status?_of_row hw
    rcases hallowed m hm with rfl | rfl | ⟨now, rfl⟩
    · simp [Move.Enabled, hstatus] at henabled
    · simp [Move.Enabled, hstatus] at henabled
    · exact .inr ⟨hw, by simp [Move.apply, hw]⟩

section Calls

variable [RateLimiter L] {c : Call} {env : CallEnv} {s : State L} {id limit : Int}

variable (env) in
/-- A job with a row that is PENDING after a call was so before. -/
theorem row_of_exec (henabled : c.Enabled s) (hrow : (s.view id).row ≠ none) :
    ((c.exec env s).view id).row ≠ none ∧
      (((c.exec env s).view id).status? = some .pending →
        ((c.exec env s).view id).row = (s.view id).row) :=
  (life_exec env s id c henabled).row_of_pending hrow

/-- No call adds to a backlog of jobs that are due within the minute. -/
theorem mem_backlog_of_exec (henabled : c.Enabled s)
    (hclock : ∀ k, limit ≤ env.millis k + IMMEDIATE_THRESHOLD) {job : Job}
    (hjob : job ∈ backlog (PendingBy limit) (c.exec env s)) :
    job ∈ backlog (PendingBy limit) s := by
  obtain ⟨hrow, hdue⟩ := mem_backlog.mp hjob
  have hlife := life_exec env s job.id c henabled
  by_cases hcreate : ∃ data, c.Allows env s job.id (.create data)
  · -- the row is new, and what createJob leaves PENDING is due later
    obtain ⟨data, request, time, rfl, hid, -⟩ := hcreate
    rcases exec_createJob env s request with hsame | ⟨time, k, heffect⟩
    · rwa [hsame] at hjob
    · rw [heffect, hid] at hrow
      have hlate := scheduleTime_createEffect hrow hdue.1
      have hsoon := hclock k
      have hlimit := hdue.2.2
      omega
  · have hrow' := hlife.row_before (fun data h => hcreate ⟨data, h⟩) hrow hdue.1
    exact mem_backlog.mpr ⟨hrow', hdue⟩

/-- A call of the watcher takes a page from the backlog. -/
theorem length_backlog_watch (hclock : limit ≤ env.millis 0 + 20000) :
    (backlog (PendingBy limit) (watch.exec env s)).length ≤
      (backlog (PendingBy limit) s).length - 200 := by
  let now := env.millis 0
  let recovered := gapEffect env now s.lastRun { s with lastRun := some now }
  have hexec : watch.exec env s = windowEffect env now recovered := exec_watch env s
  refine length_backlog_le_of_page (q := .findWindow 0 (now + 20000) 200) (t := recovered) ?_
    (length_windowPage_filter env hclock) ?_
  · intro job hjob
    obtain ⟨hrow, hdue⟩ := mem_backlog.mp hjob
    have hlife : Life (fun m => ∀ data, m ≠ .create data) job.id (s.view job.id)
        (recovered.view job.id) :=
      life_gap env s job.id now s.lastRun (fun _ h => by cases h) (fun _ h => by cases h)
        (fun _ _ _ h => by cases h)
    exact mem_backlog.mpr ⟨hlife.row_before (fun data h => h data rfl) hrow hdue.1, hdue⟩
  · intro job hjob
    rw [hexec] at hjob
    obtain ⟨hrow, hdue⟩ := mem_backlog.mp hjob
    obtain ⟨hbefore, hnot⟩ := row_of_windowEffect env hrow hdue.1
    exact ⟨mem_backlog.mpr ⟨hbefore, hdue⟩, hnot⟩

/-- A PENDING job that a call of the watcher moves is SCHEDULED by this call and in
the delay queue with its schedule time as score. -/
theorem scheduled_of_watch {job : Job} (hrow : (s.view id).row = some job)
    (hpending : job.status = .pending)
    (hmoved : ((watch.exec env s).view id).status? ≠ some .pending) :
    ((watch.exec env s).view id).status? = some .scheduled ∧
      ((watch.exec env s).view id).score = some job.scheduleTime := by
  rw [exec_watch] at hmoved ⊢
  have hlife : Life (fun m => m = .schedule ∨ m = .scheduleRetry ∨ ∃ now, m = .reinsert now) id
      (s.view id) ((watchEffect env (env.millis 0) s).view id) :=
    life_watch env s id (env.millis 0) (.inl rfl) (.inr (.inl rfl))
      (fun _ _ => .inr (.inr ⟨_, rfl⟩))
  rcases hlife.scheduled (fun _ h => h) hrow hpending with hsame | ⟨hrow', hscore⟩
  · exact absurd ((JobView.status?_of_row hsame).trans (congrArg some hpending)) hmoved
  · exact ⟨JobView.status?_of_row hrow', hscore⟩

end Calls

/-! ## Runs -/

variable [RateLimiter L]

section Runs

variable {s t : Timed L} {labels : List (Call × CallEnv)} {limit id : Int}

/-- A job with a row that is PENDING at the end of a run was so all the time. -/
theorem row_of_run (hrun : Run TimedCallStep s labels t) (hrow : (s.state.view id).row ≠ none)
    (hpending : (t.state.view id).status? = some .pending) :
    (t.state.view id).row = (s.state.view id).row := by
  refine (hrun.invariant (fun t => (t.state.view id).row ≠ none ∧
    ((t.state.view id).status? = some .pending →
      (t.state.view id).row = (s.state.view id).row)) ?_ ⟨hrow, fun _ => rfl⟩).2 hpending
  rintro u ⟨c, env⟩ w - ⟨hu, hsame⟩ hstep
  have hexec := row_of_exec env hstep.step.1 hu
  rw [← hstep.step.2] at hexec
  refine ⟨hexec.1, fun hw => ?_⟩
  have hkept := hexec.2 hw
  have hbefore : (u.state.view id).status? = some .pending := by
    rw [JobView.status?, hkept] at hw
    exact hw
  exact hkept.trans (hsame hbefore)

/-- Along a run, a backlog loses a page with every call of the watcher, if one such call takes
a page from it and no call adds to it. -/
theorem length_backlog_run {kind : Job → Prop} [DecidablePred kind] {now : Int}
    (hwatch : ∀ (env : CallEnv) (u : State L), (∀ k, now ≤ env.millis k) →
      (backlog kind (watch.exec env u)).length ≤ (backlog kind u).length - 200)
    (hkept : ∀ (c : Call) (env : CallEnv) (u : State L), c.Enabled u →
      (∀ k, now ≤ env.millis k) → backlog kind (c.exec env u) ⊆ backlog kind u)
    (hrun : Run TimedCallStep s labels t) (hnow : now ≤ s.now) :
    (backlog kind t.state).length ≤
      (backlog kind s.state).length - 200 * labels.countP fun label => label.1 = .watch := by
  induction hrun with
  | nil s => simp
  | @cons s u t label rest hfirst _ ih =>
      obtain ⟨c, env⟩ := label
      have hrest := ih (hnow.trans hfirst.now_le)
      have hlater : ∀ k, now ≤ env.millis k := fun k => hnow.trans (hfirst.after k)
      have hexec : u.state = c.exec env s.state := hfirst.step.2
      rw [List.countP_cons]
      by_cases hcall : c = .watch
      · subst hcall
        have hpage := hwatch env s.state hlater
        rw [← hexec] at hpage
        simp only [decide_true, if_true]
        omega
      · have hsubset := hkept c env s.state hfirst.step.1 hlater
        rw [← hexec] at hsubset
        have hfewer := (List.subperm_of_subset (nodup_backlog _ _) hsubset).length_le
        simp only [hcall, decide_false, Bool.false_eq_true, if_false]
        omega

theorem length_pendingBacklog_run (hrun : Run TimedCallStep s labels t)
    (hlimit : limit ≤ s.now + 20000) :
    (backlog (PendingBy limit) t.state).length ≤
      (backlog (PendingBy limit) s.state).length -
        200 * labels.countP fun label => label.1 = .watch := by
  refine length_backlog_run (fun env u hlater => ?_)
    (fun c env u henabled hlater job hjob => ?_) hrun (le_refl s.now)
  · exact length_backlog_watch (hlimit.trans (Int.add_le_add_right (hlater 0) _))
  · refine mem_backlog_of_exec henabled (fun k => hlimit.trans ?_) hjob
    exact Int.add_le_add (hlater k) (by decide)

/-- The page limit of the watcher starves no job.  Of the jobs that are PENDING and
due within twenty seconds at the beginning of a run, none is PENDING at its end if
it has a call of the watcher for every 200 of them, whatever other calls come
between; and the call of the watcher that moves one of them makes it SCHEDULED and
puts it into the delay queue with its schedule time as score. -/
theorem window_starves_no_job (hrun : Run TimedCallStep s labels t)
    (henough : ((backlog (PendingBy (s.now + 20000)) s.state).length + 199) / 200 ≤
      labels.countP fun label => label.1 = .watch)
    {job : Job} (hjob : job ∈ backlog (PendingBy (s.now + 20000)) s.state) :
    (t.state.view job.id).status? ≠ some .pending ∧
      ∀ before env after, labels = before ++ (.watch, env) :: after →
        let u := execAll before s.state
        (u.view job.id).status? = some .pending →
        ((watch.exec env u).view job.id).status? ≠ some .pending →
          ((watch.exec env u).view job.id).status? = some .scheduled ∧
            (watch.exec env u).scheduledJobs.score? job.id = some job.scheduleTime := by
  obtain ⟨hfind, hdue⟩ := mem_backlog.mp hjob
  have hrow : (s.state.view job.id).row = some job := hfind
  have hsome : (s.state.view job.id).row ≠ none := by simp [hrow]
  constructor
  · intro hpending
    have hlength := length_pendingBacklog_run hrun (le_refl (s.now + 20000))
    have hlast : job ∈ backlog (PendingBy (s.now + 20000)) t.state :=
      mem_backlog.mpr ⟨(row_of_run hrun hsome hpending).trans hrow, hdue⟩
    have hpos := List.length_pos_of_mem hlast
    omega
  · rintro before env after rfl
    obtain ⟨v, hbefore, -⟩ := hrun.split
    have hv := state_of_timedCallRun hbefore
    intro u hpending hmoved
    have hpending' : (v.state.view job.id).status? = some .pending := by
      rw [hv]
      exact hpending
    have hrow' := (row_of_run hbefore hsome hpending').trans hrow
    rw [hv] at hrow'
    exact scheduled_of_watch hrow' hdue.1 hmoved

end Runs

/-- Three jobs for 10:00, created early in the morning. -/
def threePending : State LuaLimiter :=
  execAll
    [(.createJob (.scheduled "LOG" "10:00"), .within 1000 (.ok ())),
      (.createJob (.scheduled "API" "10:00"), .within 2000 (.ok ())),
      (.createJob (.scheduled "EMAIL" "10:00"), .within 3000 (.ok ()))]
    (State.empty LuaLimiter.empty)

/-- Another creation, a call of the watcher and one of the dispatcher. -/
def oneWatch : List (Call × CallEnv) :=
  [(.createJob (.scheduled "API" "11:00"), .within 16186000 (.ok ())),
    (.watch, .within 16190000 (.ok ())),
    (.dispatch, .within 16190500 (.ok ()))]

/-- The one call of the watcher schedules the three. -/
theorem window_starves_no_job_threePending :
    ((execAll oneWatch threePending).view 2).status? ≠ some .pending ∧
      ((execAll (oneWatch.take 2) threePending).scheduledJobs.score? 2) = some 16200000 := by
  have htimes : Chronological 16185000 oneWatch :=
    ⟨_, _, rfl, by decide, _, _, rfl, by decide, _, _, rfl, by decide, trivial⟩
  have hrun : Run TimedCallStep ⟨threePending, 16185000⟩ oneWatch
      ⟨execAll oneWatch threePending, latest 16185000 oneWatch⟩ :=
    (timedRun_execAll (by decide) (by decide) htimes).mono timedCall_of_timed
  have hjob : (⟨⟨"API", .pending, none, none, none, 0, 16200000, none⟩, 2⟩ : Job) ∈
      backlog (PendingBy (16185000 + 20000)) threePending := by decide
  have henough : ((backlog (PendingBy (16185000 + 20000)) threePending).length + 199) / 200 ≤
      oneWatch.countP fun label => label.1 = .watch := by decide
  obtain ⟨hend, hmoved⟩ := window_starves_no_job hrun henough hjob
  exact ⟨hend, (hmoved (oneWatch.take 1) _ (oneWatch.drop 2) rfl (by decide) (by decide)).2⟩

end JobQueue
