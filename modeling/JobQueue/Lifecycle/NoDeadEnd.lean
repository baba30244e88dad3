import JobQueue.Lifecycle.Guards
import JobQueue.Lifecycle.Settlement
import JobQueue.Lifecycle.Times

/-!
# No reachable state is a dead end

After a pause of the timeout of the circuit breaker, longer than the window of the
limiter and than any time a job waits for, nothing defers a job any more.  Then calls
of the watcher, one dispatch and one delivery settle a given job or use up one of its
attempts, and so the system can be brought to a state in which all jobs are settled
from wherever it is.
-/

namespace JobQueue

open Call KafkaConsumerService

/-! ## The type of a job -/

/-- The row has this type. -/
def OfType (type : String) (v : JobView) : Prop :=
  ∃ job, v.row = some job ∧ job.type = type

/-- No move changes the type of a row. -/
theorem OfType.move {type : String} {m : Move} {v : JobView} {id : Int} (henabled : m.Enabled v)
    (h : OfType type v) : OfType type (m.apply id v) := by
  obtain ⟨job, hrow, htype⟩ := h
  cases m with
  | create data =>
      rw [henabled.1] at hrow
      cases hrow
  | requestCancel | reinsert | drop => exact ⟨job, hrow, htype⟩
  | sendNow | requeue | dispatch =>
      exact ⟨{ job with status := .queued },
        by simp [Move.apply, JobView.withMessage, JobView.withStatus, hrow], htype⟩
  | schedule | scheduleRetry =>
      exact ⟨{ job with status := .scheduled },
        by simp [Move.apply, JobView.withStatus, hrow], htype⟩
  | consume delivery outcome =>
      cases outcome with
      | ignore => exact ⟨job, hrow, htype⟩
      | honour now =>
          exact ⟨{ job with status := .cancelled },
            by simp [Move.apply, Outcome.apply, JobView.withStatus, hrow], htype⟩
      | complete =>
          exact ⟨{ job with status := .completed },
            by simp [Move.apply, Outcome.apply, JobView.withStatus, hrow], htype⟩
      | defer time =>
          exact ⟨deferred job time, by simp [Move.apply, Outcome.apply, hrow], htype⟩
      | fail now =>
          refine ⟨failedRow job now, by simp [Move.apply, Outcome.apply, hrow], ?_⟩
          rw [failedRow]
          split_ifs <;> exact htype

section Steps

variable {L : Type} [RateLimiter L] {id : Int}

theorem OfType.step {type : String} {s t : State L} {label : Call × CallEnv}
    (hstep : Call.Step s label t) (h : OfType type (s.view id)) : OfType type (t.view id) := by
  obtain ⟨henabled, rfl⟩ := hstep
  exact (life_exec label.2 s id label.1 henabled).invariant (fun v => OfType type v)
    (fun m v _ hm hv => hv.move hm) h

/-! ## Serving one job -/

/-- A call of one of the three services. -/
def Call.Serves (c : Call) : Prop :=
  c = .watch ∨ c = .dispatch ∨ ∃ message, c = .consume message

/-- What a run of the watcher and the dispatcher keeps. -/
structure KeptBy (id : Int) (s t : State L) : Prop where
  guards : t.guards = s.guards
  account : JobView.SameAccount (s.view id) (t.view id)

/-- A call at `now`, as a step. -/
theorem step_at {c : Call} (hregular : c.Regular) {s : Timed L} (henabled : c.Enabled s.state)
    {now : Int} (hnow : s.now ≤ now) :
    TimedStep s (c, .within now (.ok ())) ⟨c.exec (.within now (.ok ())) s.state, now⟩ :=
  timedStep_within hregular henabled hnow

theorem keptBy_of_run {s t : Timed L} {labels : List (Call × CallEnv)}
    (hrun : Run TimedStep s labels t)
    (hlabels : ∀ label ∈ labels, label.1 = .watch ∨ label.1 = .dispatch) {job : Job}
    (hrow : (s.state.view id).row = some job) : KeptBy id s.state t.state := by
  refine hrun.invariant (fun t => KeptBy id s.state t.state) ?_ ⟨rfl, rfl, rfl⟩
  rintro u ⟨c, env⟩ w hmem ⟨hguards, hcount, hexecutions⟩ hstep
  obtain ⟨row, hrow', -⟩ : ∃ row, (u.state.view id).row = some row ∧
      row.retryCount = job.retryCount := by
    rw [hrow] at hcount
    exact Option.map_eq_some_iff.mp hcount
  have hquiet : ¬ c.Consumes id := by
    rcases hlabels _ hmem with h | h <;>
    · obtain rfl : c = _ := h
      exact fun h => h
  have hsame := sameAccount_step hstep.regular.2
    (fun hconsumes => absurd hconsumes hquiet) hrow'
  refine ⟨?_, hsame.1.trans hcount, hsame.2.trans hexecutions⟩
  have hplans : c.Plans := by
    rcases hlabels _ hmem with h | h <;>
    · obtain rfl : c = _ := h
      trivial
  rw [← hguards, hstep.regular.2.2]
  exact unseen_guards.exec hplans env u.state

/-- Any number of calls of the watcher at `now`. -/
theorem exists_watches {s : Timed L} (n : Nat) :
    ∃ labels t, Run TimedStep s labels t ∧ t.now = s.now ∧
      (∀ label ∈ labels, label.1 = .watch) ∧
      n ≤ (labels.countP fun label => label.1 = .watch) := by
  induction n with
  | zero => exact ⟨[], s, .nil s, rfl, by simp, Nat.zero_le _⟩
  | succ n ih =>
      obtain ⟨labels, t, hrun, hnow, hwatch, hcount⟩ := ih
      have hstep := step_at (c := .watch) trivial (s := t) trivial le_rfl
      have hlonger := hrun.append (.single hstep)
      refine ⟨_, _, hlonger, hnow, ?_, ?_⟩
      · intro label hmem
        rcases List.mem_append.mp hmem with h | h
        · exact hwatch label h
        · rw [List.mem_singleton.mp h]
      · rw [List.countP_append]
        simpa using hcount

/-- The times of a job are bounded. -/
theorem JobView.AllTimes.bounded {P : Int → Prop} {v : JobView} (h : v.AllTimes P) :
    ∃ bound, ∀ now, bound ≤ now → v.AllTimes fun time => P time ∧ time ≤ now := by
  let scheduleTime := (v.row.map fun job => job.scheduleTime).getD 0
  refine ⟨max scheduleTime (max (v.retryTime?.getD 0) (v.score.getD 0)), fun now hnow => ?_⟩
  have hschedule : scheduleTime ≤ now := (le_max_left _ _).trans hnow
  have hretry : v.retryTime?.getD 0 ≤ now :=
    (le_max_left _ _).trans ((le_max_right _ _).trans hnow)
  have hscore : v.score.getD 0 ≤ now := (le_max_right _ _).trans ((le_max_right _ _).trans hnow)
  refine ⟨fun job hrow => ⟨h.scheduleTime job hrow, ?_⟩, fun time htime =>
    ⟨h.retryTime time htime, ?_⟩, fun score hs => ⟨h.score score hs, ?_⟩⟩
  · simpa [scheduleTime, hrow] using hschedule
  · simpa [htime] using hretry
  · simpa [hs] using hscore

/-- A job none of whose times is ahead is due. -/
theorem JobView.AllTimes.dueBy {v : JobView} {now : Int}
    (h : v.AllTimes fun time => 0 ≤ time ∧ time ≤ now) (hcarried : Carried v) {job : Job}
    (hrow : v.row = some job) : DueBy now v := by
  have hstatus := JobView.status?_of_row hrow
  obtain ⟨hnonneg, hle⟩ := h.scheduleTime job hrow
  refine ⟨job, hrow, hnonneg, fun _ => hle, fun hretry => ?_, fun hscheduled => ?_⟩
  · have hset := hcarried.retryTime (hstatus.trans (congrArg some hretry))
    obtain ⟨time, htime⟩ := Option.ne_none_iff_exists'.mp hset
    exact ⟨time, (JobView.retryTime?_of_row hrow).symm.trans htime, h.retryTime time htime⟩
  · have hset := hcarried.score.mpr (hstatus.trans (congrArg some hscheduled))
    obtain ⟨score, hscore⟩ := Option.ne_none_iff_exists'.mp hset
    exact ⟨score, hscore, h.score score hscore⟩

/-- A call of the watcher copies times and brings none. -/
theorem JobView.AllTimes.watch {P : Int → Prop} {s : State L} {env : CallEnv}
    (h : (s.view id).AllTimes P) : ((Call.watch.exec env s).view id).AllTimes P := by
  refine (life_exec env s id .watch trivial).invariant (fun v => v.AllTimes P) ?_ h
  intro m v hallowed hm hv
  refine hv.move m hm fun time htime => ?_
  cases m with
  | create data =>
      obtain ⟨request, -, h, -⟩ := hallowed
      cases h
  | consume delivery outcome =>
      cases delivery <;>
      · obtain ⟨⟨message, h, -⟩, -⟩ := hallowed
        cases h
  | _ => exact htime.elim

/-- From a state with a message for the job or none needed, the services bring the job
to where a delivery is all it lacks. -/
theorem exists_ready {s : Timed L} {now : Int} (hnow : s.now ≤ now)
    (hcarried : Carried (s.state.view id))
    (htimes : (s.state.view id).AllTimes fun time => 0 ≤ time ∧ time ≤ now) {job : Job}
    (hrow : (s.state.view id).row = some job) :
    ∃ labels t, Run TimedStep s labels t ∧ t.now = now ∧
      (∀ label ∈ labels, label.1 = .watch ∨ label.1 = .dispatch) ∧
      (t.state.view id).status?.elim 0 JobStatus.stage = 0 := by
  have hfirst := step_at (c := .watch) trivial (s := s) trivial hnow
  let u : Timed L := ⟨Call.watch.exec (.within now (.ok ())) s.state, now⟩
  have hcarriedU : Carried (u.state.view id) := hcarried.step hfirst.regular id
  obtain ⟨row, hrowU, -⟩ := retryCount_of_unattempted hfirst.regular (fun h => h.elim) hrow
  have hdue : DueBy u.now (u.state.view id) := htimes.watch.dueBy hcarriedU hrowU
  obtain ⟨watches, v, hwatches, hnowV, hall, henough⟩ :=
    exists_watches (s := u) (pages u.now u.state)
  have hnoneW : ∀ label ∈ watches, ¬ label.1.Consumes id := by
    intro label hmem hconsumes
    rw [hall label hmem] at hconsumes
    exact hconsumes
  have hstage := stage_of_watched hwatches hnoneW hdue henough
  have hdueV := (Advanced.run hwatches hnoneW hdue).due
  have hdispatch := step_at (c := .dispatch) trivial (s := v) trivial hnowV.le
  have hzero := stage_of_dispatched (.single hdispatch)
    (fun label hmem h => by rw [List.mem_singleton.mp hmem] at h; exact h) hdueV hstage
    ⟨_, List.mem_singleton_self _, rfl⟩
  refine ⟨_, _, (Run.single hfirst).append (hwatches.append (.single hdispatch)), rfl, ?_, hzero⟩
  intro label hmem
  simp only [List.mem_append, List.mem_singleton] at hmem
  rcases hmem with rfl | h | rfl
  · exact .inl rfl
  · exact .inl (hall label h)
  · exact .inr rfl

end Steps

/-! ## The limiter of the repository -/

/-- A run of the deployed system from its empty state, from the epoch on. -/
def Reached (s : Timed LuaLimiter) : Prop :=
  ∃ start labels, 0 ≤ start ∧ Run TimedStep ⟨State.empty LuaLimiter.empty, start⟩ labels s

theorem Reached.run {s t : Timed LuaLimiter} (h : Reached s) {labels : List (Call × CallEnv)}
    (hrun : Run TimedStep s labels t) : Reached t := by
  obtain ⟨start, before, hstart, hbefore⟩ := h
  exact ⟨start, before ++ labels, hstart, hbefore.append hrun⟩

theorem Reached.carried {s : Timed LuaLimiter} (h : Reached s) (id : Int) :
    Carried (s.state.view id) := by
  obtain ⟨start, before, -, hbefore⟩ := h
  exact carried_of_run (run_of_timed hbefore) id

section Reached

variable {s : Timed LuaLimiter} {id : Int}

/-- The services can settle a job or use up one of its attempts. -/
theorem exists_attempt (hreached : Reached s) {job : Job}
    (hrow : (s.state.view id).row = some job) :
    ∃ labels t, Run TimedStep s labels t ∧ (∀ label ∈ labels, label.1.Serves) ∧
      (Settled (t.state.view id) ∨ ∃ row, (t.state.view id).row = some row ∧
        row.retryCount = job.retryCount + 1 ∧ job.retryCount < MAX_RETRY) := by
  have hcarried := hreached.carried id
  obtain ⟨start, before, hstart, hbefore⟩ := hreached
  obtain ⟨hnonneg, htimes⟩ := allTimes_nonneg_of_run hstart hbefore id
  have hstands := (standsAt_of_run hstart hbefore).2
  obtain ⟨bound, hbound⟩ := htimes.bounded
  -- a pause after which no guard defers the job
  let now := max bound (max (s.now + RATE_WINDOW)
    (s.state.lastFailureTime job.type + CIRCUIT_TIMEOUT))
  have hpause : s.now + RATE_WINDOW ≤ now := (le_max_left _ _).trans (le_max_right _ _)
  have htimeout : s.state.lastFailureTime job.type + CIRCUIT_TIMEOUT ≤ now :=
    (le_max_right _ _).trans (le_max_right _ _)
  have hwindow : RATE_WINDOW = 1000 := rfl
  have hlater : s.now ≤ now := by omega
  obtain ⟨labels, t, hrun, hnow, hlabels, hstage⟩ :=
    exists_ready hlater hcarried (hbound now (le_max_left _ _)) hrow
  have hcarriedT : Carried (t.state.view id) := hcarried.run (run_of_timed hrun)
  have hkept := keptBy_of_run hrun hlabels hrow
  have hserves : ∀ label ∈ labels, label.1.Serves := fun label hmem =>
    (hlabels label hmem).imp_right .inl
  obtain ⟨row, hrowT, hcount⟩ : ∃ row, (t.state.view id).row = some row ∧
      row.retryCount = job.retryCount := by
    have hsame := hkept.account.1
    rw [hrow] at hsame
    exact Option.map_eq_some_iff.mp hsame
  have htype : row.type = job.type := by
    have hoftype : OfType job.type (t.state.view id) :=
      hrun.invariant (fun t => OfType job.type (t.state.view id))
        (fun _ _ _ _ h hstep => h.step hstep.regular.2) ⟨job, hrow, rfl⟩
    obtain ⟨other, hother, htype⟩ := hoftype
    rwa [Option.some.inj (hrowT.symm.trans hother)]
  have hstatus := JobView.status?_of_row hrowT
  by_cases hqueued : row.status = .queued
  · have hpos : 0 < t.state.topic.countP (carries id) := by
      have hin : t.state.topic.countP (carries id) = _ := hcarriedT.inFlight
      rw [hstatus, hqueued, if_pos rfl] at hin
      omega
    obtain ⟨message, hmem, hcarries⟩ := List.countP_pos_iff.mp hpos
    have hconsumes : (Call.consume message).Consumes id := of_decide_eq_true hcarries
    have hstep := step_at (c := .consume message) trivial (s := t) hmem hnow.le
    have hnot : ¬ Deferred id t.state (.consume message, .within now (.ok ())) := by
      rintro ⟨-, other, hother, hverdict⟩
      obtain rfl := Option.some.inj (hrowT.symm.trans hother)
      have hallow : (limiterReply (.within now (.ok ())) row t.state).1 = true := by
        have hsame : t.state.limiter = s.state.limiter := congrArg Prod.fst hkept.guards
        rw [limiterReply, hsame, millis_within]
        exact hstands.admits hpause (by omega) row.type (by decide)
      have hopen : ¬ CircuitBlocks (.within now (.ok ())) row t.state := by
        rintro ⟨-, hblocks⟩
        have hsame : t.state.lastFailureTime = s.state.lastFailureTime :=
          congrArg (fun guards => guards.2.2) hkept.guards
        rw [millis_within, hsame, htype] at hblocks
        omega
      rw [verdict] at hverdict
      simp only [hallow, hopen] at hverdict
      split_ifs at hverdict <;> simp_all
    refine ⟨labels ++ [_], _, hrun.append (.single hstep), ?_, ?_⟩
    · intro label hmem'
      rcases List.mem_append.mp hmem' with h | h
      · exact hserves label h
      · rw [List.mem_singleton.mp h]
        exact .inr (.inr ⟨message, rfl⟩)
    · rw [← hcount]
      exact attempted_step hstep.regular hconsumes hnot hcarriedT hrowT
  · refine ⟨labels, t, hrun, hserves, .inl ⟨row.status, hstatus, ?_⟩⟩
    have hsettled := hcarriedT.settled
    rw [hstatus] at hstage hsettled
    cases hs : row.status with
    | pending | retry | scheduled => simp [hs, JobStatus.stage] at hstage
    | queued => exact absurd hs hqueued
    | processing => exact absurd (congrArg some hs) hsettled
    | completed => exact .inl rfl
    | failed => exact .inr (.inr rfl)
    | cancelled => exact .inr (.inl rfl)

/-- The services can settle a given job. -/
theorem exists_settled (hreached : Reached s) (hrow : (s.state.view id).row ≠ none) :
    ∃ labels t, Run TimedStep s labels t ∧ (∀ label ∈ labels, label.1.Serves) ∧
      Settled (t.state.view id) := by
  obtain ⟨job, hjob⟩ := Option.ne_none_iff_exists'.mp hrow
  clear hrow
  -- every round uses up an attempt
  induction hleft : MAX_RETRY - job.retryCount generalizing s job with
  | zero =>
      obtain ⟨labels, t, hrun, hserves, hsettled | ⟨row, -, -, hfew⟩⟩ :=
        exists_attempt hreached hjob
      · exact ⟨labels, t, hrun, hserves, hsettled⟩
      · omega
  | succ n ih =>
      obtain ⟨labels, t, hrun, hserves, hsettled | ⟨row, hrow, hcount, hfew⟩⟩ :=
        exists_attempt hreached hjob
      · exact ⟨labels, t, hrun, hserves, hsettled⟩
      · obtain ⟨more, u, hmore, hservesMore, hsettled⟩ :=
          ih (hreached.run hrun) row hrow (by omega)
        refine ⟨labels ++ more, u, hrun.append hmore, fun label hmem => ?_, hsettled⟩
        exact (List.mem_append.mp hmem).elim (hserves label) (hservesMore label)

/-- A job of a run of the services existed before. -/
theorem row_of_serves {t : Timed LuaLimiter} {labels : List (Call × CallEnv)}
    (hrun : Run TimedStep s labels t) (hserves : ∀ label ∈ labels, label.1.Serves)
    (hnone : (s.state.view id).row = none) : (t.state.view id).row = none := by
  refine hrun.invariant (fun t => (t.state.view id).row = none) ?_ hnone
  intro u label w hmem hu hstep
  rw [hstep.regular.2.2]
  refine (life_exec label.2 u.state id label.1 hstep.regular.2.1).row_none ?_ hu
  rintro data ⟨request, time, hcreate, -⟩
  rcases hserves label hmem with h | h | ⟨message, h⟩ <;>
  · rw [hcreate] at h
    cases h

/-- The services can settle any list of jobs. -/
theorem exists_all_settled (hreached : Reached s) (ids : List Int)
    (hrows : ∀ id ∈ ids, (s.state.view id).row ≠ none) :
    ∃ labels t, Run TimedStep s labels t ∧ (∀ label ∈ labels, label.1.Serves) ∧
      ∀ id ∈ ids, Settled (t.state.view id) := by
  induction ids with
  | nil => exact ⟨[], s, .nil s, by simp, by simp⟩
  | cons id rest ih =>
      obtain ⟨labels, t, hrun, hserves, hsettled⟩ :=
        ih fun other hmem => hrows other (List.mem_cons_of_mem id hmem)
      have hrow : (t.state.view id).row ≠ none := by
        obtain ⟨job, hjob⟩ := Option.ne_none_iff_exists'.mp (hrows id List.mem_cons_self)
        have hoftype : OfType job.type (t.state.view id) :=
          hrun.invariant (fun t => OfType job.type (t.state.view id))
            (fun _ _ _ _ h hstep => h.step hstep.regular.2) ⟨job, hjob, rfl⟩
        obtain ⟨row, hrow, -⟩ := hoftype
        simp [hrow]
      have hreachedT := hreached.run hrun
      obtain ⟨more, u, hmore, hservesMore, hsettledU⟩ := exists_settled hreachedT hrow
      refine ⟨labels ++ more, u, hrun.append hmore, fun label hmem =>
        (List.mem_append.mp hmem).elim (hserves label) (hservesMore label), ?_⟩
      intro other hmem
      rcases List.mem_cons.mp hmem with rfl | hmem
      · exact hsettledU
      · exact (hsettled other hmem).run (run_of_timed hmore) (hreachedT.carried other)

/-- No dead end.  From every state that a run without duplicates reaches, with the
limiter of the repository, a clock that starts at or after the epoch and any history
of failures, deferrals and lost time, the watcher, the dispatcher and the consumers
alone can bring all jobs to COMPLETED, CANCELLED or FAILED. -/
theorem no_dead_end {start : Int} (hstart : 0 ≤ start) {before : List (Call × CallEnv)}
    (hbefore : Run TimedStep ⟨State.empty LuaLimiter.empty, start⟩ before s) :
    ∃ labels t, Run TimedStep s labels t ∧
      (∀ label ∈ labels, label.1 = .watch ∨ label.1 = .dispatch ∨
        ∃ message, label.1 = .consume message) ∧
      ∀ id job, t.state.jobs.findById id = some job →
        job.status = .completed ∨ job.status = .cancelled ∨ job.status = .failed := by
  have hreached : Reached s := ⟨start, before, hstart, hbefore⟩
  have hrows : ∀ id ∈ s.state.jobs.rows.map Job.id, (s.state.view id).row ≠ none := by
    intro id hmem
    obtain ⟨job, hjob, rfl⟩ := List.mem_map.mp hmem
    have hfind := (JobTable.findById_eq_some_iff s.state.jobs job.id job).mpr ⟨hjob, rfl⟩
    simp [State.view_row, hfind]
  obtain ⟨labels, t, hrun, hserves, hsettled⟩ := exists_all_settled hreached _ hrows
  refine ⟨labels, t, hrun, hserves, fun id job hfind => ?_⟩
  have hview : (t.state.view id).row = some job := hfind
  have hbeforeRow : (s.state.view id).row ≠ none := by
    intro hnone
    rw [row_of_serves hrun hserves hnone] at hview
    cases hview
  obtain ⟨old, hold⟩ := Option.ne_none_iff_exists'.mp hbeforeRow
  obtain ⟨hmem, hid⟩ := (JobTable.findById_eq_some_iff s.state.jobs id old).mp hold
  obtain ⟨status, hstatus, hterminal⟩ := hsettled id (List.mem_map.mpr ⟨old, hmem, hid⟩)
  rw [JobView.status?_of_row hview] at hstatus
  obtain rfl := Option.some.inj hstatus
  exact hterminal

end Reached

/-- The job that waits for its second attempt can be brought to its end. -/
theorem no_dead_end_waitingForRetry :
    ∃ labels t, Run TimedStep waitingForRetry labels t ∧
      (∀ label ∈ labels, label.1 = .watch ∨ label.1 = .dispatch ∨
        ∃ message, label.1 = .consume message) ∧
      ∀ id job, t.state.jobs.findById id = some job →
        job.status = .completed ∨ job.status = .cancelled ∨ job.status = .failed := by
  have hbefore : Run TimedStep ⟨State.empty LuaLimiter.empty, 0⟩ oneRetry waitingForRetry :=
    timedRun_execAll (by decide) (by decide)
      ⟨_, _, rfl, by decide, _, _, rfl, by decide, _, _, rfl, by decide, _, _, rfl, by decide,
        trivial⟩
  exact no_dead_end le_rfl hbefore

end JobQueue
