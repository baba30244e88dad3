import JobQueue.Concurrency.Custody

/-!
# Lost updates between concurrent services

Every message that is due for a job has exactly one holder: the topic, a call
that has saved QUEUED and still owes the message, or the consumer that has
custody of the job.  As long as every save finds its row in the status of the
copy it writes back, a job is QUEUED or PROCESSING exactly while there is such a
holder, so it is executed successfully at most once.

A save that finds another status loses an update and may bring a row that was
already executed back into the queue.
-/

namespace JobQueue

open Decimal

/-! ## Holders of the message of a job -/

namespace JobView

/-- The messages due for the job: one while it is QUEUED or PROCESSING. -/
def due (v : JobView) : Nat :=
  if v.status? = some .queued ∨ v.status? = some .processing then 1 else 0

/-- One while the job is PROCESSING. -/
def processing (v : JobView) : Nat := if v.status? = some .processing then 1 else 0

/-- One while the job is COMPLETED. -/
def completed (v : JobView) : Nat := if v.status? = some .completed then 1 else 0

/-- The executor calls of the job that returned. -/
def successes (v : JobView) : Nat := v.executions.count true

end JobView

namespace Custody

/-- The messages of the job the call holds. -/
def stake (id : Int) (l : Custody) : Nat :=
  (if l.owes = some id then 1 else 0) + (if l.phase.job? = some id then 1 else 0)

/-- One while the call executes the job. -/
def executing (id : Int) (l : Custody) : Nat :=
  if l.phase = .processing id ∨ l.phase = .executed id then 1 else 0

/-- One while the call has executed the job but not yet saved COMPLETED. -/
def succeeded (id : Int) (l : Custody) : Nat := if l.phase = .executed id then 1 else 0

theorem executing_le_stake (id : Int) (l : Custody) : l.executing id ≤ l.stake id := by
  by_cases hexecuting : l.phase = .processing id ∨ l.phase = .executed id
  · have hjob : l.phase.job? = some id := by
      rcases hexecuting with h | h <;> rw [h, Phase.job?]
    rw [executing, if_pos hexecuting, stake, if_pos hjob]
    omega
  · rw [executing, if_neg hexecuting]
    omega

theorem succeeded_le_executing (id : Int) (l : Custody) : l.succeeded id ≤ l.executing id := by
  by_cases hsucceeded : l.phase = .executed id
  · rw [executing, if_pos (.inr hsucceeded), succeeded, if_pos hsucceeded]
  · rw [succeeded, if_neg hsucceeded]
    omega

end Custody

theorem sum_map_middle (weight : Custody → Nat) (before after : List Custody) (l : Custody) :
    ((before ++ l :: after).map weight).sum =
      weight l + ((before.map weight).sum + (after.map weight).sum) := by
  simp only [List.map_append, List.map_cons, List.sum_append, List.sum_cons]
  omega

/-- The books of one job over all calls. -/
structure Balanced (id : Int) (v : JobView) (ls : List Custody) : Prop where
  tokens : v.inFlight + (ls.map (Custody.stake id)).sum = v.due
  running : (ls.map (Custody.executing id)).sum = v.processing
  successes : v.successes = v.completed + (ls.map (Custody.succeeded id)).sum
  read : ∀ l ∈ ls, ∀ status, l.phase = .read id status → status = some .queued

namespace Balanced

variable {id : Int} {v : JobView} {ls before after : List Custody} {l : Custody}

/-- A balanced job was executed successfully at most once. -/
theorem successes_le_one (h : Balanced id v ls) : v.successes ≤ 1 := by
  have hsucceeded : (ls.map (Custody.succeeded id)).sum ≤ (ls.map (Custody.executing id)).sum :=
    List.sum_le_sum fun l _ => l.succeeded_le_executing id
  have hrunning := h.running
  have hsuccesses := h.successes
  unfold JobView.completed at hsuccesses
  unfold JobView.processing at hrunning
  -- a success is a saved COMPLETED or a call about to save it, which is PROCESSING
  split_ifs at hsuccesses hrunning with hcompleted hprocessing
  · rw [hcompleted] at hprocessing
    cases hprocessing
  all_goals omega

/-- The status of a job tells how far the call that holds its message is. -/
theorem status (h : Balanced id v (before ++ l :: after)) (hstake : 1 ≤ l.stake id) :
    v.status? = some (if l.executing id = 1 then .processing else .queued) := by
  have hbefore : (before.map (Custody.executing id)).sum ≤ (before.map (Custody.stake id)).sum :=
    List.sum_le_sum fun l _ => l.executing_le_stake id
  have hafter : (after.map (Custody.executing id)).sum ≤ (after.map (Custody.stake id)).sum :=
    List.sum_le_sum fun l _ => l.executing_le_stake id
  have htokens := h.tokens
  have hrunning := h.running
  rw [sum_map_middle] at htokens hrunning
  -- at most one message is due and this call holds it, so no other call executes
  by_cases hone : l.executing id = 1
  · rw [if_pos hone]
    by_contra hstatus
    rw [JobView.processing, if_neg hstatus] at hrunning
    omega
  · rw [if_neg hone]
    have hle := l.executing_le_stake id
    have hnot : v.status? ≠ some .processing := by
      intro hstatus
      rw [JobView.processing, if_pos hstatus] at hrunning
      rw [JobView.due, if_pos (.inr hstatus)] at htokens
      omega
    by_contra hqueued
    rw [JobView.due, if_neg (by simp [hqueued, hnot])] at htokens
    omega

end Balanced

/-- What the books say about one call and the job. -/
structure Sound (id : Int) (v : JobView) (l : Custody) : Prop where
  read : ∀ status, l.phase = .read id status → status = some .queued
  status : 1 ≤ l.stake id →
    v.status? = some (if l.executing id = 1 then .processing else .queued)

/-- One operation of one call keeps the books of the job. -/
structure Conserves (id : Int) (v : JobView) (l : Custody) (v' : JobView) (l' : Custody) :
    Prop where
  tokens : v'.inFlight + l'.stake id + v.due = v.inFlight + l.stake id + v'.due
  running : l'.executing id + v.processing = l.executing id + v'.processing
  successes : v'.successes + v.completed + l.succeeded id =
    v.successes + v'.completed + l'.succeeded id
  read : ∀ status, l'.phase = .read id status → status = some .queued

namespace Balanced

variable {id : Int} {v v' : JobView} {ls before after : List Custody} {l l' : Custody}

theorem sound (h : Balanced id v (before ++ l :: after)) : Sound id v l :=
  ⟨h.read l (by simp), h.status⟩

/-- Local conservation is global balance. -/
theorem replace (h : Balanced id v (before ++ l :: after)) (hstep : Conserves id v l v' l') :
    Balanced id v' (before ++ l' :: after) := by
  obtain ⟨htokens, hrunning, hsuccesses, hread⟩ := h
  obtain ⟨htokens', hrunning', hsuccesses', hread'⟩ := hstep
  rw [sum_map_middle] at htokens hrunning hsuccesses
  constructor
  · rw [sum_map_middle]
    omega
  · rw [sum_map_middle]
    omega
  · rw [sum_map_middle]
    omega
  · intro other hother
    rw [List.mem_append, List.mem_cons] at hother
    rcases hother with hother | rfl | hother
    · exact hread other (by simp [hother])
    · exact hread'
    · exact hread other (by simp [hother])

end Balanced

/-! ## One operation -/

/-- A save finds its row in the status of the copy it writes back. -/
def FreshSave {L : Type} (s : State L) (l : Custody) : Op → Prop
  | .save job => (s.view job.id).status? = l.copy job.id
  | _ => True

namespace Conserves

variable {id : Int} {v v' : JobView} {l l' : Custody}

/-- An operation that changes nothing the books are about. -/
theorem of_eq (h : Sound id v l) (hrow : v'.row = v.row) (hinFlight : v'.inFlight = v.inFlight)
    (hsuccesses : v'.successes = v.successes) (hphase : l'.phase = l.phase)
    (howes : l'.owes = l.owes) : Conserves id v l v' l' := by
  have hstatus : v'.status? = v.status? := by rw [JobView.status?, hrow, JobView.status?]
  constructor
  · simp only [Custody.stake, JobView.due, hinFlight, hphase, howes, hstatus]
  · simp only [Custody.executing, JobView.processing, hphase, hstatus]
  · simp only [Custody.succeeded, JobView.completed, hsuccesses, hphase, hstatus]
  · rw [hphase]
    exact h.read

/-- An operation of a call that is busy with other jobs. -/
theorem of_other (hview : v' = v) (hphase : l.phase.job? ≠ some id)
    (hphase' : l'.phase.job? ≠ some id) (howes : l'.owes = some id ↔ l.owes = some id) :
    Conserves id v l v' l' := by
  have hexecuting : ∀ l : Custody, l.phase.job? ≠ some id →
      l.executing id = 0 ∧ l.succeeded id = 0 := by
    intro l hjob
    constructor
    · rw [Custody.executing, if_neg]
      rintro (h | h) <;> exact hjob (by rw [h, Custody.Phase.job?])
    · rw [Custody.succeeded, if_neg]
      exact fun h => hjob (by rw [h, Custody.Phase.job?])
  obtain ⟨hold, hsucceeded⟩ := hexecuting l hphase
  obtain ⟨hnew, hsucceeded'⟩ := hexecuting l' hphase'
  subst hview
  constructor
  · simp only [Custody.stake, hphase, hphase', howes]
  · rw [hold, hnew]
  · rw [hsucceeded, hsucceeded']
  · exact fun status h => absurd (by rw [h, Custody.Phase.job?]) hphase'

section Operations

open Custody

variable {L : Type} {s : State L}

/-- Reading the row of a job whose message was received finds it QUEUED. -/
theorem of_findById {jobId : Int} (h : Sound id (s.view id) l)
    (hallows : l.phase = .idle ∨ l.phase = .received jobId) :
    Conserves id (s.view id) l (s.view id)
      (l.next (.findById jobId) (.ok (s.jobs.findById jobId))) := by
  rcases hallows with hphase | hphase
  · exact of_eq h rfl rfl rfl (by simp [hphase]) rfl
  · by_cases hid : jobId = id
    · subst hid
      have hstatus : (s.view jobId).status? = some .queued := by
        simpa [stake, executing, hphase] using h.status
      constructor
      · simp [stake, hphase]
      · simp [executing, hphase]
      · simp [succeeded, hphase]
      · intro status hread
        rw [next, if_pos hphase, Phase.read.injEq] at hread
        exact hread.2.symm.trans hstatus
    · constructor <;> simp [stake, executing, succeeded, hphase, hid]

/-- A new row is PENDING and has no message. -/
theorem of_insert {data : JobData} (h : Sound id (s.view id) l)
    (hpending : data.status = .pending) (saved : Job) :
    Conserves id (s.view id) l ((s.insertJob data).view id)
      (l.next (.insert data) (.ok saved)) := by
  by_cases hid : id = s.jobs.nextId
  · have hold : (s.view id).status? = none := by
      rw [JobView.status?, State.view_row,
        JobTable.findById_eq_none (by rw [hid, JobTable.nextId]; omega), Option.map_none]
    have hnew : ((s.insertJob data).view id).status? = some .pending := by
      rw [State.view_insertJob, if_pos hid, JobView.status?, Option.map_some, hpending]
    constructor
    · simp only [stake, JobView.due, hold, hnew, next]
      rfl
    · simp only [executing, JobView.processing, hold, hnew, next]
      rfl
    · simp only [succeeded, JobView.completed, hold, hnew, next]
      rfl
    · exact h.read
  · rw [State.view_insertJob, if_neg hid]
    exact of_eq h rfl rfl rfl rfl rfl

/-- A save moves the row from one status to another and leaves the topic and the
executor calls alone. -/
theorem of_statuses {old new : JobStatus} (hold : v.status? = some old)
    (hnew : v'.status? = some new) (hinFlight : v'.inFlight = v.inFlight)
    (hsuccesses : v'.successes = v.successes)
    (hstake : l'.stake id + (if old = .queued ∨ old = .processing then 1 else 0) =
      l.stake id + if new = .queued ∨ new = .processing then 1 else 0)
    (hexecuting : l'.executing id + (if old = .processing then 1 else 0) =
      l.executing id + if new = .processing then 1 else 0)
    (hsucceeded : (if old = .completed then 1 else 0) + l.succeeded id =
      (if new = .completed then 1 else 0) + l'.succeeded id)
    (hread : ∀ status, l'.phase ≠ .read id status) : Conserves id v l v' l' := by
  constructor
  · simp only [JobView.due, hold, hnew, Option.some.injEq]
    omega
  · simp only [JobView.processing, hold, hnew, Option.some.injEq]
    exact hexecuting
  · simp only [JobView.completed, hold, hnew, Option.some.injEq]
    omega
  · exact fun status h => absurd h (hread status)

/-- A save that finds the status of its copy keeps the books of its job. -/
theorem of_save_own {job : Job} (h : Sound job.id (s.view job.id) l)
    (hallows : l.allowsSave job.id job.status) (hfresh : FreshSave s l (.save job)) :
    Conserves job.id (s.view job.id) l ((s.saveJob job).view job.id)
      (l.next (.save job) (.ok ())) := by
  have hmove : ∀ {old : JobStatus}, (s.view job.id).status? = some old →
      ((s.saveJob job).view job.id).status? = some job.status := by
    intro old hold
    rw [State.status?_saveJob, hold, Option.map_some]
  have hread : ∀ {status : JobStatus}, l.phase = .read job.id (some status) →
      (s.view job.id).status? = some .queued := by
    intro status hphase
    simpa [stake, executing, hphase] using h.status
  have hprocessing : l.phase = .processing job.id ∨ l.phase = .executed job.id →
      (s.view job.id).status? = some .processing := by
    rintro (hphase | hphase) <;> simpa [stake, executing, hphase] using h.status
  -- the watcher, the dispatcher and `createJob` know the old status from their
  -- copy, a consumer from its custody
  cases hnew : job.status with
  | pending =>
      rw [hnew] at hallows
      exact hallows.elim
  | scheduled =>
      rw [hnew] at hallows
      obtain ⟨hphase, hcopy | hcopy⟩ := hallows
      · refine of_statuses (hfresh.trans hcopy) (hmove (hfresh.trans hcopy)) rfl rfl ?_ ?_ ?_ ?_ <;>
          simp [stake, executing, succeeded, hnew, hphase]
      · refine of_statuses (hfresh.trans hcopy) (hmove (hfresh.trans hcopy)) rfl rfl ?_ ?_ ?_ ?_ <;>
          simp [stake, executing, succeeded, hnew, hphase]
  | queued =>
      rw [hnew] at hallows
      obtain ⟨hphase, howes, hcopy | hcopy⟩ := hallows
      · refine of_statuses (hfresh.trans hcopy) (hmove (hfresh.trans hcopy)) rfl rfl ?_ ?_ ?_ ?_ <;>
          simp [stake, executing, succeeded, hnew, hphase, howes]
      · refine of_statuses (hfresh.trans hcopy) (hmove (hfresh.trans hcopy)) rfl rfl ?_ ?_ ?_ ?_ <;>
          simp [stake, executing, succeeded, hnew, hphase, howes]
  | processing =>
      rw [hnew] at hallows
      have hphase : l.phase = .read job.id (some .queued) := hallows
      refine of_statuses (hread hphase) (hmove (hread hphase)) rfl rfl ?_ ?_ ?_ ?_ <;>
        simp [stake, executing, succeeded, hnew, hphase]
  | completed =>
      rw [hnew] at hallows
      have hphase : l.phase = .executed job.id := hallows
      have hold := hprocessing (.inr hphase)
      refine of_statuses hold (hmove hold) rfl rfl ?_ ?_ ?_ ?_ <;>
        simp [stake, executing, succeeded, hnew, hphase]
  | failed =>
      rw [hnew] at hallows
      have hphase : l.phase = .processing job.id := hallows
      have hold := hprocessing (.inl hphase)
      refine of_statuses hold (hmove hold) rfl rfl ?_ ?_ ?_ ?_ <;>
        simp [stake, executing, succeeded, hnew, hphase]
  | retry =>
      rw [hnew] at hallows
      rcases hallows with ⟨status, hphase⟩ | hphase
      · refine of_statuses (hread hphase) (hmove (hread hphase)) rfl rfl ?_ ?_ ?_ ?_ <;>
          simp [stake, executing, succeeded, hnew, hphase]
      · have hold := hprocessing (.inl hphase)
        refine of_statuses hold (hmove hold) rfl rfl ?_ ?_ ?_ ?_ <;>
          simp [stake, executing, succeeded, hnew, hphase]
  | cancelled =>
      rw [hnew] at hallows
      obtain ⟨status, hphase⟩ := hallows
      refine of_statuses (hread hphase) (hmove (hread hphase)) rfl rfl ?_ ?_ ?_ ?_ <;>
        simp [stake, executing, succeeded, hnew, hphase]

theorem of_save_other {job : Job} (hid : id ≠ job.id)
    (hallows : l.allowsSave job.id job.status) :
    Conserves id (s.view id) l ((s.saveJob job).view id) (l.next (.save job) (.ok ())) := by
  have hother : ∀ {phase : Phase}, phase = .idle ∨ phase.job? = some job.id →
      phase.job? ≠ some id := by
    rintro phase (rfl | hjob) heq
    · cases heq
    · exact hid (Option.some.inj (heq.symm.trans hjob))
  refine of_other (by rw [State.view_saveJob, if_neg hid])
    (hother (job?_of_allowsSave hallows)) (hother ?_) ?_
  · exact job?_afterSave (job?_of_allowsSave hallows) job.status
  · cases hnew : job.status with
    | queued =>
        rw [hnew] at hallows
        simp [hnew, hallows.2.1, Ne.symm hid]
    | pending | scheduled | processing | completed | failed | retry | cancelled =>
        simp [hnew]

/-- Sending the message moves it from the call to the topic. -/
theorem of_sendJob {message : String} {jobId : Int} (hphase : l.phase = .idle)
    (howes : l.owes = some jobId) (hcarries : carries jobId message = true)
    (reply : Except JavaException Unit) :
    Conserves id (s.view id) l ((s.sendJob message).view id) (l.next (.sendJob message) reply) := by
  have hmessage : parseLong message = some jobId := by simpa [carries] using hcarries
  have hinFlight : ((s.sendJob message).view id).inFlight =
      (s.view id).inFlight + if jobId = id then 1 else 0 := by
    by_cases hid : jobId = id <;> simp [State.view, State.sendJob, carries, hmessage, hid]
  constructor
  · have hdue : ((s.sendJob message).view id).due = (s.view id).due := rfl
    rw [hinFlight, hdue]
    by_cases hid : jobId = id <;> simp [stake, hphase, howes, hid]
  · simp [executing, hphase]
    rfl
  · simp [succeeded, hphase]
    rfl
  · intro status h
    rw [next, hphase] at h
    cases h

/-- An executor that returns is the success of a PROCESSING job. -/
theorem of_success {job : Job} (h : Sound id (s.view id) l)
    (hphase : l.phase = .processing job.id) :
    Conserves id (s.view id) l ((s.recordExecution job.id true).view id)
      { l with phase := .executed job.id } := by
  by_cases hid : id = job.id
  · subst hid
    have hstatus : (s.view job.id).status? = some .processing := by
      simpa [stake, executing, hphase] using h.status
    have hsuccesses : ((s.recordExecution job.id true).view job.id).successes =
        (s.view job.id).successes + 1 := by
      rw [State.view_recordExecution, if_pos rfl, JobView.successes, List.count_append]
      rfl
    constructor
    · simp [stake, hphase]
      rfl
    · simp [executing, hphase]
      rfl
    · have hstatus' : ((s.recordExecution job.id true).view job.id).status? = some .processing :=
        hstatus
      simp [succeeded, JobView.completed, hsuccesses, hstatus, hstatus', hphase]
    · intro status hread
      cases hread
  · refine of_other ?_ ?_ ?_ Iff.rfl
    · rw [State.view_recordExecution, if_neg hid]
    · rw [hphase, Phase.job?, ne_eq, Option.some.injEq]
      exact Ne.symm hid
    · rw [Phase.job?, ne_eq, Option.some.injEq]
      exact Ne.symm hid

theorem of_failure (h : Sound id (s.view id) l) (jobId : Int) :
    Conserves id (s.view id) l ((s.recordExecution jobId false).view id) l := by
  have hsuccesses : ((s.recordExecution jobId false).view id).successes =
      (s.view id).successes := by
    rw [State.view_recordExecution]
    by_cases hid : id = jobId <;> simp [hid, JobView.successes]
  exact of_eq h rfl rfl hsuccesses rfl rfl

/-- A call that acknowledges without having executed holds nothing. -/
theorem of_acknowledge (h : Sound id (s.view id) l)
    (hallows : l.phase = .idle ∨
      ∃ jobId status, l.phase = .read jobId status ∧ status ≠ some .queued) :
    Conserves id (s.view id) l (s.view id) { l with phase := .closed } := by
  rcases hallows with hphase | ⟨jobId, status, hphase, hne⟩
  · exact of_other rfl (by simp [hphase]) (by simp) Iff.rfl
  · refine of_other rfl ?_ (by simp) Iff.rfl
    rw [hphase, Phase.job?, ne_eq, Option.some.injEq]
    rintro rfl
    exact hne (h.read status hphase)

/-- Every operation the protocol allows keeps the books, if its save is fresh. -/
theorem of_perform [RateLimiter L] (reading : Reading) {op : Op} (h : Sound id (s.view id) l)
    (hallows : l.allows op) (hfresh : FreshSave s l op) :
    Conserves id (s.view id) l ((op.exec reading s).2.view id)
      (l.next op (op.exec reading s).1) := by
  cases op with
  | findById jobId => exact of_findById h hallows
  | insert data => exact of_insert h hallows.2 _
  | save job =>
      by_cases hid : id = job.id
      · subst hid
        exact of_save_own h hallows hfresh
      · exact of_save_other hid hallows
  | sendJob message =>
      obtain ⟨hphase, jobId, howes, hcarries⟩ := hallows
      exact of_sendJob hphase howes hcarries _
  | execute executor job =>
      obtain ⟨instant, order, outcome | _⟩ := reading
      · exact of_failure h job.id
      · exact of_success h hallows
  | acknowledge => exact of_acknowledge h hallows
  | currentTimeMillis | instantNow | query _ | scheduleJob _ _ | getReadyJobs _ | removeJob _
  | getLastRun | setLastRun _ | cancelJob _ | isCancelled _ | clearCancellation _ | allow _ _
  | isCircuitOpen _ | setCircuitOpen _ _ | setFailureCount _ _ | incrementFailureCount _
  | getLastFailureTime _ | setLastFailureTime _ _ | publish _ => exact of_eq h rfl rfl rfl rfl rfl

end Operations

end Conserves

/-! ## All interleavings -/

/-- The four services without faults or stops, and with fresh saves only. -/
def freshly (L : Type) [RateLimiter L] : Discipline (Custody.protocol L) Call (State L) where
  init := Custody.init
  final := Custody.Finished
  starts := Call.Works
  performs := FreshSave
  stops := fun _ => False

/-- A call that starts with what the stores give up for it. -/
theorem Balanced.add {id : Int} {v v' : JobView} {ls : List Custody} {l : Custody}
    (h : Balanced id v ls) (hrow : v'.row = v.row) (hexecutions : v'.executions = v.executions)
    (hinFlight : v'.inFlight + l.stake id = v.inFlight) (hexecuting : l.executing id = 0)
    (hread : ∀ status, l.phase ≠ .read id status) : Balanced id v' (ls ++ [l]) := by
  have hstatus : v'.status? = v.status? := by rw [JobView.status?, hrow, JobView.status?]
  have hsucceeded := l.succeeded_le_executing id
  obtain ⟨htokens, hrunning, hsuccesses, hold⟩ := h
  constructor
  · have hdue : v'.due = v.due := by rw [JobView.due, hstatus, JobView.due]
    rw [sum_map_middle, List.map_nil, List.sum_nil]
    omega
  · have hprocessing : v'.processing = v.processing := by
      rw [JobView.processing, hstatus, JobView.processing]
    rw [sum_map_middle, List.map_nil, List.sum_nil]
    omega
  · have hcompleted : v'.completed = v.completed := by
      rw [JobView.completed, hstatus, JobView.completed]
    have hcount : v'.successes = v.successes := by
      rw [JobView.successes, hexecutions, JobView.successes]
    rw [sum_map_middle, List.map_nil, List.sum_nil]
    omega
  · intro other hother status hphase
    rcases List.mem_append.mp hother with hother | hother
    · exact hold other hother status hphase
    · rw [List.mem_singleton.mp hother] at hphase
      exact absurd hphase (hread status)

/-- A consumer takes its message off the topic, the other calls start with
nothing. -/
theorem Balanced.start {id : Int} {L : Type} {c : Call} {s : State L} {ls : List Custody}
    (h : Balanced id (s.view id) ls) (hworks : c.Works) (henabled : c.Enabled s) :
    Balanced id ((c.deliver s).view id) (ls ++ [Custody.init c]) := by
  cases c with
  | consume message =>
      have hinFlight : ((Call.deliver (.consume message) s).view id).inFlight +
          (Custody.init (.consume message)).stake id = (s.view id).inFlight := by
        rw [Call.deliver, State.view_erase_topic s id henabled]
        by_cases hcarries : carries id message = true
        · -- the message leaves the topic and becomes the stake of the consumer
          have hpos := State.inFlight_pos s id henabled hcarries
          have hid : parseLong message = some id := by simpa [carries] using hcarries
          simp only [hcarries, if_true, Custody.init, hid, Custody.stake, Custody.Phase.job?]
          exact Nat.sub_add_cancel hpos
        · have hid : parseLong message ≠ some id := by simpa [carries] using hcarries
          rw [if_neg hcarries]
          cases hother : parseLong message with
          | none => simp [Custody.init, hother, Custody.stake]
          | some other =>
              have hne : other ≠ id := fun heq => hid (by rw [hother, heq])
              simp [Custody.init, hother, Custody.stake, hne]
      refine h.add rfl rfl hinFlight ?_ ?_
      · cases hid : parseLong message <;> simp [Custody.init, hid, Custody.executing]
      · cases hid : parseLong message <;> simp [Custody.init, hid]
  | createJob _ | watch | dispatch => exact h.add rfl rfl rfl rfl (by simp [Custody.init])
  | cancelJob _ | triggerRecovery | reconcileRedis | resetCircuit _ | requeueJob _
  | redeliver _ => exact hworks.elim

section Interleavings

variable {L : Type} [RateLimiter L]

/-- Without lost updates every job is executed successfully at most once, in every
interleaving of any number of calls. -/
theorem executed_once_of_fresh_saves {limiter : L} {p : ServicePool L}
    {labels : List (Pool.Label Op Reply JavaException Call Reading)}
    (hrun : Run (Pool.DisciplinedStep services (freshly L)) ⟨State.empty limiter, []⟩ labels p)
    (id : Int) : (p.store.view id).executions.count true ≤ 1 := by
  have hbalanced := Pool.invariant (fun s ls => Balanced id (s.view id) ls) hrun
    (fun c hc => Custody.obeys_program hc) (fun reading op s => ⟨reading, s, rfl⟩)
    (fun c s ls hworks henabled h => h.start hworks henabled)
    (fun reading op s before l after hallows hfresh h =>
      h.replace (.of_perform reading h.sound hallows hfresh))
    (fun t s before after hstop _ => hstop.elim) rfl ⟨rfl, rfl, rfl, by simp⟩
  exact hbalanced.1.successes_le_one

end Interleavings

/-! ## Schedules -/

/-- The four services without faults or stops. -/
def Undisturbed {L : Type} (_ : ServicePool L) :
    Pool.Label Op Reply JavaException Call Reading → Prop
  | .start c => c.Works
  | .perform _ _ _ => True
  | .stop _ => False

instance {L : Type} (p : ServicePool L) : DecidablePred (Undisturbed p) := fun label =>
  match label with
  | .start c => inferInstanceAs (Decidable c.Works)
  | .perform _ _ _ => isTrue trivial
  | .stop _ => isFalse id

instance {L : Type} (s : State L) (l : Custody) : DecidablePred (FreshSave s l) := fun op =>
  match op with
  | .save job => inferInstanceAs (Decidable ((s.view job.id).status? = l.copy job.id))
  | .currentTimeMillis | .instantNow | .findById _ | .query _ | .insert _ | .scheduleJob _ _
  | .getReadyJobs _ | .removeJob _ | .getLastRun | .setLastRun _ | .cancelJob _ | .isCancelled _
  | .clearCancellation _ | .allow _ _ | .isCircuitOpen _ | .setCircuitOpen _ _
  | .setFailureCount _ _ | .incrementFailureCount _ | .getLastFailureTime _
  | .setLastFailureTime _ _ | .sendJob _ | .publish _ | .acknowledge | .execute _ _ =>
      isTrue trivial

instance {L : Type} [RateLimiter L] (p : ServicePool L)
    (label : Pool.Label Op Reply JavaException Call Reading) :
    Decidable (Pool.Permits (freshly L) p label) :=
  match label with
  | .start c => inferInstanceAs (Decidable c.Works)
  | .perform t op _ => inferInstanceAs (Decidable (FreshSave p.store (t.loc _ _) op))
  | .stop _ => isFalse id

/-- A job is created, sent and executed. -/
def createAndExecute : List (Pool.Command Call Reading) :=
  .start (.createJob (.immediate "LOG")) :: proceed 0 5 1000 ++
    .start (.consume "1") :: proceed 1 10 1001

theorem executed_once_of_fresh_saves_createAndExecute :
    ∃ labels p, Run (Pool.DisciplinedStep services (freshly LuaLimiter))
      ⟨State.empty LuaLimiter.empty, []⟩ labels p ∧ (p.store.view 1).executions = [true] ∧
      (p.store.view 1).executions.count true ≤ 1 := by
  have hschedule : (Pool.schedule services (Pool.Permits (freshly LuaLimiter)) createAndExecute
      ⟨State.empty LuaLimiter.empty, []⟩).map (fun p => (p.store.view 1).executions) =
      some [true] := by decide
  obtain ⟨labels, p, hrun, hexecutions⟩ := Pool.exists_run_of_schedule hschedule
  exact ⟨labels, p, hrun, hexecutions, executed_once_of_fresh_saves hrun 1⟩

/-- The watcher reads the row as PENDING while `createJob` is about to save QUEUED.
It saves SCHEDULED over the row of the executed job and schedules it again. -/
def staleWatch : List (Pool.Command Call Reading) :=
  .start (.createJob (.immediate "LOG")) :: proceed 0 2 1000 ++
    .start .watch :: proceed 1 4 1001 ++ proceed 0 3 1002 ++
    .start (.consume "1") :: proceed 2 10 1003 ++ proceed 1 3 1004 ++
    .start .dispatch :: proceed 3 6 1005 ++
    .start (.consume "1") :: proceed 4 10 1006

theorem staleWatch_executes_twice :
    ∃ labels p, Run (fun p label q => Pool.Step services p label q ∧ Undisturbed p label)
      ⟨State.empty LuaLimiter.empty, []⟩ labels p ∧
      (p.store.view 1).executions = [true, true] := by
  have hschedule : (Pool.schedule services Undisturbed staleWatch
      ⟨State.empty LuaLimiter.empty, []⟩).map (fun p => (p.store.view 1).executions) =
      some [true, true] := by decide
  exact Pool.exists_run_of_schedule hschedule

end JobQueue
