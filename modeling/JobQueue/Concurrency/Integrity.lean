import JobQueue.Concurrency.Copies

/-!
# What no interleaving breaks

A call writes back what it read, and another call may have written the row meanwhile.  So a
status can be lost.  The columns that say what a job is are the same in every copy of its row,
and nothing deletes a row; so whatever the interleaving, the requeues, the messages delivered
again and the threads that stop, a job keeps what it was created with, and every message,
every member of the delay queue, every execution and every incident is about a job that
exists.
-/

namespace JobQueue

open Decimal KafkaConsumerService

/-! ## The stores -/

section Stores

variable {L : Type}

/-- The rows of `s` are there in `t`, as they were created, and what was sent stays sent. -/
structure Extends (s t : State L) : Prop where
  rows : ∀ id row, s.jobs.findById id = some row →
    ∃ job, t.jobs.findById id = some job ∧ SameOrigin row job
  sent : ∀ message ∈ s.sent, message ∈ t.sent

/-- A text that carries the id of a row. -/
def Names (s : State L) (text : String) : Prop :=
  ∃ id row, s.jobs.findById id = some row ∧ carries id text = true

/-- What all stores say is about jobs that exist. -/
structure Integrity (s : State L) : Prop where
  retries : ∀ id row, s.jobs.findById id = some row → row.retryCount ≤ MAX_RETRY
  sent : ∀ message ∈ s.sent, Names s message
  topic : ∀ message ∈ s.topic, message ∈ s.sent
  scheduled : ∀ id, s.scheduledJobs.score? id ≠ none → s.jobs.findById id ≠ none
  executed : ∀ execution ∈ s.executions, s.jobs.findById execution.jobId ≠ none
  reported : ∀ incident ∈ s.incidents, ∀ text, incident.jobId = some text → Names s text

/-- The rows a call goes by are copies of rows that exist, and its message was sent. -/
structure Backed (s : State L) (l : Copies) : Prop where
  message : ∀ message, l.message = some message → message ∈ s.sent
  retries : ∀ row ∈ l.rows, row.retryCount ≤ MAX_RETRY
  rows : ∀ row ∈ l.rows, ∃ job, s.jobs.findById row.id = some job ∧ SameOrigin row job

namespace Extends

variable {s t u : State L}

theorem of_jobs (hjobs : t.jobs = s.jobs) (hsent : ∀ message ∈ s.sent, message ∈ t.sent) :
    Extends s t where
  rows id row hrow := ⟨row, by rw [hjobs, hrow], .refl row⟩
  sent := hsent

theorem refl (s : State L) : Extends s s := of_jobs rfl fun _ h => h

theorem trans (h : Extends s t) (h' : Extends t u) : Extends s u where
  rows id row hrow := by
    obtain ⟨job, hjob, horigin⟩ := h.rows id row hrow
    obtain ⟨later, hlater, horigin'⟩ := h'.rows id job hjob
    exact ⟨later, hlater, horigin.trans horigin'⟩
  sent message hmem := h'.sent message (h.sent message hmem)

theorem findById_ne_none (h : Extends s t) {id : Int} (hrow : s.jobs.findById id ≠ none) :
    t.jobs.findById id ≠ none := by
  obtain ⟨row, hrow⟩ := Option.ne_none_iff_exists'.mp hrow
  obtain ⟨job, hjob, -⟩ := h.rows id row hrow
  simp [hjob]

theorem names (h : Extends s t) {text : String} (hnames : Names s text) : Names t text := by
  obtain ⟨id, row, hrow, hcarries⟩ := hnames
  obtain ⟨job, hjob, -⟩ := h.rows id row hrow
  exact ⟨id, job, hjob, hcarries⟩

theorem backed (h : Extends s t) {l : Copies} (hl : Backed s l) : Backed t l where
  message text htext := h.sent text (hl.message text htext)
  retries := hl.retries
  rows row hrow := by
    obtain ⟨job, hjob, horigin⟩ := hl.rows row hrow
    obtain ⟨later, hlater, horigin'⟩ := h.rows row.id job hjob
    exact ⟨later, hlater, horigin.trans horigin'⟩

end Extends

/-! ## One operation -/

section Exec

variable {s t : State L} {l : Copies}

theorem Integrity.empty (limiter : L) : Integrity (State.empty limiter) where
  retries id row hrow := by cases hrow
  sent := fun _ h => (List.not_mem_nil h).elim
  topic := fun _ h => (List.not_mem_nil h).elim
  scheduled id h := absurd rfl h
  executed := fun _ h => (List.not_mem_nil h).elim
  reported := fun _ h => (List.not_mem_nil h).elim

theorem Backed.names {row : Job} (hl : Backed s l) (hrow : row ∈ l.rows) {text : String}
    (hcarries : carries row.id text = true) : Names s text := by
  obtain ⟨job, hjob, -⟩ := hl.rows row hrow
  exact ⟨row.id, job, hjob, hcarries⟩

theorem Backed.findById_ne_none {row : Job} (hl : Backed s l) (hrow : row ∈ l.rows) :
    s.jobs.findById row.id ≠ none := by
  obtain ⟨job, hjob, -⟩ := hl.rows row hrow
  simp [hjob]

/-- Where the new store says nothing new but of jobs that exist, integrity is kept. -/
theorem Integrity.extend (h : Integrity s) (hext : Extends s t)
    (hretries : ∀ id row, t.jobs.findById id = some row → row.retryCount ≤ MAX_RETRY)
    (hsent : ∀ message ∈ t.sent, message ∈ s.sent ∨ Names t message)
    (htopic : ∀ message ∈ t.topic, message ∈ s.topic ∨ message ∈ t.sent)
    (hscheduled : ∀ id, t.scheduledJobs.score? id ≠ none →
      s.scheduledJobs.score? id ≠ none ∨ t.jobs.findById id ≠ none)
    (hexecuted : ∀ execution ∈ t.executions,
      execution ∈ s.executions ∨ t.jobs.findById execution.jobId ≠ none)
    (hreported : ∀ incident ∈ t.incidents, incident ∈ s.incidents ∨
      ∀ text, incident.jobId = some text → Names t text) : Integrity t where
  retries := hretries
  sent message hmem := (hsent message hmem).elim (fun h' => hext.names (h.sent message h')) id
  topic message hmem :=
    (htopic message hmem).elim (fun h' => hext.sent message (h.topic message h')) id
  scheduled id hscore :=
    (hscheduled id hscore).elim (fun h' => hext.findById_ne_none (h.scheduled id h'))
      fun h' => h'
  executed execution hmem :=
    (hexecuted execution hmem).elim (fun h' => hext.findById_ne_none (h.executed execution h')) id
  reported incident hmem :=
    (hreported incident hmem).elim
      (fun h' text htext => hext.names (h.reported incident h' text htext)) id

/-- A save replaces a row by what was made of a copy of it. -/
theorem integrity_saveJob (h : Integrity s) (hl : Backed s l) {job : Job}
    (hallows : l.allows (.save job)) :
    Integrity (s.saveJob job) ∧ Extends s (s.saveJob job) := by
  obtain ⟨row, hrow, horigin, hretries⟩ := hallows
  obtain ⟨stored, hstored, hcopied⟩ := hl.rows row hrow
  have hbound := hl.retries row hrow
  have hfind : ∀ id, (s.saveJob job).jobs.findById id =
      if id = job.id then (s.jobs.findById id).map fun _ => job else s.jobs.findById id :=
    s.jobs.findById_save job
  have hext : Extends s (s.saveJob job) := by
    refine ⟨fun id old hold => ?_, fun _ hmem => hmem⟩
    rw [hfind]
    by_cases hid : id = job.id
    · -- the row that is replaced has the origin of the copy
      have heq : stored = old := by
        rw [← horigin.id, ← hid, hold] at hstored
        exact (Option.some.inj hstored).symm
      rw [if_pos hid, hold]
      exact ⟨job, rfl, heq ▸ hcopied.symm.trans horigin⟩
    · rw [if_neg hid]
      exact ⟨old, hold, .refl old⟩
  refine ⟨h.extend hext ?_ (fun _ hm => .inl hm) (fun _ hm => .inl hm) (fun _ hm => .inl hm)
    (fun _ hm => .inl hm) fun _ hm => .inl hm, hext⟩
  intro id found hfound
  rw [hfind] at hfound
  split_ifs at hfound with hid
  · obtain ⟨old, -, rfl⟩ := Option.map_eq_some_iff.mp hfound
    omega
  · exact h.retries id found hfound

theorem integrity_insertJob (h : Integrity s) {data : JobData} (hdata : data.retryCount = 0) :
    Integrity (s.insertJob data) ∧ Extends s (s.insertJob data) := by
  have hfind : ∀ id, (s.insertJob data).jobs.findById id =
      if id = s.jobs.nextId then some { data with id := s.jobs.nextId }
      else s.jobs.findById id :=
    s.jobs.findById_insert data
  have hext : Extends s (s.insertJob data) := by
    refine ⟨fun id old hold => ⟨old, ?_, .refl old⟩, fun _ hmem => hmem⟩
    have hle := JobTable.findById_le hold
    rw [hfind, if_neg (by unfold JobTable.nextId; omega)]
    exact hold
  refine ⟨h.extend hext ?_ (fun _ hm => .inl hm) (fun _ hm => .inl hm) (fun _ hm => .inl hm)
    (fun _ hm => .inl hm) fun _ hm => .inl hm, hext⟩
  intro id found hfound
  rw [hfind] at hfound
  split_ifs at hfound with hid
  · rw [← Option.some.inj hfound]
    show data.retryCount ≤ MAX_RETRY
    omega
  · exact h.retries id found hfound

/-- An operation that leaves the rows alone. -/
theorem Integrity.of_jobs (h : Integrity s) (hjobs : t.jobs = s.jobs)
    (hkeep : ∀ message ∈ s.sent, message ∈ t.sent)
    (hsent : ∀ message ∈ t.sent, message ∈ s.sent ∨ Names s message)
    (htopic : ∀ message ∈ t.topic, message ∈ s.topic ∨ message ∈ t.sent)
    (hscheduled : ∀ id, t.scheduledJobs.score? id ≠ none →
      s.scheduledJobs.score? id ≠ none ∨ s.jobs.findById id ≠ none)
    (hexecuted : ∀ execution ∈ t.executions,
      execution ∈ s.executions ∨ s.jobs.findById execution.jobId ≠ none)
    (hreported : ∀ incident ∈ t.incidents, incident ∈ s.incidents ∨
      ∀ text, incident.jobId = some text → Names s text) :
    Integrity t ∧ Extends s t := by
  have hext : Extends s t := .of_jobs hjobs hkeep
  refine ⟨h.extend hext ?_ ?_ htopic ?_ ?_ ?_, hext⟩
  · rw [hjobs]
    exact h.retries
  · exact fun message hmem => (hsent message hmem).imp_right hext.names
  · exact fun id hscore => (hscheduled id hscore).imp_right hext.findById_ne_none
  · exact fun execution hmem => (hexecuted execution hmem).imp_right hext.findById_ne_none
  · exact fun incident hmem => (hreported incident hmem).imp_right
      fun hnames text htext => hext.names (hnames text htext)

theorem integrity_exec [RateLimiter L] (reading : Reading) {op : Op} (h : Integrity s)
    (hl : Backed s l) (hallows : l.allows op) :
    Integrity (op.exec reading s).2 ∧ Extends s (op.exec reading s).2 := by
  -- most operations touch nothing that the invariant speaks about
  have hsame : ∀ t : State L, t.jobs = s.jobs → t.sent = s.sent → t.topic = s.topic →
      t.scheduledJobs = s.scheduledJobs → t.executions = s.executions →
      t.incidents = s.incidents → Integrity t ∧ Extends s t := by
    intro t hjobs hsent htopic hscheduled hexecutions hincidents
    refine h.of_jobs hjobs (by simp [hsent]) ?_ ?_ ?_ ?_ ?_
    · exact fun _ hmem => .inl (hsent ▸ hmem)
    · exact fun _ hmem => .inl (htopic ▸ hmem)
    · exact fun _ hscore => .inl (hscheduled ▸ hscore)
    · exact fun _ hmem => .inl (hexecutions ▸ hmem)
    · exact fun _ hmem => .inl (hincidents ▸ hmem)
  cases op with
  | save job => exact integrity_saveJob h hl hallows
  | insert data => exact integrity_insertJob h hallows
  | scheduleJob id time =>
      -- the copy in the hands of the thread says that the row exists
      obtain ⟨row, hrow, rfl⟩ := hallows
      refine h.of_jobs rfl (fun _ hm => hm) (fun _ hm => .inl hm) (fun _ hm => .inl hm) ?_
        (fun _ hm => .inl hm) fun _ hm => .inl hm
      intro id hscore
      by_cases hid : id = row.id
      · exact .inr (hid ▸ hl.findById_ne_none hrow)
      · have hview := s.view_scheduleJob id row.id time
        have hscore' : ((s.scheduleJob row.id time).view id).score ≠ none := hscore
        rw [hview, if_neg hid] at hscore'
        exact .inl hscore'
  | sendJob message =>
      obtain ⟨row, hrow, hcarries⟩ := hallows
      refine h.of_jobs rfl (fun _ hm => List.mem_append_left _ hm) ?_ ?_ (fun _ hm => .inl hm)
        (fun _ hm => .inl hm) fun _ hm => .inl hm
      · intro text htext
        refine (List.mem_append.mp htext).imp_right fun hnew => ?_
        rw [List.mem_singleton.mp hnew]
        exact hl.names hrow hcarries
      · exact fun text htext => (List.mem_append.mp htext).imp_right
          (List.mem_append_right _)
  | publish incident =>
      refine h.of_jobs rfl (fun _ hm => hm) (fun _ hm => .inl hm) (fun _ hm => .inl hm)
        (fun _ hm => .inl hm) (fun _ hm => .inl hm) fun other hmem => ?_
      refine (List.mem_append.mp hmem).imp_right fun hnew text htext => ?_
      rw [List.mem_singleton.mp hnew] at htext
      obtain ⟨row, hrow, hcarries⟩ := hallows text htext
      exact hl.names hrow hcarries
  | execute executor job =>
      obtain ⟨row, hrow, hid⟩ := hallows
      have hrecord : ∀ succeeded, Integrity (s.recordExecution job.id succeeded) ∧
          Extends s (s.recordExecution job.id succeeded) := by
        intro succeeded
        refine h.of_jobs rfl (fun _ hm => hm) (fun _ hm => .inl hm) (fun _ hm => .inl hm)
          (fun _ hm => .inl hm) (fun execution hmem => ?_) fun _ hm => .inl hm
        refine (List.mem_append.mp hmem).imp_right fun hnew => ?_
        rw [List.mem_singleton.mp hnew, ← hid]
        exact hl.findById_ne_none hrow
      unfold Op.exec
      cases reading.outcome with
      | ok value => exact hrecord true
      | error e => exact hrecord false
  | removeJob text =>
      refine h.of_jobs rfl (fun _ hm => hm) (fun _ hm => .inl hm) (fun _ hm => .inl hm) ?_
        (fun _ hm => .inl hm) fun _ hm => .inl hm
      intro id hscore
      left
      intro hnone
      apply hscore
      show (s.scheduledJobs.set.remove text).score? (longToString id) = none
      rw [SortedSet.score?_remove]
      split_ifs
      · rfl
      · exact hnone
  | _ => exact hsame _ rfl rfl rfl rfl rfl rfl

/-- Further rows are copies of what the store holds. -/
theorem Backed.append (h : Integrity s) (hl : Backed s l) (rows : List Job)
    (hrows : ∀ row ∈ rows, s.jobs.findById row.id = some row) :
    Backed s { l with rows := rows ++ l.rows } where
  message := hl.message
  retries row hrow := (List.mem_append.mp hrow).elim
    (fun hnew => h.retries row.id row (hrows row hnew)) (hl.retries row)
  rows row hrow := (List.mem_append.mp hrow).elim
    (fun hnew => ⟨row, hrows row hnew, .refl row⟩) (hl.rows row)

theorem backed_next [RateLimiter L] (reading : Reading) {op : Op} (h : Integrity s)
    (hl : Backed s l) (hallows : l.allows op) :
    Backed (op.exec reading s).2 (l.next op (op.exec reading s).1) := by
  obtain ⟨hintegrity, hext⟩ := integrity_exec reading h hl hallows
  have hl' := hext.backed hl
  cases op with
  | findById id =>
      show Backed s (l.next (.findById id) (.ok (s.jobs.findById id)))
      cases hrow : s.jobs.findById id with
      | none => exact hl
      | some row =>
          refine hl.append h [row] fun other hmem => ?_
          rw [List.mem_singleton.mp hmem, JobTable.id_of_findById hrow, hrow]
  | query q => exact hl.append h _ fun row hmem => (JobTable.mem_select hmem).1
  | insert data =>
      refine hl'.append hintegrity [{ data with id := s.jobs.nextId }] fun other hmem => ?_
      rw [List.mem_singleton.mp hmem]
      exact (s.jobs.findById_insert data _).trans (if_pos rfl)
  | _ => exact hl'

end Exec

/-! ## All threads -/

section Threads

variable [RateLimiter L]

/-- Any call may start, go on and stop at any time. -/
def anyCalls (L : Type) [RateLimiter L] : Discipline (Copies.protocol L) Call (State L) where
  init := Copies.init
  final _ := True
  starts _ := True
  performs _ _ _ := True
  stops _ := True

/-- Integrity of the store, and of what the threads go by. -/
def AllBacked (s : State L) (ls : List Copies) : Prop :=
  Integrity s ∧ ∀ l ∈ ls, Backed s l

theorem message_loc (t : ServiceThread) :
    (t.loc (Copies.protocol L) (anyCalls L).init).message = (Copies.init t.tag).message := by
  have hfold : ∀ (history : List (Event Op Reply JavaException)) (l : Copies),
      (history.foldl (fun l event => (Copies.protocol L).next l event.op event.reply) l).message =
        l.message := by
    intro history l
    induction history generalizing l with
    | nil => rfl
    | cons event rest ih => exact (ih _).trans (l.message_next event.op event.reply)
  exact hfold t.history (Copies.init t.tag)

theorem disciplined_of_step {p q : ServicePool L}
    {labels : List (Pool.Label Op Reply JavaException Call Reading)}
    (h : Run (Pool.Step services) p labels q) :
    Run (Pool.DisciplinedStep services (anyCalls L)) p labels q := by
  refine h.mono fun p label q hstep => ⟨hstep, ?_⟩
  cases label <;> trivial

omit [RateLimiter L] in
theorem integrity_deliver (c : Call) {s : State L} (h : Integrity s) :
    Integrity (c.deliver s) ∧ Extends s (c.deliver s) := by
  have hsame : Integrity s ∧ Extends s s := ⟨h, .refl s⟩
  cases c with
  | consume message =>
      exact h.of_jobs rfl (fun _ hm => hm) (fun _ hm => .inl hm)
        (fun _ hm => .inl (List.mem_of_mem_erase hm)) (fun _ hm => .inl hm) (fun _ hm => .inl hm)
        fun _ hm => .inl hm
  | _ => exact hsame

omit [RateLimiter L] in
/-- A call starts without rows, and a message that is delivered was sent. -/
theorem backed_init {c : Call} {s : State L} (h : Integrity s) (henabled : c.Enabled s) :
    Backed s (Copies.init c) := by
  cases c with
  | consume message =>
      refine ⟨fun text htext => ?_, by simp [Copies.init], by simp [Copies.init]⟩
      obtain rfl := Option.some.inj htext
      exact h.topic message henabled
  | _ => exact ⟨nofun, by simp [Copies.init], by simp [Copies.init]⟩

omit [RateLimiter L] in
/-- A message that is delivered once more was sent. -/
theorem integrity_stopThread {t : ServiceThread} {s : State L} (h : Integrity s)
    (hmessage : ∀ message, (Copies.init t.tag).message = some message → message ∈ s.sent) :
    Integrity (stopThread t s) ∧ Extends s (stopThread t s) := by
  have hrestart : ∀ topic : List String, (∀ message ∈ topic, message ∈ s.topic ∨ message ∈ s.sent) →
      Integrity { s with
        failureCount := fun _ => 0
        circuitOpen := fun _ => false
        lastFailureTime := fun _ => 0
        topic := topic } ∧ Extends s { s with
        failureCount := fun _ => 0
        circuitOpen := fun _ => false
        lastFailureTime := fun _ => 0
        topic := topic } := by
    intro topic htopic
    exact h.of_jobs rfl (fun _ hm => hm) (fun _ hm => .inl hm) htopic (fun _ hm => .inl hm)
      (fun _ hm => .inl hm) fun _ hm => .inl hm
  have hsame : Integrity s ∧ Extends s s := ⟨h, .refl s⟩
  unfold stopThread
  cases htag : t.tag with
  | consume message =>
      rw [htag] at hmessage
      dsimp only
      split_ifs
      · exact hrestart s.topic fun _ hm => .inl hm
      · refine hrestart (s.topic ++ [message]) fun text htext => ?_
        refine (List.mem_append.mp htext).imp_right fun hnew => ?_
        rw [List.mem_singleton.mp hnew]
        exact hmessage message rfl
  | redeliver message => exact hrestart s.topic fun _ hm => .inl hm
  | _ => exact hsame

/-- What holds of all threads and of the store since it was `s₀`. -/
theorem allBacked_of_run {s₀ : State L} {p q : ServicePool L}
    {labels : List (Pool.Label Op Reply JavaException Call Reading)}
    (hrun : Run (Pool.Step services) p labels q)
    (hp : AllBacked p.store (Pool.locals (anyCalls L) p) ∧ Extends s₀ p.store)
    (hthreads : ∀ t ∈ p.threads, Pool.Follows (anyCalls L) t) :
    (AllBacked q.store (Pool.locals (anyCalls L) q) ∧ Extends s₀ q.store) ∧
      ∀ t ∈ q.threads, Pool.Follows (anyCalls L) t := by
  refine Pool.invariant_from (fun s ls => AllBacked s ls ∧ Extends s₀ s) (disciplined_of_step hrun)
    (fun c _ => Copies.obeys_program c) (fun env op s => ⟨env, s, rfl⟩) ?_ ?_ ?_ hp hthreads
  · rintro c s ls - henabled ⟨⟨hintegrity, hbacked⟩, hsince⟩
    obtain ⟨hdelivered, hext⟩ := integrity_deliver c hintegrity
    refine ⟨⟨hdelivered, fun l hl => ?_⟩, hsince.trans hext⟩
    rcases List.mem_append.mp hl with hold | hnew
    · exact hext.backed (hbacked l hold)
    · rw [List.mem_singleton.mp hnew]
      exact hext.backed (backed_init hintegrity henabled)
  · rintro reading op s before l after hallows - ⟨⟨hintegrity, hbacked⟩, hsince⟩
    have hl : Backed s l := hbacked l (by simp)
    obtain ⟨hafter, hext⟩ := integrity_exec reading hintegrity hl hallows
    refine ⟨⟨hafter, fun other hother => ?_⟩, hsince.trans hext⟩
    rw [List.mem_append, List.mem_cons] at hother
    rcases hother with hother | rfl | hother
    · exact hext.backed (hbacked other (by simp [hother]))
    · exact backed_next reading hintegrity hl hallows
    · exact hext.backed (hbacked other (by simp [hother]))
  · rintro t s before after - ⟨⟨hintegrity, hbacked⟩, hsince⟩
    have hmessage := (hbacked _ (List.mem_append_right before List.mem_cons_self)).message
    rw [message_loc] at hmessage
    obtain ⟨hafter, hext⟩ := integrity_stopThread hintegrity hmessage
    refine ⟨⟨hafter, fun other hother => hext.backed (hbacked other ?_)⟩, hsince.trans hext⟩
    rcases List.mem_append.mp hother with hother | hother <;> simp [hother]

/-- In every interleaving of any calls, requeues, messages delivered again and threads that
stop at any time included, no row is lost or becomes another job's, the retries stay bounded,
and what is sent, scheduled, executed and reported is about jobs that exist. -/
theorem integrity_of_run {limiter : L} {p q : ServicePool L}
    {labels labels' : List (Pool.Label Op Reply JavaException Call Reading)}
    (hbefore : Run (Pool.Step services) ⟨State.empty limiter, []⟩ labels p)
    (hafter : Run (Pool.Step services) p labels' q) :
    Integrity q.store ∧ Extends p.store q.store := by
  have hempty : AllBacked (State.empty limiter) [] :=
    ⟨Integrity.empty limiter, fun _ h => (List.not_mem_nil h).elim⟩
  obtain ⟨⟨hp, -⟩, hthreads⟩ := allBacked_of_run hbefore ⟨hempty, .refl _⟩
    fun _ h => (List.not_mem_nil h).elim
  obtain ⟨⟨hq, hext⟩, -⟩ := allBacked_of_run hafter ⟨hp, .refl p.store⟩ hthreads
  exact ⟨hq.1, hext⟩

end Threads

end Stores

/-! ## A lost completion -/

/-- A job is created and sent. -/
def createAndSend : List (Pool.Command Call Reading) :=
  .start (.createJob (.immediate "LOG")) :: proceed 0 5 1000

/-- An administrator reads the row; the job is executed meanwhile, and a redelivery of its
message is stopped.  The administrator saves QUEUED over COMPLETED. -/
def loseCompletion : List (Pool.Command Call Reading) :=
  .start (.requeueJob 1) :: proceed 1 1 1001 ++
    .start (.consume "1") :: proceed 2 10 1002 ++
    .start (.redeliver "1") :: proceed 3 2 1003 ++ .stop 3 :: proceed 1 2 1004

theorem exists_createAndSend : (Pool.schedule (services (L := LuaLimiter)) (fun _ _ => True)
    createAndSend ⟨State.empty LuaLimiter.empty, []⟩).isSome = true := by
  decide

def createdAndSent : ServicePool LuaLimiter :=
  (Pool.schedule services (fun _ _ => True) createAndSend
    ⟨State.empty LuaLimiter.empty, []⟩).get exists_createAndSend

theorem integrity_of_run_loseCompletion : ∃ labels q,
    Run (Pool.Step services) createdAndSent labels q ∧
      (q.store.view 1).status? = some .queued ∧ (q.store.view 1).executions = [true] ∧
      (∀ message ∈ q.store.sent, Names q.store message) ∧
      ∃ job, q.store.jobs.findById 1 = some job ∧ job.type = "LOG" := by
  have hbefore := Pool.run_steps (Option.some_get exists_createAndSend).symm
  have hschedule : (Pool.schedule services (fun _ _ => True) loseCompletion createdAndSent).map
      (fun q => ((q.store.view 1).status?, (q.store.view 1).executions)) =
      some (some .queued, [true]) := by decide
  obtain ⟨labels', q, hafter, hq⟩ := Pool.exists_run_of_schedule hschedule
  obtain ⟨hstatus, hexecutions⟩ := Prod.mk.inj hq
  have hsteps := hafter.mono fun _ _ _ h => h.1
  obtain ⟨hintegrity, hext⟩ := integrity_of_run (hbefore.mono fun _ _ _ h => h.1) hsteps
  have hrow : createdAndSent.store.jobs.findById 1 =
      some ⟨⟨"LOG", .queued, none, none, none, 0, 1000, none⟩, 1⟩ := by decide
  obtain ⟨job, hjob, horigin⟩ := hext.rows 1 _ hrow
  exact ⟨labels', q, hsteps, hstatus, hexecutions, hintegrity.sent, job, hjob, horigin.type⟩

end JobQueue
