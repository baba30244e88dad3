import JobQueue.Lib.SortedSet

/-!
# Jobs, the jobs table and its queries

`Job` is the JPA entity, `JobTable` the MySQL table behind `JobRepository`.
The table carries the two facts the database guarantees: ids are distinct, and
none exceeds the identity counter.

A query of `JobRepository` is a selection, an optional `ORDER BY` column and a
page size.  MySQL returns rows with equal sort keys, and all rows of a query
without `ORDER BY`, in an order of its own choice; a `RowOrder` is one such
choice, and every result below holds for all of them.

A Java `long` is an `Int`: ids and times stay far below `2 ^ 63`.  The `int` of
`retryCount` is a `Nat`: no failure counts it beyond `MAX_RETRY`.
-/

namespace JobQueue

inductive JobStatus where
  | pending
  | scheduled
  | queued
  | processing
  | completed
  | failed
  | retry
  | cancelled
  deriving DecidableEq, Repr

/-- `JobStatus.name()`, which is also its `toString()`. -/
def JobStatus.name : JobStatus → String
  | .pending => "PENDING"
  | .scheduled => "SCHEDULED"
  | .queued => "QUEUED"
  | .processing => "PROCESSING"
  | .completed => "COMPLETED"
  | .failed => "FAILED"
  | .retry => "RETRY"
  | .cancelled => "CANCELLED"

/-- The columns of a job other than its id.  `scheduleTime` is set by
`createJob` on every row and never cleared; `nextRetryTime` is `null` until a
consumer defers the job. -/
structure JobData where
  type : String
  status : JobStatus
  payload : Option String
  email : Option String
  message : Option String
  retryCount : Nat
  scheduleTime : Int
  nextRetryTime : Option Int
  deriving DecidableEq, Repr

structure Job extends JobData where
  id : Int
  deriving DecidableEq, Repr

/-! ## Queries -/

/-- The queries of `JobRepository` that return rows, with the page size of the
`PageRequest` of the call.  Every caller asks for page 0. -/
inductive JobQuery where
  | findWindow (start stop : Int) (size : Nat)
  | findRetryWindow (start stop : Int) (size : Nat)
  | findPendingOrScheduledInRange (start stop : Int) (size : Nat)
  | findRetryInRange (start stop : Int) (size : Nat)
  | findOverdueScheduled (now : Int) (size : Nat)
  | findRetryDue (now : Int) (size : Nat)

namespace JobQuery

/-- `nextRetryTime BETWEEN start AND stop`; a `null` column never matches. -/
def retryBetween (job : Job) (start stop : Int) : Bool :=
  match job.nextRetryTime with
  | none => false
  | some time => start ≤ time ∧ time ≤ stop

/-- `nextRetryTime <= now`. -/
def retryDueBy (job : Job) (now : Int) : Bool :=
  match job.nextRetryTime with
  | none => false
  | some time => time ≤ now

/-- The `WHERE` clause. -/
def selects : JobQuery → Job → Bool
  | findWindow start stop _, job =>
      job.status = .pending ∧ start ≤ job.scheduleTime ∧ job.scheduleTime ≤ stop
  | findRetryWindow start stop _, job =>
      job.status = .retry ∧ retryBetween job start stop
  | findPendingOrScheduledInRange start stop _, job =>
      (job.status = .pending ∨ job.status = .scheduled) ∧
        start ≤ job.scheduleTime ∧ job.scheduleTime ≤ stop
  | findRetryInRange start stop _, job =>
      job.status = .retry ∧ retryBetween job start stop
  | findOverdueScheduled now _, job =>
      job.status = .scheduled ∧ job.scheduleTime ≤ now
  | findRetryDue now _, job =>
      job.status = .retry ∧ retryDueBy job now

/-- The queries for rows to be retried. -/
def ForRetry : JobQuery → Prop
  | findRetryWindow _ _ _ => True
  | findRetryInRange _ _ _ => True
  | findRetryDue _ _ => True
  | _ => False

/-- A `null` retry time matches no comparison. -/
theorem retry_of_selects {q : JobQuery} (hq : q.ForRetry) {job : Job}
    (h : q.selects job = true) :
    job.status = .retry ∧ ∃ time, job.nextRetryTime = some time := by
  cases htime : job.nextRetryTime with
  | none => cases q <;> simp_all [ForRetry, selects, retryBetween, retryDueBy]
  | some time => cases q <;> simp_all [ForRetry, selects]

/-- The time up to which a query looks. -/
def stop : JobQuery → Int
  | findWindow _ stop _ => stop
  | findRetryWindow _ stop _ => stop
  | findPendingOrScheduledInRange _ stop _ => stop
  | findRetryInRange _ stop _ => stop
  | findOverdueScheduled now _ => now
  | findRetryDue now _ => now

theorem retryTime_le_of_selects {q : JobQuery} (hq : q.ForRetry) {job : Job} {time : Int}
    (h : q.selects job = true) (htime : job.nextRetryTime = some time) : time ≤ q.stop := by
  cases q with
  | findRetryWindow start stop size | findRetryInRange start stop size =>
      simp only [selects, retryBetween, htime, decide_eq_true_eq] at h
      exact h.2.2
  | findRetryDue now size =>
      simp only [selects, retryDueBy, htime, decide_eq_true_eq] at h
      exact h.2
  | _ => exact hq.elim

theorem of_selects_window {start stop : Int} {size : Nat} {job : Job}
    (h : (findWindow start stop size).selects job = true) :
    job.status = .pending ∧ start ≤ job.scheduleTime ∧ job.scheduleTime ≤ stop :=
  of_decide_eq_true h

theorem of_selects_inRange {start stop : Int} {size : Nat} {job : Job}
    (h : (findPendingOrScheduledInRange start stop size).selects job = true) :
    (job.status = .pending ∨ job.status = .scheduled) ∧
      start ≤ job.scheduleTime ∧ job.scheduleTime ≤ stop :=
  of_decide_eq_true h

theorem of_selects_overdue {now : Int} {size : Nat} {job : Job}
    (h : (findOverdueScheduled now size).selects job = true) :
    job.status = .scheduled ∧ job.scheduleTime ≤ now :=
  of_decide_eq_true h

/-- The `ORDER BY` column, ascending. -/
def orderBy : JobQuery → Option (Job → Int)
  | findWindow _ _ _ => some fun job => job.scheduleTime
  | findRetryWindow _ _ _ => some fun job => job.nextRetryTime.getD 0
  | findPendingOrScheduledInRange _ _ _ => none
  | findRetryInRange _ _ _ => none
  | findOverdueScheduled _ _ => some fun job => job.scheduleTime
  | findRetryDue _ _ => some fun job => job.nextRetryTime.getD 0

def pageSize : JobQuery → Nat
  | findWindow _ _ size => size
  | findRetryWindow _ _ size => size
  | findPendingOrScheduledInRange _ _ size => size
  | findRetryInRange _ _ size => size
  | findOverdueScheduled _ size => size
  | findRetryDue _ size => size

/-- Order rows by the `ORDER BY` column, equal keys as they come. -/
def sort (q : JobQuery) (rows : List Job) : List Job :=
  match q.orderBy with
  | none => rows
  | some key => rows.insertionSort fun a b => key a ≤ key b

theorem sort_perm (q : JobQuery) (rows : List Job) : (q.sort rows).Perm rows := by
  unfold sort
  cases q.orderBy with
  | none => exact List.Perm.refl rows
  | some key => exact List.perm_insertionSort _ rows

end JobQuery

/-- The order in which the database happens to find the rows of a query. -/
structure RowOrder where
  arrange : List Job → List Job
  perm : ∀ rows, (arrange rows).Perm rows

/-- Rows in the order of their ids. -/
def RowOrder.byId : RowOrder := ⟨id, List.Perm.refl⟩

/-! ## The table -/

/-- Among rows with distinct ids, a row is found by its id. -/
theorem find?_id_of_mem {rows : List Job} (hnodup : (rows.map Job.id).Nodup) {row : Job}
    (hmem : row ∈ rows) : (rows.find? fun other => other.id = row.id) = some row := by
  induction rows with
  | nil => cases hmem
  | cons first rest ih =>
      rw [List.map_cons, List.nodup_cons] at hnodup
      rcases List.mem_cons.mp hmem with rfl | htail
      · simp
      · have hne : first.id ≠ row.id := by
          intro heq
          exact hnodup.1 (heq ▸ List.mem_map_of_mem htail)
        rw [List.find?_cons_of_neg (by simpa using hne)]
        exact ih hnodup.2 htail

/-- The jobs table with its identity counter. -/
structure JobTable where
  rows : List Job
  lastId : Int
  nodup : (rows.map Job.id).Nodup
  id_le : ∀ row ∈ rows, row.id ≤ lastId

namespace JobTable

def empty : JobTable := ⟨[], 0, List.nodup_nil, by simp⟩

/-- `repo.findById(id)`. -/
def findById (table : JobTable) (id : Int) : Option Job :=
  table.rows.find? fun row => row.id = id

/-- The id the next insertion gets. -/
def nextId (table : JobTable) : Int := table.lastId + 1

/-- `repo.save` of an entity without an id: a new row with a generated id. -/
def insert (table : JobTable) (data : JobData) : JobTable where
  rows := table.rows ++ [{ data with id := table.nextId }]
  lastId := table.nextId
  nodup := by
    rw [List.map_append, List.nodup_append]
    refine ⟨table.nodup, List.nodup_singleton _, ?_⟩
    intro a ha b hb heq
    obtain ⟨row, hrow, rfl⟩ := List.mem_map.mp ha
    have hle := table.id_le row hrow
    simp only [List.map_cons, List.map_nil, List.mem_singleton, nextId] at hb
    omega
  id_le := by
    intro row hrow
    rcases List.mem_append.mp hrow with hold | hnew
    · have hle := table.id_le row hold
      simp only [nextId]
      omega
    · rw [List.mem_singleton.mp hnew]

/-- `repo.save` of an entity with an id writes every column of its row. -/
def save (table : JobTable) (job : Job) : JobTable where
  rows := table.rows.map fun row => if row.id = job.id then job else row
  lastId := table.lastId
  nodup := by
    have hids : (table.rows.map fun row => if row.id = job.id then job else row).map Job.id =
        table.rows.map Job.id := by
      rw [List.map_map]
      apply List.map_congr_left
      intro row _
      by_cases h : row.id = job.id <;> simp [h]
    rw [hids]
    exact table.nodup
  id_le := by
    intro row hrow
    obtain ⟨old, hold, rfl⟩ := List.mem_map.mp hrow
    have hle := table.id_le old hold
    by_cases h : old.id = job.id
    · rw [if_pos h, ← h]
      exact hle
    · rw [if_neg h]
      exact hle

/-- The page a query returns. -/
def select (table : JobTable) (order : RowOrder) (q : JobQuery) : List Job :=
  (q.sort (order.arrange (table.rows.filter q.selects))).take q.pageSize

theorem findById_eq_some_iff (table : JobTable) (id : Int) (job : Job) :
    table.findById id = some job ↔ job ∈ table.rows ∧ job.id = id := by
  constructor
  · intro h
    exact ⟨List.mem_of_find?_eq_some h, by simpa using List.find?_some h⟩
  · rintro ⟨hmem, rfl⟩
    exact find?_id_of_mem table.nodup hmem

theorem id_of_findById {table : JobTable} {id : Int} {job : Job}
    (h : table.findById id = some job) : job.id = id :=
  ((table.findById_eq_some_iff id job).mp h).2

theorem findById_le {table : JobTable} {id : Int} {job : Job}
    (h : table.findById id = some job) : id ≤ table.lastId := by
  obtain ⟨hmem, rfl⟩ := (table.findById_eq_some_iff id job).mp h
  exact table.id_le job hmem

/-- An id that was never handed out has no row. -/
theorem findById_eq_none {table : JobTable} {id : Int} (h : table.lastId < id) :
    table.findById id = none := by
  cases hfind : table.findById id with
  | none => rfl
  | some job =>
      have hle := findById_le hfind
      omega

/-- A save replaces the row with the saved id and no other. -/
theorem findById_save (table : JobTable) (job : Job) (id : Int) :
    (table.save job).findById id =
      if id = job.id then (table.findById id).map fun _ => job
      else table.findById id := by
  simp only [findById, save]
  generalize table.rows = rows
  induction rows with
  | nil => simp
  | cons row rest ih =>
      rw [List.map_cons, List.find?_cons, List.find?_cons, ih]
      -- a row keeps its id, so both searches stop at the same place
      by_cases hrow : row.id = job.id
      · by_cases hid : id = job.id
        · subst hid
          simp [hrow]
        · have hne : job.id ≠ id := Ne.symm hid
          simp [hrow, hid, hne]
      · by_cases hid : id = job.id
        · subst hid
          simp [hrow]
        · simp [hrow, hid]

theorem findById_insert (table : JobTable) (data : JobData) (id : Int) :
    (table.insert data).findById id =
      if id = table.nextId then some { data with id := table.nextId }
      else table.findById id := by
  by_cases h : id = table.nextId
  · rw [if_pos h, findById_eq_some_iff]
    exact ⟨by simp [insert], h.symm⟩
  · rw [if_neg h]
    have hne : table.nextId ≠ id := Ne.symm h
    simp [findById, insert, List.find?_append, hne]

/-! ## Pages -/

/-- A page lists rows of the table that match the query. -/
theorem mem_select {table : JobTable} {order : RowOrder} {q : JobQuery} {row : Job}
    (h : row ∈ table.select order q) :
    table.findById row.id = some row ∧ q.selects row := by
  have hsorted := List.mem_of_mem_take h
  have harranged := (q.sort_perm _).mem_iff.mp hsorted
  obtain ⟨hrow, hsel⟩ := List.mem_filter.mp ((order.perm _).mem_iff.mp harranged)
  exact ⟨(table.findById_eq_some_iff _ _).mpr ⟨hrow, rfl⟩, hsel⟩

/-- A page lists no row twice. -/
theorem nodup_select (table : JobTable) (order : RowOrder) (q : JobQuery) :
    ((table.select order q).map Job.id).Nodup := by
  have hperm : (q.sort (order.arrange (table.rows.filter q.selects))).Perm
      (table.rows.filter q.selects) :=
    (q.sort_perm _).trans (order.perm _)
  have hfilter : ((table.rows.filter q.selects).map Job.id).Nodup :=
    table.nodup.sublist (List.filter_sublist.map _)
  have hsorted := (hperm.map Job.id).nodup_iff.mpr hfilter
  exact hsorted.sublist ((List.take_sublist _ _).map _)

end JobTable

end JobQueue
