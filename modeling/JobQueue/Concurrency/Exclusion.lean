import JobQueue.Concurrency.StartFinish
import JobQueue.Lifecycle.Refinement

/-!
# One execution of a job at a time

While an executor runs, the row of its job is PROCESSING, and a message of a job
that is not QUEUED is dropped.  So a second execution needs the row to become
QUEUED meanwhile, and there are two ways: an administrator requeues the job, or a
further message of it is put off by the rate limiter or an open circuit, which
do not look at the status, and the job comes back as a retry.
-/

namespace JobQueue

open Decimal KafkaConsumerService

variable {L : Type}

/-- The status of a job while it is executed. -/
def Held (v : JobView) : Prop :=
  v.status? = some .processing ∨ v.status? = some .cancelled

/-- No second execution can begin: those that run are for different jobs, and none
of these jobs is QUEUED or on the way there. -/
structure Exclusive (s : Consumers L) : Prop where
  nodup : (s.ongoing.map fun e => e.job.id).Nodup
  held : ∀ e ∈ s.ongoing, Held (s.store.view e.job.id)

section Steps

variable [RateLimiter L]

/-- An executed job is neither requeued while it is PROCESSING nor put off. -/
def LeavesExecuted (s : Consumers L) : Consumers.Label → Prop
  | .call c _ => ∀ e ∈ s.ongoing, c = .requeueJob e.job.id →
      (s.store.view e.job.id).status? ≠ some .processing
  | .start message env => ∀ e ∈ s.ongoing, ∀ job, parseLong message = some e.job.id →
      s.store.jobs.findById e.job.id = some job →
      verdict env job (Consumers.taken message s.store) ≠ .rateLimited ∧
        verdict env job (Consumers.taken message s.store) ≠ .circuitOpen
  | .finish _ _ => True

/-- A step that leaves the executed jobs alone. -/
def ExclusiveStep (s : Consumers L) (label : Consumers.Label) (t : Consumers L) : Prop :=
  Consumers.Step s label t ∧ LeavesExecuted s label

/-! ## Other calls -/

/-- No other service moves a job that is executed. -/
theorem status?_exec_held {c : Call} (hwhole : Consumers.Whole c) (env : CallEnv) {s : State L}
    {id : Int} (hheld : Held (s.view id))
    (hrequeue : c = .requeueJob id → (s.view id).status? ≠ some .processing) :
    ((c.exec env s).view id).status? = (s.view id).status? := by
  have henabled : c.Enabled s := by
    cases c <;> trivial
  refine (Call.life_exec env s id c henabled).invariant
    (fun v => v.status? = (s.view id).status?) ?_ rfl
  intro m v hallowed hm hstatus
  -- the moves that change a status are for other statuses
  have hother : ∀ status, v.status? = some status → status = .processing ∨ status = .cancelled := by
    intro status h
    rw [hstatus] at h
    rcases hheld with hheld | hheld <;> rw [hheld] at h
    · exact .inl (Option.some.inj h).symm
    · exact .inr (Option.some.inj h).symm
  cases m with
  | create data =>
      have hnone : v.status? = none := by rw [JobView.status?, hm.1, Option.map_none]
      rw [hnone] at hstatus
      rcases hheld with hheld | hheld <;> rw [hheld] at hstatus <;> cases hstatus
  | sendNow | schedule => rcases hother _ hm with h | h <;> cases h
  | scheduleRetry | reinsert | dispatch => rcases hother _ hm.1 with h | h <;> cases h
  | drop | requestCancel => exact hstatus
  | requeue =>
      obtain ⟨status, hv, -, hcancelled⟩ := hm
      rcases hother status hv with rfl | rfl
      · exact absurd (hstatus.symm.trans hv) (hrequeue hallowed)
      · exact absurd rfl hcancelled
  | consume delivery outcome =>
      obtain ⟨hdelivers, -⟩ := hallowed
      cases delivery <;> obtain ⟨message, rfl, -⟩ := hdelivers <;> exact hwhole.elim

/-! ## Starts and finishes -/

/-- A whole `consume` holds an executed job, unless it puts it off. -/
theorem held_consumeEffect {env : CallEnv} {message : String} {s : State L} {id : Int}
    (hheld : Held (s.view id))
    (hputOff : ∀ job, parseLong message = some id → s.jobs.findById id = some job →
      verdict env job s ≠ .rateLimited ∧ verdict env job s ≠ .circuitOpen) :
    Held ((consumeEffect env message s).view id) := by
  by_cases hcarries : carries id message = true
  · have hparse : parseLong message = some id := by simpa [carries] using hcarries
    rw [view_consumeEffect_of_carries s id env hcarries]
    cases hrow : s.jobs.findById id with
    | none =>
        rw [deliveryOutcome, hrow]
        exact hheld
    | some job =>
        obtain ⟨hlimited, hblocked⟩ := hputOff job hparse hrow
        have hview : (s.view id).row = some job := hrow
        rw [deliveryOutcome, hrow]
        dsimp only [consumeOutcome]
        cases hverdict : verdict env job s with
        | cancelled =>
            exact .inr (by simp [Outcome.apply, JobView.withStatus, JobView.status?, hview])
        | rateLimited => exact absurd hverdict hlimited
        | circuitOpen => exact absurd hverdict hblocked
        | admitted =>
            have hqueued : job.status ≠ .queued := by
              intro hqueued
              rw [Held, JobView.status?_of_row hview, hqueued] at hheld
              rcases hheld with h | h <;> cases h
            dsimp only
            rw [if_neg hqueued]
            exact hheld
  · have hother : carries id message = false := by simpa using hcarries
    rw [view_consumeEffect_of_not_carries s id env hother]
    exact hheld

omit [RateLimiter L] in
theorem view_finishEffect_of_ne {id : Int} {e : Ongoing} (h : id ≠ e.job.id)
    (outcome : Except JavaException Unit) (s : State L) :
    (e.finishEffect outcome s).view id = s.view id := by
  unfold Ongoing.finishEffect
  cases outcome with
  | ok value => simp [State.view_saveJob, State.view_recordExecution, h]
  | error error =>
      dsimp only
      rw [view_catchEffect, if_neg h, State.view_recordExecution, if_neg h]

/-- The start of an execution leaves other jobs alone and makes its own job
PROCESSING. -/
theorem held_begin {env : CallEnv} {message : String} {s : State L} {job : Job}
    {executor : Executor} (hbegins : Begins env message (Consumers.taken message s) job executor)
    (id : Int) :
    let t := (halfOpenEffect job (askLimiter env job (Consumers.taken message s))).saveJob
      { job with status := .processing }
    (t.view job.id).status? = some .processing ∧
      (id ≠ job.id → (t.view id).status? = (s.view id).status?) := by
  intro t
  have hrow : ((halfOpenEffect job (askLimiter env job (Consumers.taken message s))).view
      job.id).row = some job := by
    rw [view_halfOpenEffect]
    exact hbegins.row
  constructor
  · rw [State.status?_saveJob, JobView.status?_of_row hrow]
    rfl
  · intro hne
    rw [State.view_saveJob, if_neg (by exact hne), view_halfOpenEffect]
    rfl

theorem Held.congr {v w : JobView} (hsame : w.status? = v.status?) (h : Held v) : Held w := by
  rw [Held, hsame]
  exact h

/-- No execution of a QUEUED job is ongoing, so one can begin. -/
theorem Exclusive.begin {s : Consumers L} (h : Exclusive s) {env : CallEnv} {message : String}
    {job : Job} {executor : Executor}
    (hbegins : Begins env message (Consumers.taken message s.store) job executor) :
    Exclusive (s.start message env) := by
  have hview : (s.store.view job.id).row = some job := hbegins.row
  have hqueued : (s.store.view job.id).status? = some .queued := by
    rw [JobView.status?_of_row hview, hbegins.queued]
  have hnew : ∀ e ∈ s.ongoing, e.job.id ≠ job.id := by
    intro e he hid
    have hheld := h.held e he
    rw [Held, hid, hqueued] at hheld
    rcases hheld with hheld | hheld <;> cases hheld
  rw [Consumers.start_of_begins hbegins]
  refine ⟨?_, fun e he => ?_⟩
  · rw [List.map_append, List.nodup_append]
    refine ⟨h.nodup, by simp, fun id hid other hother => ?_⟩
    obtain ⟨e, he, rfl⟩ := List.mem_map.mp hid
    rw [List.map_singleton, List.mem_singleton] at hother
    rw [hother]
    exact hnew e he
  · rcases List.mem_append.mp he with hold | hbegun
    · exact (h.held e hold).congr ((held_begin hbegins e.job.id).2 (hnew e hold))
    · rw [List.mem_singleton.mp hbegun]
      exact .inl (held_begin hbegins job.id).1

/-- A finish writes the row of its own job only, which no other execution is for. -/
theorem Exclusive.finish {s : Consumers L} (h : Exclusive s) {e : Ongoing} (he : e ∈ s.ongoing)
    (env : CallEnv) : Exclusive (Consumers.next (.finish e env) s) := by
  rw [Consumers.next, Consumers.finish_eq]
  have hsublist := List.erase_sublist (a := e) (l := s.ongoing)
  refine ⟨h.nodup.sublist (hsublist.map _), fun other hother => ?_⟩
  have hmem : other ∈ s.ongoing := hsublist.subset hother
  have hne : other.job.id ≠ e.job.id := by
    intro hid
    have heq : other = e := List.inj_on_of_nodup_map h.nodup hmem he hid
    rw [heq] at hother
    exact h.nodup.of_map.not_mem_erase hother
  rw [view_finishEffect_of_ne hne]
  exact h.held other hmem

theorem Exclusive.step {s t : Consumers L} {label : Consumers.Label} (h : Exclusive s)
    (hstep : ExclusiveStep s label t) : Exclusive t := by
  obtain ⟨⟨henabled, rfl⟩, hleaves⟩ := hstep
  cases label with
  | call c env =>
      refine ⟨h.nodup, fun e he => ?_⟩
      exact (h.held e he).congr (status?_exec_held henabled env (h.held e he) (hleaves e he))
  | start message env =>
      rcases Consumers.start_cases message env s with ⟨job, executor, hbegins⟩ | ⟨-, hstart⟩
      · exact h.begin hbegins
      · rw [Consumers.next, hstart]
        refine ⟨h.nodup, fun e he => ?_⟩
        have hheld : Held ((Consumers.taken message s.store).view e.job.id) := h.held e he
        exact held_consumeEffect hheld (hleaves e he)
  | finish e env => exact h.finish henabled env

/-- Executions of one job exclude each other, along every run of consumers and
other calls in which no executed job is requeued while it is PROCESSING and no
message of an executed job is put off. -/
theorem execution_exclusive {s t : Consumers L} {labels : List Consumers.Label}
    (hrun : Run ExclusiveStep s labels t) (hstart : s.ongoing = []) (id : Int) :
    t.ongoing.countP (fun e => e.job.id = id) ≤ 1 := by
  have hexclusive : Exclusive t := by
    refine hrun.invariant Exclusive (fun _ _ _ _ h hstep => h.step hstep) ⟨?_, ?_⟩
    · rw [hstart]
      exact List.nodup_nil
    · rw [hstart]
      exact fun e he => (List.not_mem_nil he).elim
  have hcount := List.nodup_iff_count_le_one.mp hexclusive.nodup id
  rw [List.count, List.countP_map] at hcount
  refine le_trans (le_of_eq (List.countP_congr fun e _ => ?_)) hcount
  simp

end Steps

/-- One job was sent. -/
def oneSent : Consumers LuaLimiter :=
  ⟨Call.execAll [(.createJob (.immediate "API"), .within 1000 (.ok ()))]
    (State.empty LuaLimiter.empty), [], 0⟩

/-- The job is executed. -/
theorem execution_exclusive_oneSent :
    let env := CallEnv.within 2000 (.ok ())
    (oneSent.start "1" env).ongoing.countP (fun e => e.job.id = 1) = 1 := by
  intro env
  have hstep : ExclusiveStep oneSent (.start "1" env) (oneSent.start "1" env) :=
    ⟨⟨by decide, rfl⟩, fun e he => by cases he⟩
  have hle := execution_exclusive (.single hstep) rfl 1
  exact le_antisymm hle (by decide)

/-- An administrator requeues the job while its executor runs, and a second
consumer begins to execute it. -/
theorem execution_doubled :
    let steps : List Consumers.Label :=
      [.start "1" (.within 2000 (.ok ())), .call (.requeueJob 1) (.within 3000 (.ok ())),
        .start "1" (.within 4000 (.ok ()))]
    Consumers.Executable steps oneSent ∧
      (Consumers.execAll steps oneSent).ongoing.countP (fun e => e.job.id = 1) = 2 := by
  decide

end JobQueue
