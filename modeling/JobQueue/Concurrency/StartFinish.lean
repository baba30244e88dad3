import JobQueue.Lib.Split
import JobQueue.Lifecycle.Unseen

/-!
# Consumers in two steps

An executor may take long, and the other consumers and services go on meanwhile.
Here `consume` is two steps: the start takes a message, passes the guards, saves
the row as PROCESSING and stops where the executor is called; the finish is the
rest, from the call of the executor on.  A consumer that calls no executor is
over with its start.
-/

namespace JobQueue

open Decimal KafkaConsumerService

/-- A call of an executor. -/
def Op.isExecute : Op → Bool
  | .execute _ _ => true
  | _ => false

/-- A consumer between its start and its finish: the executor that runs, the job
it was called for, and the time `now` that the consumer read at its entry. -/
structure Ongoing where
  number : Nat
  executor : Executor
  job : Job
  entry : Int
  deriving DecidableEq

namespace Ongoing

/-- The rest of `consume` from the call of the executor on. -/
def resume (e : Ongoing) : Service Unit := do
  let returned ← (do
      Service.execute e.executor e.job
      Service.save { e.job with status := .completed }
      Service.setFailureCount e.job.type 0
      pure false).tryCatch fun error => do
    catchBlock e.entry e.job error
    pure false
  if returned then pure () else Service.acknowledge

/-- What the finish does when the executor ends with `outcome`. -/
def finishEffect {L : Type} (e : Ongoing) (outcome : Except JavaException Unit) (s : State L) :
    State L :=
  let executed := s.recordExecution e.job.id outcome.isOk
  match outcome with
  | .ok () =>
      (executed.saveJob { e.job with status := .completed }).setFailureCount e.job.type 0
  | .error error => catchEffect e.entry e.job error executed

end Ongoing

/-- The message starts an execution: its job passes the guards, is QUEUED and has
an executor. -/
structure Begins {L : Type} [RateLimiter L] (env : CallEnv) (message : String) (s : State L)
    (job : Job) (executor : Executor) : Prop where
  parse : parseLong message = some job.id
  row : s.jobs.findById job.id = some job
  admitted : verdict env job s = .admitted
  queued : job.status = .queued
  resolve : ExecutorFactory.resolve job.type = some executor

section Split

variable {L : Type} [RateLimiter L] (env : CallEnv)

theorem run_resume (e : Ongoing) (s : State L) (k : Nat) :
    Prog.run env.handle e.resume (s, k) = (.ok (), (e.finishEffect env.outcome s, k)) := by
  let body : Service Bool := do
    Service.execute e.executor e.job
    Service.save { e.job with status := .completed }
    Service.setFailureCount e.job.type 0
    pure false
  show Prog.run env.handle ((body.tryCatch _).bind _) (s, k) = _
  cases houtcome : env.outcome with
  | ok value =>
      have hbody : Prog.run env.handle body (s, k) =
          (.ok false, (e.finishEffect (.ok value) s, k)) := by
        simp [body, CallEnv.reading, houtcome, Ongoing.finishEffect, Except.isOk, Except.toBool]
      rw [Prog.run_bind_ok env.handle (Prog.run_tryCatch_ok env.handle hbody)]
      rfl
  | error error =>
      have hbody : Prog.run env.handle body (s, k) =
          (.error error, (s.recordExecution e.job.id false, k)) := by
        simp [body, CallEnv.reading, houtcome]
      have hcatch := run_catchBlock env e.entry e.job error (s.recordExecution e.job.id false) k
      rw [Prog.run_bind, Prog.run_tryCatch_error env.handle hbody, Prog.bind_eq_bind,
        Prog.run_bind_ok env.handle hcatch]
      rfl

/-- The attempt of a QUEUED job stops at its executor, with the row saved. -/
theorem runTo_attempt {now : Int} {job : Job} {executor : Executor} (hqueued : job.status = .queued)
    (hresolve : ExecutorFactory.resolve job.type = some executor) (number : Nat) (s : State L)
    (k : Nat) :
    Prog.runTo Op.isExecute env.handle (attempt now job) (s, k) =
      (Ongoing.resume ⟨number, executor, { job with status := .processing }, now⟩,
        (s.saveJob { job with status := .processing }, k)) := by
  have htry : tryBlock job = (do
      Service.save { job with status := .processing }
      Service.execute executor { job with status := .processing }
      Service.save { job with status := .completed }
      Service.setFailureCount job.type 0
      pure false) := by
    simp [tryBlock, hqueued, ExecutorFactory.getExecutor, hresolve]
  rw [attempt, htry]
  rfl

/-- No executor is called in the `catch` block. -/
theorem only_catchBlock (now : Int) (job : Job) (e : JavaException) :
    (catchBlock now job e).Only fun op => op.isExecute = false := by
  have hcount : (countFailure now job e).Only fun op => op.isExecute = false := by
    unfold countFailure
    simp only [Prog.bind_eq_bind, Service.incrementFailureCount, Service.setLastFailureTime,
      Prog.perform, Prog.bind_call, Prog.only_call, Prog.only_done_bind]
    refine ⟨rfl, fun failures => ⟨rfl, fun _ => ?_⟩⟩
    split_ifs <;> simp [Op.isExecute]
  unfold catchBlock
  refine hcount.bind fun _ => ?_
  simp only [Prog.bind_eq_bind, Service.save, Prog.perform, Prog.bind_call, Prog.only_call,
    Prog.only_done_bind]
  refine ⟨rfl, fun _ => ?_⟩
  split_ifs <;> simp [Op.isExecute]

/-- The attempt of a job that is not QUEUED, or of an unknown type, calls no
executor. -/
theorem runTo_attempt_over (now : Int) {job : Job}
    (hover : job.status ≠ .queued ∨ ExecutorFactory.resolve job.type = none) (s : State L)
    (k : Nat) :
    ∃ result, Prog.runTo Op.isExecute env.handle (attempt now job) (s, k) =
      (.done result, (attemptEffect now env.outcome job s, k)) := by
  have honly : (attempt now job).Only fun op => op.isExecute = false := by
    have htry : (tryBlock job).Only fun op => op.isExecute = false := by
      unfold tryBlock ExecutorFactory.getExecutor
      rcases hover with hqueued | hresolve
      · simp [hqueued, Op.isExecute]
      · split_ifs <;> simp [hresolve, Op.isExecute]
    unfold attempt
    refine (htry.tryCatch fun e => (only_catchBlock now job e).bind
      fun _ => Prog.only_done _).bind
      fun returned => ?_
    split_ifs <;> simp [Op.isExecute]
  refine ⟨.ok (), ?_⟩
  rw [Prog.runTo_of_only _ _ honly, run_attempt]

/-- The guards call no executor. -/
theorem runTo_consumeJob (job : Job) (s : State L) :
    Prog.runTo Op.isExecute env.handle (consumeJob job) (s, 0) =
      Prog.runTo Op.isExecute env.handle (afterGuards env job (verdict env job s))
        (guardedStore env job s (verdict env job s)) := by
  refine interpret_consumeJob env (Prog.runTo Op.isExecute env.handle) ?_ job s
  intro op next store hguard
  refine Prog.runTo_call _ _ ?_ next store
  cases op <;> first | rfl | cases hguard

/-- Past the guards, an admitted job is attempted. -/
theorem runTo_consume_admitted {message : String} {job : Job} {s : State L}
    (hparse : parseLong message = some job.id) (hrow : s.jobs.findById job.id = some job)
    (hverdict : verdict env job s = .admitted) :
    Prog.runTo Op.isExecute env.handle (consume message) (s, 0) =
      Prog.runTo Op.isExecute env.handle (attempt (env.millis 1) job)
        (halfOpenEffect job (askLimiter env job s), 3) := by
  have hconsume : Prog.runTo Op.isExecute env.handle (consume message) (s, 0) =
      Prog.runTo Op.isExecute env.handle (consumeJob job) (s, 0) := by
    simp [consume, hparse, hrow, Prog.runTo, Op.isExecute]
  rw [hconsume, runTo_consumeJob, hverdict]
  rfl

/-- A message that a guard stops calls no executor. -/
theorem runTo_consumeJob_refused {job : Job} {s : State L}
    (hverdict : verdict env job s ≠ .admitted) :
    ∃ t, Prog.runTo Op.isExecute env.handle (consumeJob job) (s, 0) = (.done (.ok ()), t) := by
  rw [runTo_consumeJob]
  cases hguards : verdict env job s with
  | cancelled => exact ⟨_, rfl⟩
  | rateLimited => exact ⟨_, rfl⟩
  | circuitOpen => exact ⟨_, rfl⟩
  | admitted => exact absurd hguards hverdict

/-- A consumer that begins no execution is over. -/
theorem runTo_consume_over {message : String} {s : State L}
    (hover : ∀ job executor, ¬ Begins env message s job executor) :
    ∃ result t, Prog.runTo Op.isExecute env.handle (consume message) (s, 0) = (.done result, t) ∧
      t.1 = consumeEffect env message s := by
  have hdone : ∃ result t, Prog.runTo Op.isExecute env.handle (consume message) (s, 0) =
      (.done result, t) := by
    cases hparse : parseLong message with
    | none => exact ⟨.ok (), (s, 0), by simp [consume, hparse, Prog.runTo, Op.isExecute]⟩
    | some jobId =>
        cases hrow : s.jobs.findById jobId with
        | none =>
            exact ⟨.ok (), (s, 0), by simp [consume, hparse, hrow, Prog.runTo, Op.isExecute]⟩
        | some job =>
            obtain rfl := JobTable.id_of_findById hrow
            by_cases hadmitted : verdict env job s = .admitted
            · -- admitted and yet no executor called: the job is not QUEUED, or its type has none
              have hattempt : job.status ≠ .queued ∨
                  ExecutorFactory.resolve job.type = none := by
                by_contra h
                rw [not_or, not_not] at h
                obtain ⟨executor, hresolve⟩ := Option.ne_none_iff_exists'.mp h.2
                exact hover job executor ⟨hparse, hrow, hadmitted, h.1, hresolve⟩
              obtain ⟨result, hresult⟩ := runTo_attempt_over env (env.millis 1) hattempt
                (halfOpenEffect job (askLimiter env job s)) 3
              exact ⟨result, _, (runTo_consume_admitted env hparse hrow hadmitted).trans hresult⟩
            · obtain ⟨t, ht⟩ := runTo_consumeJob_refused env hadmitted
              refine ⟨.ok (), t, ?_⟩
              rw [← ht]
              simp [consume, hparse, hrow, Prog.runTo, Op.isExecute]
  obtain ⟨result, t, ht⟩ := hdone
  refine ⟨result, t, ht, ?_⟩
  have hrun := Prog.run_runTo Op.isExecute env.handle (consume message) (s, 0)
  have hcall := congrArg Prod.snd (call_consume env message s)
  rw [ht] at hrun
  rw [Service.call, ← hrun] at hcall
  exact hcall

end Split

/-! ## The system -/

/-- The stores, and the consumers between their start and their finish. -/
structure Consumers (L : Type) where
  store : State L
  ongoing : List Ongoing
  /-- The number of executions begun so far. -/
  begun : Nat

namespace Consumers

inductive Label where
  /-- A whole call of another service. -/
  | call (c : Call) (env : CallEnv)
  | start (message : String) (env : CallEnv)
  | finish (e : Ongoing) (env : CallEnv)

/-- The call does not deliver a message. -/
def Whole : Call → Prop
  | .consume _ | .redeliver _ => False
  | _ => True

instance : DecidablePred Whole := fun c =>
  match c with
  | .consume _ | .redeliver _ => isFalse id
  | .createJob _ | .cancelJob _ | .watch | .triggerRecovery | .reconcileRedis | .dispatch
  | .resetCircuit _ | .requeueJob _ => isTrue trivial

variable {L : Type}

/-- The state without an undelivered message. -/
def taken (message : String) (s : State L) : State L :=
  { s with topic := s.topic.erase message }

/-- A message is delivered once, and a consumer finishes once. -/
def Enabled : Label → Consumers L → Prop
  | .call c _, _ => Whole c
  | .start message _, s => message ∈ s.store.topic
  | .finish e _, s => e ∈ s.ongoing

instance (label : Label) (s : Consumers L) : Decidable (Enabled label s) :=
  match label with
  | .call c _ => inferInstanceAs (Decidable (Whole c))
  | .start message _ => inferInstanceAs (Decidable (message ∈ s.store.topic))
  | .finish e _ => inferInstanceAs (Decidable (e ∈ s.ongoing))

variable [RateLimiter L]

/-- `consume` up to the call of the executor. -/
def start (message : String) (env : CallEnv) (s : Consumers L) : Consumers L :=
  match Prog.runTo Op.isExecute env.handle (consume message) (taken message s.store, 0) with
  | (.call (.execute executor job) _, t) =>
      -- the first clock reading is that of the cancellation flag, the second one is `now`
      ⟨t.1, s.ongoing ++ [⟨s.begun, executor, job, env.millis 1⟩], s.begun + 1⟩
  | (_, t) => ⟨t.1, s.ongoing, s.begun⟩

/-- The rest of `consume`. -/
def finish (e : Ongoing) (env : CallEnv) (s : Consumers L) : Consumers L :=
  ⟨(e.resume.call env s.store).2, s.ongoing.erase e, s.begun⟩

def next : Label → Consumers L → Consumers L
  | .call c env, s => { s with store := c.exec env s.store }
  | .start message env, s => s.start message env
  | .finish e env, s => s.finish e env

def Step (s : Consumers L) (label : Label) (t : Consumers L) : Prop :=
  Enabled label s ∧ t = next label s

/-- Execute one step after the other. -/
def execAll : List Label → Consumers L → Consumers L
  | [], s => s
  | label :: rest, s => execAll rest (next label s)

/-- Every step of the sequence is enabled when its turn comes. -/
def Executable : List Label → Consumers L → Prop
  | [], _ => True
  | label :: rest, s => Enabled label s ∧ Executable rest (next label s)

def decideExecutable :
    (labels : List Label) → (s : Consumers L) → Decidable (Executable labels s)
  | [], _ => isTrue trivial
  | label :: rest, s => @instDecidableAnd _ _ inferInstance (decideExecutable rest (next label s))

instance (labels : List Label) (s : Consumers L) : Decidable (Executable labels s) :=
  decideExecutable labels s

/-- A start that begins an execution stops where this calls its executor. -/
theorem start_of_begins {message : String} {env : CallEnv} {s : Consumers L} {job : Job}
    {executor : Executor} (h : Begins env message (taken message s.store) job executor) :
    s.start message env =
      ⟨(halfOpenEffect job (askLimiter env job (taken message s.store))).saveJob
          { job with status := .processing },
        s.ongoing ++ [⟨s.begun, executor, { job with status := .processing }, env.millis 1⟩],
        s.begun + 1⟩ := by
  have hstop := (runTo_consume_admitted env h.parse h.row h.admitted).trans
    (runTo_attempt env h.queued h.resolve s.begun _ 3)
  rw [start, hstop]
  rfl

/-- Any other start is a whole `consume`. -/
theorem start_of_over {message : String} {env : CallEnv} {s : Consumers L}
    (h : ∀ job executor, ¬ Begins env message (taken message s.store) job executor) :
    s.start message env =
      ⟨consumeEffect env message (taken message s.store), s.ongoing, s.begun⟩ := by
  obtain ⟨result, t, hstop, ht⟩ := runTo_consume_over env h
  rw [start, hstop, ← ht]

/-- A start begins one execution or is a whole `consume`. -/
theorem start_cases (message : String) (env : CallEnv) (s : Consumers L) :
    (∃ job executor, Begins env message (taken message s.store) job executor) ∨
      (∀ job executor, ¬ Begins env message (taken message s.store) job executor) ∧
        s.start message env =
          ⟨consumeEffect env message (taken message s.store), s.ongoing, s.begun⟩ := by
  by_cases hbegins : ∃ job executor, Begins env message (taken message s.store) job executor
  · exact .inl hbegins
  · push Not at hbegins
    exact .inr ⟨hbegins, start_of_over hbegins⟩

/-- The rest that a start leaves is the one that the finish executes. -/
theorem finish_eq (e : Ongoing) (env : CallEnv) (s : Consumers L) :
    s.finish e env = ⟨e.finishEffect env.outcome s.store, s.ongoing.erase e, s.begun⟩ := by
  rw [finish, Service.call, run_resume]

end Consumers

/-- The step from `s` to `t` began an execution of the type. -/
def BeginsType {L : Type} (s t : Consumers L) (type : String) : Prop :=
  ∃ e ∈ t.ongoing.drop s.ongoing.length, e.job.type = type

instance {L : Type} (s t : Consumers L) (type : String) : Decidable (BeginsType s t type) :=
  inferInstanceAs (Decidable (∃ e ∈ _, _))

/-- A start that begins an execution of a type has admitted a job of this type. -/
theorem exists_of_beginsType {L : Type} [RateLimiter L] {s : Consumers L} {message type : String}
    {env : CallEnv} (h : BeginsType s (s.start message env) type) :
    ∃ job, job.type = type ∧ verdict env job (Consumers.taken message s.store) = .admitted := by
  obtain ⟨e, hmem, htype⟩ := h
  rcases Consumers.start_cases message env s with ⟨job, executor, hbegins⟩ | ⟨-, hstart⟩
  · rw [Consumers.start_of_begins hbegins, List.drop_left] at hmem
    rw [List.mem_singleton.mp hmem] at htype
    exact ⟨job, htype, hbegins.admitted⟩
  · rw [hstart, List.drop_length] at hmem
    cases hmem

/-! ## The circuits -/

section Circuits

variable {L : Type}

/-- The three circuit maps. -/
def State.circuits (s : State L) : (String → Bool) × (String → Nat) × (String → Int) :=
  (s.circuitOpen, s.failureCount, s.lastFailureTime)

theorem unseen_circuits : Unseen (State.circuits (L := L)) := by
  refine ⟨⟨?_, ?_⟩, ?_, ?_, ?_, ?_, ?_, ?_⟩ <;> intros <;> rfl

/-- Only the consumer and a reset touch the circuits. -/
theorem circuits_exec [RateLimiter L] {c : Call} (hwhole : Consumers.Whole c)
    (hreset : ∀ type, c ≠ .resetCircuit type) (env : CallEnv) (s : State L) :
    (c.exec env s).circuits = s.circuits := by
  refine unseen_circuits.exec ?_ env s
  cases c with
  | resetCircuit type => exact absurd rfl (hreset type)
  | consume | redeliver => exact hwhole.elim
  | createJob | cancelJob | watch | triggerRecovery | reconcileRedis | dispatch | requeueJob =>
      trivial

end Circuits

end JobQueue
