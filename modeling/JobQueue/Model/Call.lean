import JobQueue.Lib.Transition
import JobQueue.Model.JobService
import JobQueue.Model.RedisDispatcherService
import JobQueue.Model.AdminService

/-!
# The system as a step relation over whole calls

A step is one whole call of a service method.  `consume` takes a message that
was not delivered yet, `redeliver` one that Kafka delivers once more.
-/

namespace JobQueue

inductive Call where
  | createJob (request : JobRequest)
  | cancelJob (id : Int)
  | watch
  | triggerRecovery
  | reconcileRedis
  | dispatch
  | resetCircuit (type : String)
  | requeueJob (id : Int)
  | consume (message : String)
  | redeliver (message : String)
  deriving DecidableEq, Repr

namespace Call

/-- The method a call executes; its result goes back to the caller. -/
def program : Call → Service Unit
  | createJob request => do let _ ← JobService.createJob request
  | cancelJob id => Service.cancelJob id
  | watch => WatcherService.watch
  | triggerRecovery => do let _ ← AdminService.recoverWatcher
  | reconcileRedis => do let _ ← AdminService.reconcileRedis
  | dispatch => RedisDispatcherService.dispatch
  | resetCircuit type => do let _ ← AdminService.resetCircuit type
  | requeueJob id => do let _ ← AdminService.requeueJob id
  | consume message => KafkaConsumerService.consume message
  | redeliver message => KafkaConsumerService.consume message

variable {L : Type}

/-- Kafka delivers what was sent: a message for the first time, or again. -/
def Enabled : Call → State L → Prop
  | consume message, s => message ∈ s.topic
  | redeliver message, s => message ∈ s.sent
  | _, _ => True

instance (c : Call) (s : State L) : Decidable (c.Enabled s) :=
  match c with
  | consume message => inferInstanceAs (Decidable (message ∈ s.topic))
  | redeliver message => inferInstanceAs (Decidable (message ∈ s.sent))
  | createJob _ | cancelJob _ | watch | triggerRecovery | reconcileRedis | dispatch
  | resetCircuit _ | requeueJob _ => isTrue trivial

/-- A first delivery takes the message off the undelivered ones. -/
def deliver : Call → State L → State L
  | consume message, s => { s with topic := s.topic.erase message }
  | _, s => s

@[simp] theorem jobs_deliver (c : Call) (s : State L) : (c.deliver s).jobs = s.jobs := by
  cases c <;> rfl

@[simp] theorem sent_deliver (c : Call) (s : State L) : (c.deliver s).sent = s.sent := by
  cases c <;> rfl

@[simp] theorem executions_deliver (c : Call) (s : State L) :
    (c.deliver s).executions = s.executions := by
  cases c <;> rfl

/-- The state after the call. -/
def exec [RateLimiter L] (c : Call) (env : CallEnv) (s : State L) : State L :=
  (c.program.call env (c.deliver s)).2

variable [RateLimiter L]

/-- The result of a method does not matter for the state after it. -/
theorem call_discard {α : Type} (service : Service α) (env : CallEnv) (s : State L) :
    (Service.call (do let _ ← service) env s).2 = (service.call env s).2 :=
  congrArg Prod.fst (Prog.run_discard env.handle service (s, 0))

section Effects

variable (env : CallEnv) (s : State L)

theorem exec_createJob (request : JobRequest) :
    (createJob request).exec env s = s ∨
      ∃ time k, (createJob request).exec env s =
        JobService.createEffect request time (env.millis k) s := by
  rw [exec, program, call_discard]
  exact JobService.call_createJob env request s

theorem exec_cancelJob (id : Int) :
    (cancelJob id).exec env s = s.setCancelled id (some (env.millis 0 + CANCEL_TTL)) := rfl

theorem exec_watch :
    watch.exec env s = WatcherService.watchEffect env (env.millis 0) s := by
  rw [exec, program, WatcherService.call_watch]
  rfl

theorem exec_triggerRecovery :
    triggerRecovery.exec env s = WatcherService.recoverEffect env (env.millis 0) s := by
  rw [exec, program, call_discard, AdminService.call_recoverWatcher]
  rfl

theorem exec_reconcileRedis :
    reconcileRedis.exec env s = AdminService.reconcileEffect env (env.millis 0) s := by
  rw [exec, program, call_discard, AdminService.call_reconcileRedis]
  rfl

theorem exec_dispatch :
    dispatch.exec env s = RedisDispatcherService.dispatchEffect (env.millis 0) s := by
  rw [exec, program, RedisDispatcherService.call_dispatch]
  rfl

theorem exec_resetCircuit (type : String) :
    (resetCircuit type).exec env s =
      ((s.setFailureCount type 0).setCircuitOpen type false).setLastFailureTime type 0 := by
  rw [exec, program, call_discard, AdminService.call_resetCircuit]
  rfl

theorem exec_requeueJob (id : Int) :
    (requeueJob id).exec env s = AdminService.requeueEffect id s := by
  rw [exec, program, call_discard, AdminService.call_requeueJob]
  rfl

theorem exec_consume (message : String) :
    (consume message).exec env s = KafkaConsumerService.consumeEffect env message
      { s with topic := s.topic.erase message } := by
  rw [exec, program, KafkaConsumerService.call_consume]
  rfl

theorem exec_redeliver (message : String) :
    (redeliver message).exec env s = KafkaConsumerService.consumeEffect env message s := by
  rw [exec, program, KafkaConsumerService.call_consume]
  rfl

end Effects

/-! ## Steps and runs -/

/-- One step of the system: an enabled call with what the environment decides
during it. -/
def Step (s : State L) (label : Call × CallEnv) (t : State L) : Prop :=
  label.1.Enabled s ∧ t = label.1.exec label.2 s

/-- Execute one call after the other. -/
def execAll : List (Call × CallEnv) → State L → State L
  | [], s => s
  | (c, env) :: rest, s => execAll rest (c.exec env s)

/-- Every call of the sequence is enabled when its turn comes. -/
def Executable : List (Call × CallEnv) → State L → Prop
  | [], _ => True
  | (c, env) :: rest, s => c.Enabled s ∧ Executable rest (c.exec env s)

def decideExecutable :
    (labels : List (Call × CallEnv)) → (s : State L) → Decidable (Executable labels s)
  | [], _ => isTrue trivial
  | (c, env) :: rest, s =>
      @instDecidableAnd _ _ inferInstance (decideExecutable rest (c.exec env s))

instance (labels : List (Call × CallEnv)) (s : State L) : Decidable (Executable labels s) :=
  decideExecutable labels s

/-- An executable sequence of calls that all satisfy `P` is a run. -/
theorem run_execAll {P : Call → Prop} {labels : List (Call × CallEnv)} {s : State L}
    (hcalls : ∀ label ∈ labels, P label.1) (h : Executable labels s) :
    Run (fun s label t => P label.1 ∧ Step s label t) s labels (execAll labels s) := by
  induction labels generalizing s with
  | nil => exact .nil s
  | cons label rest ih =>
      have hrest : ∀ other ∈ rest, P other.1 :=
        fun other hother => hcalls other (List.mem_cons_of_mem label hother)
      exact .cons ⟨hcalls label List.mem_cons_self, h.1, rfl⟩ (ih hrest h.2)

/-- The calls of a system without duplicates: no manual requeue, and every
message is delivered once. -/
def Regular : Call → Prop
  | requeueJob _ => False
  | redeliver _ => False
  | _ => True

instance : DecidablePred Regular := fun c =>
  match c with
  | requeueJob _ | redeliver _ => isFalse id
  | createJob _ | cancelJob _ | watch | triggerRecovery | reconcileRedis | dispatch
  | resetCircuit _ | consume _ => isTrue trivial

/-- The calls of a system without manual requeue; messages may be delivered again. -/
def NoRequeue : Call → Prop
  | requeueJob _ => False
  | _ => True

/-- A step of a system without duplicates. -/
def RegularStep (s : State L) (label : Call × CallEnv) (t : State L) : Prop :=
  label.1.Regular ∧ Step s label t

/-- The call consumes a message of the job. -/
def Consumes (id : Int) : Call → Prop
  | consume message => Decimal.parseLong message = some id
  | redeliver message => Decimal.parseLong message = some id
  | _ => False

instance (id : Int) : DecidablePred (Consumes id) := fun c =>
  match c with
  | consume message | redeliver message =>
      inferInstanceAs (Decidable (Decimal.parseLong message = some id))
  | createJob _ | cancelJob _ | watch | triggerRecovery | reconcileRedis | dispatch
  | resetCircuit _ | requeueJob _ => isFalse fun h => h

/-! ## The clock -/

/-- A state and the latest millisecond its clock has shown. -/
structure Timed (L : Type) where
  state : State L
  now : Int

/-- A step of a system without duplicates whose clock does not go back. -/
structure TimedStep (s : Timed L) (label : Call × CallEnv) (t : Timed L) : Prop where
  regular : RegularStep s.state label t.state
  clock : Monotone label.2.clock
  after : ∀ k, s.now ≤ label.2.millis k
  before : ∀ k, label.2.millis k ≤ t.now

theorem TimedStep.now_le {s t : Timed L} {label : Call × CallEnv} (h : TimedStep s label t) :
    s.now ≤ t.now :=
  (h.after 0).trans (h.before 0)

/-- A step of the system, of any call, whose clock does not go back. -/
structure TimedCallStep (s : Timed L) (label : Call × CallEnv) (t : Timed L) : Prop where
  step : Step s.state label t.state
  clock : Monotone label.2.clock
  after : ∀ k, s.now ≤ label.2.millis k
  before : ∀ k, label.2.millis k ≤ t.now

theorem TimedCallStep.now_le {s t : Timed L} {label : Call × CallEnv}
    (h : TimedCallStep s label t) : s.now ≤ t.now :=
  (h.after 0).trans (h.before 0)

theorem state_of_timedCallRun {s t : Timed L} {labels : List (Call × CallEnv)}
    (hrun : Run TimedCallStep s labels t) : t.state = execAll labels s.state := by
  induction hrun with
  | nil s => rfl
  | cons hfirst _ ih => rw [ih, execAll, hfirst.step.2]

/-- A step of a system without duplicates is one of the system. -/
theorem timedCall_of_timed (s : Timed L) (label : Call × CallEnv) (t : Timed L)
    (h : TimedStep s label t) : TimedCallStep s label t :=
  ⟨h.regular.2, h.clock, h.after, h.before⟩

/-- A step of a system without manual requeue whose clock does not go back. -/
def NoRequeueStep (s : Timed L) (label : Call × CallEnv) (t : Timed L) : Prop :=
  label.1.NoRequeue ∧ TimedCallStep s label t

theorem Regular.noRequeue {c : Call} (h : c.Regular) : c.NoRequeue := by
  cases c with
  | requeueJob id => exact h
  | createJob | cancelJob | watch | triggerRecovery | reconcileRedis | dispatch | resetCircuit
  | consume | redeliver => trivial

theorem noRequeue_of_timed (s : Timed L) (label : Call × CallEnv) (t : Timed L)
    (h : TimedStep s label t) : NoRequeueStep s label t :=
  ⟨h.regular.1.noRequeue, timedCall_of_timed s label t h⟩

/-- A run with a clock is a run. -/
theorem run_of_timed {s t : Timed L} {labels : List (Call × CallEnv)}
    (hrun : Run TimedStep s labels t) : Run RegularStep s.state labels t.state := by
  induction hrun with
  | nil s => exact .nil s.state
  | cons hstep _ ih => exact .cons hstep.regular ih

/-- Each call happens within one millisecond, and these follow each other. -/
def Chronological : Int → List (Call × CallEnv) → Prop
  | _, [] => True
  | now, (_, env) :: rest =>
      ∃ time outcome, env = .within time outcome ∧ now ≤ time ∧ Chronological time rest

/-- The time of the last call, or `now` if there is none. -/
def latest : Int → List (Call × CallEnv) → Int
  | now, [] => now
  | _, (_, env) :: rest => latest (env.millis 0) rest

theorem millis_within (time : Int) (outcome : Except JavaException Unit) (k : Nat) :
    (CallEnv.within time outcome).millis k = time :=
  Int.mul_ediv_cancel time (by decide)

/-- A regular call within a millisecond that is not over is a step. -/
theorem timedStep_within {c : Call} {s : State L} {now time : Int}
    {outcome : Except JavaException Unit} (hregular : c.Regular) (henabled : c.Enabled s)
    (hle : now ≤ time) :
    TimedStep ⟨s, now⟩ (c, .within time outcome) ⟨c.exec (.within time outcome) s, time⟩ :=
  ⟨⟨hregular, henabled, rfl⟩, fun _ _ _ => le_rfl, fun k => by rw [millis_within]; exact hle,
    fun k => by rw [millis_within]⟩

/-- An executable sequence of regular calls at successive times is a run. -/
theorem timedRun_execAll {labels : List (Call × CallEnv)} {s : State L} {now : Int}
    (hregular : ∀ label ∈ labels, label.1.Regular) (henabled : Executable labels s)
    (htimes : Chronological now labels) :
    Run TimedStep ⟨s, now⟩ labels ⟨execAll labels s, latest now labels⟩ := by
  induction labels generalizing s now with
  | nil => exact .nil _
  | cons label rest ih =>
      obtain ⟨c, env⟩ := label
      obtain ⟨time, outcome, rfl, hle, hrest⟩ := htimes
      have hlast : latest now ((c, .within time outcome) :: rest) = latest time rest := by
        rw [latest, millis_within]
      rw [hlast]
      exact .cons (timedStep_within (hregular _ List.mem_cons_self) henabled.1 hle)
        (ih (fun other hother => hregular other (List.mem_cons_of_mem _ hother)) henabled.2 hrest)

end Call

end JobQueue
