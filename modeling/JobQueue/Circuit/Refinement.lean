import JobQueue.Lib.CircuitBreaker
import JobQueue.Lifecycle.Refinement

/-!
# The circuit breaker of the consumer

The consumer keeps three maps per job type: a flag, a failure count and the time
of the last failure.  There is no half-open state in them; it is what is left
when the flag is cleared for an attempt while the count still stands.

When messages are consumed one at a time, the three maps are a bank of circuit
breakers: each call of `consume` that gets as far as the circuit check is one
request to the breaker of its type.  The cancellation flag and the rate limit are
asked before, and a call that one of them ends does not touch any breaker.
-/

namespace JobQueue

open CircuitBreaker Call KafkaConsumerService

/-- The breaker of the consumer. -/
def circuitPolicy : Policy := ⟨FAILURE_THRESHOLD, CIRCUIT_TIMEOUT⟩

namespace State

variable {L : Type}

/-- The breaker that the three maps stand for. -/
def phase (s : State L) (type : String) : Phase :=
  if s.circuitOpen type then .opened (s.lastFailureTime type)
  else if s.failureCount type < FAILURE_THRESHOLD then .closed (s.failureCount type)
  else .halfOpen

/-- An open circuit has been opened by enough failures, and they still count. -/
def Tripped (s : State L) : Prop :=
  ∀ type, s.circuitOpen type = true → FAILURE_THRESHOLD ≤ s.failureCount type

theorem phase_congr {s t : State L} {type : String}
    (hopen : t.circuitOpen type = s.circuitOpen type)
    (hcount : t.failureCount type = s.failureCount type)
    (htime : t.lastFailureTime type = s.lastFailureTime type) : t.phase type = s.phase type := by
  rw [phase, hopen, hcount, htime, phase]

theorem phase_of_open {s : State L} {type : String} (h : s.circuitOpen type = true) :
    s.phase type = .opened (s.lastFailureTime type) := if_pos h

theorem phase_of_closed {s : State L} {type : String} (h : s.circuitOpen type = false) :
    s.phase type = if s.failureCount type < FAILURE_THRESHOLD then .closed (s.failureCount type)
      else .halfOpen := if_neg (by simp [h])

theorem phase_reset {s : State L} {type : String} (h : s.circuitOpen type = false) :
    (s.setFailureCount type 0).phase type = .closed 0 := by
  have hcount : (s.setFailureCount type 0).failureCount type = 0 := Function.update_self _ _ _
  have hclosed : (s.setFailureCount type 0).circuitOpen type = false := h
  rw [phase_of_closed hclosed, hcount]
  rfl

/-- Taking a message off the topic moves no breaker. -/
theorem phase_deliver (c : Call) (s : State L) : (c.deliver s).phase = s.phase := by
  cases c <;> rfl

theorem Tripped.deliver {s : State L} (h : s.Tripped) (c : Call) : (c.deliver s).Tripped := by
  cases c <;> exact h

end State

/-! ## The circuit check -/

section Check

variable {L : Type} (s : State L) (job : Job) (now : Int)

theorem phase_halfOpenEffect_of_ne {type : String} (h : type ≠ job.type) :
    (halfOpenEffect job s).phase type = s.phase type := by
  unfold halfOpenEffect
  split_ifs
  · exact State.phase_congr (Function.update_of_ne h _ _) rfl rfl
  · rfl

theorem circuitOpen_halfOpenEffect :
    (halfOpenEffect job s).circuitOpen job.type = false := by
  unfold halfOpenEffect
  split_ifs with hopen
  · simp [State.setCircuitOpen]
  · simpa using hopen

theorem circuitOpen_halfOpenEffect_of_ne {type : String} (h : type ≠ job.type) :
    (halfOpenEffect job s).circuitOpen type = s.circuitOpen type := by
  unfold halfOpenEffect
  split_ifs
  · exact Function.update_of_ne h _ _
  · rfl

theorem tripped_halfOpenEffect (htripped : s.Tripped) : (halfOpenEffect job s).Tripped := by
  intro type hopen
  have hcount : (halfOpenEffect job s).failureCount = s.failureCount := by
    unfold halfOpenEffect
    split_ifs <;> rfl
  have hne : type ≠ job.type := by
    rintro rfl
    rw [circuitOpen_halfOpenEffect] at hopen
    cases hopen
  rw [circuitOpen_halfOpenEffect_of_ne s job hne] at hopen
  rw [hcount]
  exact htripped type hopen

/-- Within the timeout of an open circuit the breaker refuses. -/
theorem enter_of_blocked (hopen : s.circuitOpen job.type = true)
    (hrecent : now - s.lastFailureTime job.type < CIRCUIT_TIMEOUT) :
    (s.phase job.type).enter circuitPolicy now = none := by
  rw [State.phase_of_open hopen]
  exact if_pos hrecent

/-- Otherwise the attempt is made in the phase that the cleared flag stands
for. -/
theorem enter_of_admitted (htripped : s.Tripped)
    (hadmitted : ¬ (s.circuitOpen job.type = true ∧
      now - s.lastFailureTime job.type < CIRCUIT_TIMEOUT)) :
    (s.phase job.type).enter circuitPolicy now =
      some ((halfOpenEffect job s).phase job.type) := by
  cases hopen : s.circuitOpen job.type with
  | true =>
      have hlate : ¬ now - s.lastFailureTime job.type < CIRCUIT_TIMEOUT :=
        fun h => hadmitted ⟨hopen, h⟩
      have hcount := htripped job.type hopen
      have heffect : (halfOpenEffect job s).phase job.type = .halfOpen := by
        rw [State.phase_of_closed (circuitOpen_halfOpenEffect s job), halfOpenEffect, if_pos hopen]
        exact if_neg (not_lt.mpr hcount)
      rw [heffect, State.phase_of_open hopen]
      exact if_neg hlate
  | false =>
      have heffect : halfOpenEffect job s = s := if_neg (by simp [hopen])
      rw [heffect, State.phase_of_closed hopen]
      split_ifs <;> rfl

/-! ### A failed execution -/

theorem failureCount_catchEffect (e : JavaException) :
    (catchEffect now job e s).failureCount =
      Function.update s.failureCount job.type (s.failureCount job.type + 1) := by
  simp only [catchEffect, countFailureEffect]
  split_ifs <;> rfl

theorem lastFailureTime_catchEffect (e : JavaException) :
    (catchEffect now job e s).lastFailureTime =
      Function.update s.lastFailureTime job.type now := by
  simp only [catchEffect, countFailureEffect]
  split_ifs <;> rfl

theorem circuitOpen_catchEffect (e : JavaException) :
    (catchEffect now job e s).circuitOpen =
      if FAILURE_THRESHOLD ≤ s.failureCount job.type + 1 then
        Function.update s.circuitOpen job.type true
      else s.circuitOpen := by
  simp only [catchEffect, countFailureEffect]
  split_ifs <;> rfl

theorem circuitOpen_catchEffect_of_ne (e : JavaException) {type : String}
    (h : type ≠ job.type) : (catchEffect now job e s).circuitOpen type = s.circuitOpen type := by
  rw [circuitOpen_catchEffect]
  split_ifs
  · exact Function.update_of_ne h _ _
  · rfl

/-- A failed execution, counted while the flag is clear. -/
theorem phase_catchEffect (e : JavaException) (hclosed : s.circuitOpen job.type = false) :
    (catchEffect now job e s).phase job.type =
      (s.phase job.type).settle circuitPolicy now .failed := by
  rw [State.phase_of_closed hclosed]
  by_cases htrip : FAILURE_THRESHOLD ≤ s.failureCount job.type + 1
  · -- the fifth failure, or one after a half-open attempt
    have hopen : (catchEffect now job e s).circuitOpen job.type = true := by
      rw [circuitOpen_catchEffect, if_pos htrip, Function.update_self]
    rw [State.phase_of_open hopen, lastFailureTime_catchEffect, Function.update_self]
    split_ifs
    · exact (if_neg (not_lt.mpr htrip)).symm
    · rfl
  · have hstill : (catchEffect now job e s).circuitOpen job.type = false := by
      rw [circuitOpen_catchEffect, if_neg htrip, hclosed]
    have hcount : s.failureCount job.type < FAILURE_THRESHOLD := by omega
    rw [State.phase_of_closed hstill, failureCount_catchEffect, Function.update_self,
      if_pos (not_le.mp htrip), if_pos hcount]
    exact (if_pos (not_le.mp htrip)).symm

theorem phase_catchEffect_of_ne (e : JavaException) {type : String} (h : type ≠ job.type) :
    (catchEffect now job e s).phase type = s.phase type := by
  apply State.phase_congr
  · exact circuitOpen_catchEffect_of_ne s job now e h
  · rw [failureCount_catchEffect, Function.update_of_ne h]
  · rw [lastFailureTime_catchEffect, Function.update_of_ne h]

theorem tripped_catchEffect (e : JavaException) (htripped : s.Tripped)
    (hclosed : s.circuitOpen job.type = false) : (catchEffect now job e s).Tripped := by
  intro type hopen
  rw [failureCount_catchEffect]
  by_cases htype : type = job.type
  · subst htype
    rw [Function.update_self]
    by_contra hfew
    rw [circuitOpen_catchEffect, if_neg hfew, hclosed] at hopen
    cases hopen
  · rw [circuitOpen_catchEffect_of_ne s job now e htype] at hopen
    rw [Function.update_of_ne htype]
    exact htripped type hopen

/-- The executor does not see the circuit. -/
theorem phase_runExecutor (outcome : Except JavaException Unit) :
    (runExecutor outcome job s).phase = s.phase := by
  unfold runExecutor
  cases ExecutorFactory.resolve job.type <;> rfl

theorem circuitOpen_runExecutor (outcome : Except JavaException Unit) :
    (runExecutor outcome job s).circuitOpen = s.circuitOpen := by
  unfold runExecutor
  cases ExecutorFactory.resolve job.type <;> rfl

theorem tripped_runExecutor (outcome : Except JavaException Unit) (h : s.Tripped) :
    (runExecutor outcome job s).Tripped := by
  unfold runExecutor
  cases ExecutorFactory.resolve job.type <;> exact h

end Check

/-! ## Calls as requests -/

section Requests

variable {L : Type}

/-- What became of the job of a request at `now`, as its view shows before and
after. -/
def Became (job : Job) (now : Int) (v w : JobView) : Option Attempt → Prop
  | none => w.row = some (deferred job (now + 5000)) ∧ w.executions = v.executions
  | some .idle => job.status ≠ .queued ∧ w.row = some job ∧ w.executions = v.executions
  | some .succeeded => job.status = .queued ∧ w.row = some { job with status := .completed } ∧
      w.executions = v.executions ++ [true]
  | some .failed => job.status = .queued ∧ w.row = some (failedRow job now) ∧
      w.executions = v.executions ++ Outcome.failedExecutions job

theorem phase_attemptEffect_of_ne {job : Job} {type : String} (h : type ≠ job.type) (now : Int)
    (outcome : Except JavaException Unit) (s : State L) :
    (attemptEffect now outcome job s).phase type = s.phase type := by
  unfold attemptEffect executeEffect
  split_ifs
  · cases executionResult outcome job with
    | ok value =>
        have hrun := congrFun (phase_runExecutor s job outcome) type
        rw [← hrun]
        exact State.phase_congr rfl (Function.update_of_ne h _ _) rfl
    | error e =>
        rw [phase_catchEffect_of_ne _ _ _ _ h, phase_runExecutor]
  · rfl

/-- An attempt settles the breaker as it settles the job. -/
theorem attempt_settles {job : Job} (now : Int) (outcome : Except JavaException Unit) {s : State L}
    (hrow : (s.view job.id).row = some job) (hclosed : s.circuitOpen job.type = false) :
    ∃ attempt, Became job now (s.view job.id) ((attemptEffect now outcome job s).view job.id)
        (some attempt) ∧
      (attemptEffect now outcome job s).phase job.type =
        (s.phase job.type).settle circuitPolicy now attempt := by
  unfold attemptEffect
  split_ifs with hqueued
  · have hview := view_executeEffect_self s now outcome hrow
    have hrun := phase_runExecutor s job outcome
    have hopen := circuitOpen_runExecutor s job outcome
    unfold executeOutcome at hview
    cases hresult : executionResult outcome job with
    | ok value =>
        rw [hresult] at hview
        refine ⟨.succeeded, ⟨hqueued, ?_, ?_⟩, ?_⟩
        · rw [hview]
          simp [Outcome.apply, JobView.withStatus, hrow]
        · rw [hview]
          rfl
        · rw [executeEffect, hresult]
          -- a success resets the count of a circuit that was closed all along
          have hstill : ((runExecutor outcome job s).saveJob
              { job with status := .completed }).circuitOpen job.type = false :=
            (congrFun hopen job.type).trans hclosed
          dsimp only
          rw [State.phase_reset hstill]
          cases s.phase job.type <;> rfl
    | error e =>
        rw [hresult] at hview
        refine ⟨.failed, ⟨hqueued, ?_, ?_⟩, ?_⟩
        · rw [hview]
          simp [Outcome.apply, hrow]
        · rw [hview]
          simp [Outcome.apply, hrow]
        · rw [executeEffect, hresult]
          dsimp only
          rw [phase_catchEffect _ _ _ _ ((congrFun hopen job.type).trans hclosed), hrun]
  · exact ⟨.idle, ⟨hqueued, hrow, rfl⟩, by cases s.phase job.type <;> rfl⟩

variable [RateLimiter L]

/-- The job is not cancelled and the limiter admits it, so `consume` comes to the
circuit check. -/
def Reaches (env : CallEnv) (s : State L) (job : Job) : Prop :=
  s.isCancelled job.id (env.millis 0) = false ∧ (limiterReply env job s).1 = true

/-- A call touches the breaker of the type of its job and no other. -/
theorem phase_consumeJobEffect_of_ne (env : CallEnv) {s : State L} {job : Job} {type : String}
    (h : type ≠ job.type) : (consumeJobEffect env job s).phase type = s.phase type := by
  unfold consumeJobEffect
  cases verdict env job s with
  | cancelled => rfl
  | rateLimited => rfl
  | circuitOpen => rfl
  | admitted => exact (phase_attemptEffect_of_ne h _ _ _).trans (phase_halfOpenEffect_of_ne _ _ h)

/-- A call that comes to the circuit check is a request to the breaker of its
type. -/
theorem consumeJob_request (env : CallEnv) {s : State L} {job : Job} (htripped : s.Tripped)
    (hrow : (s.view job.id).row = some job) (hreaches : Reaches env s job) :
    ∃ attempt, Became job (env.millis 1) (s.view job.id)
        ((consumeJobEffect env job s).view job.id) attempt ∧
      (s.phase job.type).next circuitPolicy (env.millis 1) attempt =
        some ((consumeJobEffect env job s).phase job.type) := by
  obtain ⟨hcancelled, hallowed⟩ := hreaches
  by_cases hblocked : CircuitBlocks env job s
  · have hverdict : verdict env job s = .circuitOpen := by
      simp [verdict, hcancelled, hallowed, hblocked]
    refine ⟨none, ?_, ?_⟩
    · rw [view_consumeJobEffect_self s env hrow, consumeOutcome, hverdict]
      exact ⟨by simp [Outcome.apply, hrow], rfl⟩
    · rw [Phase.next_of_refused (enter_of_blocked s job _ hblocked.1 hblocked.2),
        consumeJobEffect, hverdict]
      rfl
  · have hverdict : verdict env job s = .admitted := by
      simp [verdict, hcancelled, hallowed, hblocked]
    let admitted := halfOpenEffect job (askLimiter env job s)
    have hview : admitted.view job.id = s.view job.id := view_halfOpenEffect _ _ _
    have hentered : (s.phase job.type).enter circuitPolicy (env.millis 1) =
        some (admitted.phase job.type) :=
      enter_of_admitted (askLimiter env job s) job (env.millis 1) htripped hblocked
    obtain ⟨attempt, hbecame, hphase⟩ := attempt_settles (env.millis 1) env.outcome
      (hview ▸ hrow) (circuitOpen_halfOpenEffect (askLimiter env job s) job)
    rw [← hview, consumeJobEffect, hverdict]
    exact ⟨some attempt, hbecame, by rw [Phase.next_of_entered hentered, ← hphase]⟩

theorem tripped_consumeJobEffect (env : CallEnv) {s : State L} (job : Job) (h : s.Tripped) :
    (consumeJobEffect env job s).Tripped := by
  unfold consumeJobEffect
  cases verdict env job s with
  | cancelled => exact h
  | rateLimited => exact h
  | circuitOpen => exact h
  | admitted =>
      let admitted := halfOpenEffect job (askLimiter env job s)
      have hadmitted : admitted.Tripped := tripped_halfOpenEffect (askLimiter env job s) job h
      have hclosed : (runExecutor env.outcome job admitted).circuitOpen job.type = false := by
        rw [circuitOpen_runExecutor]
        exact circuitOpen_halfOpenEffect _ _
      dsimp only [attemptEffect, executeEffect]
      split_ifs
      · have hrun := tripped_runExecutor admitted job env.outcome hadmitted
        cases executionResult env.outcome job with
        | error e => exact tripped_catchEffect _ _ _ e hrun hclosed
        | ok value =>
            -- the count is reset while the flag of the type is clear
            intro type hopen
            have hne : type ≠ job.type := by
              rintro rfl
              exact absurd (hclosed.symm.trans hopen) (by decide)
            have hcount : (((runExecutor env.outcome job admitted).saveJob
                { job with status := .completed }).setFailureCount job.type 0).failureCount type =
                (runExecutor env.outcome job admitted).failureCount type :=
              Function.update_of_ne hne _ _
            exact (hrun type hopen).trans hcount.ge
      · exact hadmitted

end Requests

/-! ## Runs -/

/-- The calls that touch the circuit. -/
def Call.TouchesCircuit : Call → Prop
  | .consume _ | .redeliver _ | .resetCircuit _ => True
  | .createJob _ | .cancelJob _ | .watch | .triggerRecovery | .reconcileRedis | .dispatch
  | .requeueJob _ => False

instance : DecidablePred Call.TouchesCircuit := fun c =>
  match c with
  | .consume _ | .redeliver _ | .resetCircuit _ => isTrue trivial
  | .createJob _ | .cancelJob _ | .watch | .triggerRecovery | .reconcileRedis | .dispatch
  | .requeueJob _ => isFalse id

section Runs

variable {L : Type} [RateLimiter L] {s t : State L} {labels : List (Call × CallEnv)}

/-- A step of a system that consumes messages and resets circuits. -/
def CircuitStep (s : State L) (label : Call × CallEnv) (t : State L) : Prop :=
  label.1.TouchesCircuit ∧ Call.Step s label t

/-- What a call from `s` to `t` shows of the circuit: a reset, a request with
what became of its job, or nothing, when the message has no job or its job is
stopped by the cancellation flag or the rate limit. -/
def Shows (s : State L) (label : Call × CallEnv) (t : State L) : Signal String → Prop
  | .reset type => label.1 = .resetCircuit type
  | .request type now attempt => now = label.2.millis 1 ∧ ∃ job, type = job.type ∧
      label.1.Consumes job.id ∧ s.jobs.findById job.id = some job ∧ Reaches label.2 s job ∧
      Became job now (s.view job.id) (t.view job.id) attempt
  | .quiet => (∀ type, label.1 ≠ .resetCircuit type) ∧ t.executions = s.executions ∧
      ∀ job, label.1.Consumes job.id → s.jobs.findById job.id = some job → ¬ Reaches label.2 s job

/-- The call moves the breakers as the signal says that it shows. -/
def Signals (s : State L) (label : Call × CallEnv) (signal : Signal String) (t : State L) : Prop :=
  Shows s label t signal ∧ BankStep circuitPolicy s.phase signal t.phase

/-- A delivery is a call of `consume` in a state with the same rows and circuits. -/
theorem exec_of_delivers {c : Call} (hcircuit : c.TouchesCircuit)
    (hreset : ∀ type, c ≠ .resetCircuit type) (env : CallEnv) (s : State L) :
    ∃ message, (∀ id, c.Consumes id ↔ Decimal.parseLong message = some id) ∧
      c.exec env s = consumeEffect env message (c.deliver s) := by
  cases c with
  | consume message => exact ⟨message, fun _ => Iff.rfl, exec_consume env s message⟩
  | redeliver message => exact ⟨message, fun _ => Iff.rfl, exec_redeliver env s message⟩
  | resetCircuit type => exact absurd rfl (hreset type)
  | createJob | cancelJob | watch | triggerRecovery | reconcileRedis | dispatch | requeueJob =>
      exact hcircuit.elim

/-- A call that is stopped before the circuit check executes nothing. -/
theorem executions_consumeJob_of_not_reaches {env : CallEnv} {s : State L} {job : Job}
    (h : ¬ Reaches env s job) : (consumeJobEffect env job s).executions = s.executions ∧
      (consumeJobEffect env job s).phase = s.phase := by
  have hverdict : verdict env job s = .cancelled ∨ verdict env job s = .rateLimited := by
    unfold verdict
    by_cases hcancelled : s.isCancelled job.id (env.millis 0) = true
    · exact .inl (if_pos hcancelled)
    · have hlimited : (limiterReply env job s).1 = false := by
        by_contra hallowed
        exact h ⟨by simpa using hcancelled, by simpa using hallowed⟩
      simp [hcancelled, hlimited]
  unfold consumeJobEffect
  rcases hverdict with hverdict | hverdict <;> rw [hverdict] <;> exact ⟨rfl, rfl⟩

theorem reaches_deliver (c : Call) (env : CallEnv) (s : State L) (job : Job) :
    Reaches env (c.deliver s) job ↔ Reaches env s job := by
  cases c <;> rfl

/-- A reset closes the breaker of its type. -/
theorem circuit_step_resetCircuit (type : String) (env : CallEnv) (htripped : s.Tripped) :
    ((Call.resetCircuit type).exec env s).Tripped ∧ ∃ signal,
      Signals s (.resetCircuit type, env) signal ((Call.resetCircuit type).exec env s) := by
  rw [exec_resetCircuit]
  constructor
  · intro other hopen
    have hne : other ≠ type := by
      rintro rfl
      simp [State.setLastFailureTime, State.setCircuitOpen] at hopen
    have hcount : (((s.setFailureCount type 0).setCircuitOpen type false).setLastFailureTime
        type 0).failureCount other = s.failureCount other := Function.update_of_ne hne _ _
    rw [hcount]
    exact htripped other (by
      simpa [State.setLastFailureTime, State.setCircuitOpen, State.setFailureCount, hne] using
        hopen)
  · refine ⟨.reset type, rfl, ?_⟩
    funext other
    by_cases hne : other = type
    · subst hne
      rw [Function.update_self]
      simp [State.phase, State.setLastFailureTime, State.setCircuitOpen, State.setFailureCount,
        FAILURE_THRESHOLD]
    · rw [Function.update_of_ne hne]
      exact State.phase_congr (Function.update_of_ne hne _ _) (Function.update_of_ne hne _ _)
        (Function.update_of_ne hne _ _)

/-- A delivery for a row is a request if it reaches the circuit check, and shows nothing
otherwise. -/
theorem circuit_step_consumeJob {c : Call} {env : CallEnv} {job : Job} (htripped : s.Tripped)
    (hreset : ∀ type, c ≠ .resetCircuit type) (hconsumes : ∀ id, c.Consumes id ↔ id = job.id)
    (hrow : s.jobs.findById job.id = some job) :
    ∃ signal, Signals s (c, env) signal (consumeJobEffect env job (c.deliver s)) := by
  by_cases hjob : Reaches env s job
  · have hview : ((c.deliver s).view job.id).row = some job := by
      rw [State.view_row, c.jobs_deliver, hrow]
    obtain ⟨attempt, hbecame, hnext⟩ := consumeJob_request env (htripped.deliver c) hview
      ((reaches_deliver c env s job).mpr hjob)
    have hbecame' : Became job (env.millis 1) (s.view job.id)
        ((consumeJobEffect env job (c.deliver s)).view job.id) attempt := by
      cases c <;> exact hbecame
    refine ⟨.request job.type (env.millis 1) attempt,
      ⟨rfl, job, rfl, (hconsumes job.id).mpr rfl, hrow, hjob, hbecame'⟩,
      _, State.phase_deliver c s ▸ hnext, ?_⟩
    funext other
    by_cases hne : other = job.type
    · subst hne
      rw [Function.update_self]
    · rw [Function.update_of_ne hne, phase_consumeJobEffect_of_ne env hne, State.phase_deliver]
  · obtain ⟨hnothing, hsame⟩ := executions_consumeJob_of_not_reaches
      fun h => hjob ((reaches_deliver c env s job).mp h)
    refine ⟨.quiet, ⟨hreset, hnothing.trans (c.executions_deliver s),
      fun other hother hfound => ?_⟩, hsame.trans (State.phase_deliver c s)⟩
    rw [(hconsumes other.id).mp hother, hrow] at hfound
    obtain rfl := Option.some.inj hfound
    exact hjob

/-- Each call is what it shows to the bank of breakers. -/
theorem circuit_step {label : Call × CallEnv} (htripped : s.Tripped)
    (hstep : CircuitStep s label t) :
    t.Tripped ∧ ∃ signal, Signals s label signal t := by
  obtain ⟨c, env⟩ := label
  obtain ⟨hcircuit, henabled, rfl⟩ := hstep
  by_cases hreset : ∃ type, c = .resetCircuit type
  · obtain ⟨type, rfl⟩ := hreset
    exact circuit_step_resetCircuit type env htripped
  · have hnone : ∀ type, c ≠ .resetCircuit type := fun type h => hreset ⟨type, h⟩
    obtain ⟨message, hconsumes, hexec⟩ := exec_of_delivers hcircuit hnone env s
    -- a message without a row shows nothing
    have hquiet : (∀ job, c.Consumes job.id → s.jobs.findById job.id ≠ some job) →
        (c.deliver s).Tripped ∧ ∃ signal, Signals s (c, env) signal (c.deliver s) :=
      fun hno => ⟨htripped.deliver c, .quiet, ⟨hnone, c.executions_deliver s,
        fun job hjob hfound => absurd hfound (hno job hjob)⟩, State.phase_deliver c s⟩
    rw [hexec, consumeEffect]
    cases hparse : Decimal.parseLong message with
    | none =>
        refine hquiet fun job hjob => ?_
        rw [hconsumes, hparse] at hjob
        cases hjob
    | some jobId =>
        have hid : ∀ id, c.Consumes id ↔ id = jobId := by
          intro id
          rw [hconsumes, hparse, Option.some.injEq, eq_comm]
        simp only [c.jobs_deliver]
        cases hrow : s.jobs.findById jobId with
        | none =>
            refine hquiet fun job hjob => ?_
            rw [(hid job.id).mp hjob, hrow]
            exact (Option.some_ne_none job).symm
        | some job =>
            obtain rfl := JobTable.id_of_findById hrow
            exact ⟨tripped_consumeJobEffect env job (htripped.deliver c),
              circuit_step_consumeJob htripped hnone hid hrow⟩

/-- The circuit breaker of the consumer is a bank of three-state breakers.  Along
every run of whole calls of `consume` and `resetCircuit` that starts with closed
circuits, each call is the request or the reset that it shows, and the breakers
move as the policy says: a request that is refused puts the job off without an
execution, one that is let through settles the breaker of its type, and a call
that is stopped before the circuit check moves none. -/
theorem circuit_refines_breakers (hrun : Run CircuitStep s labels t)
    (hstart : ∀ type, s.circuitOpen type = false) :
    ∃ notes : List ((Call × CallEnv) × Signal String), notes.map Prod.fst = labels ∧
      Run (fun s note t => CircuitStep s note.1 t ∧ Signals s note.1 note.2 t) s notes t := by
  refine Run.annotate State.Tripped hrun ?_ fun type hopen => ?_
  · intro s label t htripped hstep
    exact circuit_step htripped hstep
  · rw [hstart] at hopen
    cases hopen

end Runs

/-- Five jobs fail at once and open the circuit of their type; a sixth one was
cancelled. -/
def circuitOpened : List (Call × CallEnv) :=
  let fails : Except JavaException Unit := .error ⟨some "timeout"⟩
  [(.consume "1", .within 2000 fails), (.consume "2", .within 2000 fails),
    (.consume "3", .within 2000 fails), (.consume "4", .within 2000 fails),
    (.consume "5", .within 2000 fails)]

/-- Six jobs of one type, sent at once, the last of them cancelled. -/
def sixJobs : State LuaLimiter :=
  let create : Call × CallEnv := (.createJob (.immediate "API"), .within 1000 (.ok ()))
  Call.execAll [create, create, create, create, create, create,
    (.cancelJob 6, .within 1500 (.ok ()))] (State.empty LuaLimiter.empty)

theorem circuit_refines_breakers_circuitOpened :
    ∃ notes : List ((Call × CallEnv) × Signal String), notes.map Prod.fst = circuitOpened ∧
      Run (fun s note t => CircuitStep s note.1 t ∧ Signals s note.1 note.2 t) sixJobs notes
        (Call.execAll circuitOpened sixJobs) :=
  circuit_refines_breakers (Call.run_execAll (by decide) (by decide)) fun _ => rfl

/-- Five messages within the second before the timeout is over, and one at its
end. -/
def crowdedTimeout : List (Call × CallEnv) :=
  [(.redeliver "1", .within 31995 (.ok ())), (.redeliver "1", .within 31996 (.ok ())),
    (.redeliver "1", .within 31997 (.ok ())), (.redeliver "1", .within 31998 (.ok ())),
    (.redeliver "1", .within 31999 (.ok ())), (.redeliver "1", .within 32000 (.ok ()))]

/-- The circuit has been open for a second when the message of the cancelled job
comes: the job is not deferred, its row is saved as CANCELLED.  And thirty
seconds after the last failure a message that exhausts the rate limit leaves the
circuit open. -/
theorem circuit_not_asked :
    let opened := Call.execAll circuitOpened sixJobs
    let cancelled := (Call.consume "6").exec (.within 3000 (.ok ())) opened
    let crowded := Call.execAll crowdedTimeout opened
    Call.Executable (circuitOpened ++ [(.consume "6", .within 3000 (.ok ()))]) sixJobs ∧
      Call.Executable (circuitOpened ++ crowdedTimeout) sixJobs ∧
      opened.phase "API" = .opened 2000 ∧
      opened.jobs.findById 6 = some ⟨⟨"API", .queued, none, none, none, 0, 1000, none⟩, 6⟩ ∧
      cancelled.jobs.findById 6 =
        some ⟨⟨"API", .cancelled, none, none, none, 0, 1000, none⟩, 6⟩ ∧
      crowded.phase "API" = .opened 2000 := by
  decide

end JobQueue
