import JobQueue.Concurrency.StartFinish
import JobQueue.Circuit.Refinement

/-!
# The half-open circuit among several consumers

The circuit of a type is a flag, a count and a time, each of them atomic, and a
failed execution opens the circuit because the count it leaves is at least the
threshold.  The count is not taken back when the circuit opens or is half-opened,
so a failure of the trial opens it again.  An execution that was slow when the
circuit opened and then succeeds sets the count to zero: from there on the flag
and the count disagree, and the next trial may fail without effect.
-/

namespace JobQueue

open KafkaConsumerService

variable {L : Type}

/-! ## Counts -/

/-- Between the two states no count went down, and a circuit that was opened has a
count of at least the threshold. -/
def CountsUp (s t : State L) : Prop :=
  ∀ type, s.failureCount type ≤ t.failureCount type ∧
    (t.circuitOpen type = true →
      s.circuitOpen type = true ∨ FAILURE_THRESHOLD ≤ t.failureCount type)

theorem CountsUp.of_circuits {s t : State L} (h : t.circuits = s.circuits) : CountsUp s t := by
  obtain ⟨hopen, hcount⟩ := Prod.ext_iff.mp h
  have hcount' : t.failureCount = s.failureCount := (Prod.ext_iff.mp hcount).1
  have hopen' : t.circuitOpen = s.circuitOpen := hopen
  intro type
  rw [hcount', hopen']
  exact ⟨le_rfl, .inl⟩

theorem CountsUp.trans {s t u : State L} (h : CountsUp s t) (h' : CountsUp t u) :
    CountsUp s u := by
  intro type
  obtain ⟨hle, hopen⟩ := h type
  obtain ⟨hle', hopen'⟩ := h' type
  refine ⟨hle.trans hle', fun hu => ?_⟩
  rcases hopen' hu with ht | hcount
  · rcases hopen ht with hs | hcount
    · exact .inl hs
    · exact .inr (hcount.trans hle')
  · exact .inr hcount

theorem countsUp_halfOpenEffect (job : Job) (s : State L) : CountsUp s (halfOpenEffect job s) := by
  intro type
  have hcount : (halfOpenEffect job s).failureCount = s.failureCount := by
    unfold halfOpenEffect
    split_ifs <;> rfl
  rw [hcount]
  refine ⟨le_rfl, fun hopen => .inl ?_⟩
  by_cases htype : type = job.type
  · rw [htype, circuitOpen_halfOpenEffect] at hopen
    cases hopen
  · rwa [circuitOpen_halfOpenEffect_of_ne s job htype] at hopen

theorem countsUp_catchEffect (now : Int) (job : Job) (e : JavaException) (s : State L) :
    CountsUp s (catchEffect now job e s) := by
  intro type
  rw [failureCount_catchEffect]
  by_cases htype : type = job.type
  · subst htype
    rw [Function.update_self, circuitOpen_catchEffect]
    refine ⟨Nat.le_succ _, fun hopen => ?_⟩
    split_ifs at hopen with htrip
    · exact .inr htrip
    · exact .inl hopen
  · rw [Function.update_of_ne htype, circuitOpen_catchEffect_of_ne s job now e htype]
    exact ⟨le_rfl, .inl⟩

/-- A whole `consume` that calls no executor records no success. -/
theorem countsUp_consumeEffect [RateLimiter L] {env : CallEnv} {message : String} {s : State L}
    (h : ∀ job executor, ¬ Begins env message s job executor) :
    CountsUp s (consumeEffect env message s) := by
  unfold consumeEffect
  cases hparse : Decimal.parseLong message with
  | none => exact .of_circuits rfl
  | some jobId =>
      cases hrow : s.jobs.findById jobId with
      | none => exact .of_circuits (by simp only [hrow])
      | some job =>
          obtain rfl := JobTable.id_of_findById hrow
          simp only [hrow, consumeJobEffect]
          cases hverdict : verdict env job s with
          | cancelled => exact .of_circuits rfl
          | rateLimited => exact .of_circuits rfl
          | circuitOpen => exact .of_circuits rfl
          | admitted =>
              have hasked : CountsUp s (askLimiter env job s) := .of_circuits rfl
              refine (hasked.trans (countsUp_halfOpenEffect job _)).trans ?_
              rw [attemptEffect]
              split_ifs with hqueued
              · -- a job of an unknown type fails without an executor
                have hresolve : ExecutorFactory.resolve job.type = none := by
                  by_contra hsome
                  obtain ⟨executor, hexecutor⟩ := Option.ne_none_iff_exists'.mp hsome
                  exact h job executor ⟨hparse, hrow, hverdict, hqueued, hexecutor⟩
                simp only [executeEffect, executionResult, hresolve]
                refine CountsUp.trans (.of_circuits ?_) (countsUp_catchEffect _ _ _ _)
                rw [runExecutor, hresolve]
                rfl
              · exact .of_circuits rfl

/-! ## Trials -/

/-- What is known about the circuit of a type since it was half-opened last. -/
inductive Trial where
  /-- Nothing is to be decided. -/
  | none
  /-- No execution of the type has begun since. -/
  | awaited
  /-- The first execution that began since, by its number. -/
  | running (number : Nat)
  deriving DecidableEq

/-- The consumers with the trials of all types, which are read off the steps. -/
structure Watched (L : Type) where
  consumers : Consumers L
  trial : String → Trial

section Steps

variable [RateLimiter L]

/-- The step from `s` to `t` closed the circuit of the type. -/
def HalfOpens (s t : Consumers L) (type : String) : Prop :=
  s.store.circuitOpen type = true ∧ t.store.circuitOpen type = false

instance (s t : Consumers L) (type : String) : Decidable (HalfOpens s t type) :=
  inferInstanceAs (Decidable (_ ∧ _))

/-- The trial of a type after a step. -/
def nextTrial (s : Consumers L) (label : Consumers.Label) (t : Consumers L) (type : String)
    (trial : Trial) : Trial :=
  match label with
  | .call _ _ => trial
  | .start _ _ =>
      let trial := if HalfOpens s t type then .awaited else trial
      if trial = .awaited ∧ BeginsType s t type then .running s.begun else trial
  | .finish e _ => if trial = .running e.number then .none else trial

/-- A success is recorded only while the circuit of its type is closed and, after
a half-opening, only by the trial. -/
def SuccessInTurn (w : Watched L) : Consumers.Label → Prop
  | .finish e env => env.outcome = .ok () →
      w.consumers.store.circuitOpen e.job.type = false ∧
        (w.trial e.job.type = .none ∨ w.trial e.job.type = .running e.number)
  | _ => True

/-- A step without a reset of a circuit. -/
structure WatchedStep (w : Watched L) (label : Consumers.Label) (w' : Watched L) : Prop where
  step : Consumers.Step w.consumers label w'.consumers
  trial : ∀ type, w'.trial type =
    nextTrial w.consumers label w'.consumers type (w.trial type)
  noReset : ∀ type env, label ≠ .call (.resetCircuit type) env
  inTurn : SuccessInTurn w label

/-- The count of a type is at least the threshold while its circuit is open or has
a trial. -/
def CountKept (w : Watched L) : Prop :=
  ∀ type, w.consumers.store.circuitOpen type = true ∨ w.trial type ≠ .none →
    FAILURE_THRESHOLD ≤ w.consumers.store.failureCount type

omit [RateLimiter L] in
/-- A start and a failing finish take no count back. -/
theorem CountKept.of_countsUp {w w' : Watched L} (h : CountKept w)
    (hcounts : CountsUp w.consumers.store w'.consumers.store)
    (htrial : ∀ type, w'.trial type ≠ .none →
      w.trial type ≠ .none ∨ w.consumers.store.circuitOpen type = true) : CountKept w' := by
  intro type hw'
  obtain ⟨hle, hopen⟩ := hcounts type
  rcases hw' with hopen' | htrial'
  · rcases hopen hopen' with hs | hcount
    · exact (h type (.inl hs)).trans hle
    · exact hcount
  · rcases htrial type htrial' with ht | hs
    · exact (h type (.inr ht)).trans hle
    · exact (h type (.inl hs)).trans hle

theorem countsUp_start (message : String) (env : CallEnv) (s : Consumers L) :
    CountsUp s.store (s.start message env).store := by
  have htaken : CountsUp s.store (Consumers.taken message s.store) := .of_circuits rfl
  rcases Consumers.start_cases message env s with ⟨job, executor, hbegins⟩ | ⟨hover, hstart⟩
  · rw [Consumers.start_of_begins hbegins]
    have hasked : CountsUp (Consumers.taken message s.store)
        (askLimiter env job (Consumers.taken message s.store)) := .of_circuits rfl
    exact (htaken.trans hasked).trans
      ((countsUp_halfOpenEffect job _).trans (.of_circuits rfl))
  · rw [hstart]
    exact htaken.trans (countsUp_consumeEffect hover)

omit [RateLimiter L] in
theorem countsUp_finishEffect (e : Ongoing) (error : JavaException) (s : State L) :
    CountsUp s (e.finishEffect (.error error) s) := by
  have hexecuted : CountsUp s (s.recordExecution e.job.id false) := .of_circuits rfl
  exact hexecuted.trans (countsUp_catchEffect e.entry e.job error _)

theorem CountKept.step {w w' : Watched L} {label : Consumers.Label} (h : CountKept w)
    (hstep : WatchedStep w label w') : CountKept w' := by
  obtain ⟨⟨henabled, hnext⟩, htrial, hreset, hturn⟩ := hstep
  cases label with
  | call c env =>
      have hcircuits : w'.consumers.store.circuits = w.consumers.store.circuits := by
        rw [hnext]
        exact circuits_exec henabled (fun type hc => hreset type env (by rw [hc])) env _
      refine h.of_countsUp (.of_circuits hcircuits) fun type hw' => .inl ?_
      rwa [htrial] at hw'
  | start message env =>
      have hcounts : CountsUp w.consumers.store w'.consumers.store := by
        rw [hnext]
        exact countsUp_start message env w.consumers
      refine h.of_countsUp hcounts fun type hw' => ?_
      rw [htrial, nextTrial] at hw'
      by_cases hhalf : HalfOpens w.consumers w'.consumers type
      · exact .inr hhalf.1
      · left
        rintro hnone
        simp [hhalf, hnone] at hw'
  | finish e env =>
      have hstore : w'.consumers.store = e.finishEffect env.outcome w.consumers.store := by
        rw [hnext, Consumers.next, Consumers.finish_eq]
      have htrial' : ∀ type, w'.trial type ≠ .none → w.trial type ≠ .none := by
        rintro type hw' hnone
        rw [htrial, nextTrial, hnone] at hw'
        simp at hw'
      cases houtcome : env.outcome with
      | error error =>
          rw [houtcome] at hstore
          exact h.of_countsUp (hstore ▸ countsUp_finishEffect e error _) fun type hw' =>
            .inl (htrial' type hw')
      | ok value =>
          -- the circuit is closed and no other execution is on trial
          obtain ⟨hclosed, hown⟩ := hturn houtcome
          intro type hw'
          have hopen' : w'.consumers.store.circuitOpen = w.consumers.store.circuitOpen := by
            rw [hstore, houtcome]
            rfl
          by_cases htype : type = e.job.type
          · rw [hopen', htype, hclosed] at hw'
            rcases hw' with hw' | hw'
            · cases hw'
            · rw [htrial, nextTrial] at hw'
              rcases hown with hnone | hrunning
              · simp [hnone] at hw'
              · simp [hrunning] at hw'
          · have hcount : w'.consumers.store.failureCount type =
                w.consumers.store.failureCount type := by
              rw [hstore, houtcome]
              exact Function.update_of_ne htype _ _
            rw [hcount]
            refine h type (hw'.imp (fun hopen => ?_) (htrial' type))
            rwa [hopen'] at hopen

/-- The half-open guarantee, along every run without resets in which successes are
recorded in turn: an open circuit has a count of at least the threshold, and if
the first execution that began after a half-opening fails, it opens the circuit
again. -/
theorem half_open_kept {w w' : Watched L} {labels : List Consumers.Label}
    (hrun : Run WatchedStep w labels w')
    (hclosed : ∀ type, w.consumers.store.circuitOpen type = false)
    (htrial : ∀ type, w.trial type = .none) :
    (∀ type, w'.consumers.store.circuitOpen type = true →
      FAILURE_THRESHOLD ≤ w'.consumers.store.failureCount type) ∧
    ∀ e env error, e ∈ w'.consumers.ongoing → w'.trial e.job.type = .running e.number →
      env.outcome = .error error →
        (w'.consumers.finish e env).store.circuitOpen e.job.type = true := by
  have hkept : CountKept w' := by
    refine hrun.invariant CountKept (fun _ _ _ _ h hstep => h.step hstep) fun type h => ?_
    rw [hclosed, htrial] at h
    simp at h
  refine ⟨fun type hopen => hkept type (.inl hopen), fun e env error _ hrunning houtcome => ?_⟩
  have hcount : FAILURE_THRESHOLD ≤ w'.consumers.store.failureCount e.job.type := by
    refine hkept e.job.type (.inr ?_)
    rw [hrunning]
    simp
  have htrip : FAILURE_THRESHOLD ≤
      (w'.consumers.store.recordExecution e.job.id false).failureCount e.job.type + 1 :=
    hcount.trans (Nat.le_succ _)
  rw [Consumers.finish_eq, houtcome]
  show (catchEffect e.entry e.job error
    (w'.consumers.store.recordExecution e.job.id false)).circuitOpen e.job.type = true
  rw [circuitOpen_catchEffect, if_pos htrip, Function.update_self]

/-- The step with the trials that it shows. -/
def Watched.next (label : Consumers.Label) (w : Watched L) : Watched L :=
  let t := Consumers.next label w.consumers
  ⟨t, fun type => nextTrial w.consumers label t type (w.trial type)⟩

theorem watchedStep_next {w : Watched L} {label : Consumers.Label}
    (henabled : Consumers.Enabled label w.consumers)
    (hreset : ∀ type env, label ≠ .call (.resetCircuit type) env)
    (hturn : SuccessInTurn w label) : WatchedStep w label (w.next label) :=
  ⟨⟨henabled, rfl⟩, fun _ => rfl, hreset, hturn⟩

end Steps

/-- The consumer of a message that began at a time an execution of type API. -/
def apiExecution (number : Nat) (id time : Int) : Ongoing :=
  ⟨number, .api, ⟨⟨"API", .processing, none, none, none, 0, 1000, none⟩, id⟩, time⟩

/-- Seven jobs of one type, sent at once. -/
def sevenJobs : Consumers LuaLimiter :=
  let create : Call × CallEnv := (.createJob (.immediate "API"), .within 1000 (.ok ()))
  ⟨Call.execAll [create, create, create, create, create, create, create]
    (State.empty LuaLimiter.empty), [], 0⟩

/-- The same jobs, and a count of four failures. -/
def fourCounted : Consumers LuaLimiter :=
  { sevenJobs with store := { sevenJobs.store with failureCount := fun _ => 4 } }

/-- The fifth failure opens the circuit. -/
theorem half_open_kept_fifthFailure :
    let fails := CallEnv.within 2000 (.error ⟨some "timeout"⟩)
    let failed := Consumers.execAll [.start "5" fails, .finish (apiExecution 0 5 2000) fails]
      fourCounted
    failed.store.circuitOpen "API" = true ∧ 5 ≤ failed.store.failureCount "API" := by
  intro fails failed
  let fourth : Watched LuaLimiter := ⟨fourCounted, fun _ => .none⟩
  let started := fourth.next (.start "5" fails)
  let finished := started.next (.finish (apiExecution 0 5 2000) fails)
  have hstart : WatchedStep fourth (.start "5" fails) started :=
    watchedStep_next (by decide) (fun _ _ h => by cases h) trivial
  have hfinish : WatchedStep started (.finish (apiExecution 0 5 2000) fails) finished :=
    watchedStep_next (by decide) (fun _ _ h => by cases h) fun h => by cases h
  have hclosed : ∀ type, fourth.consumers.store.circuitOpen type = false := fun _ => rfl
  have hkept := half_open_kept (.cons hstart (.single hfinish)) hclosed fun _ => rfl
  have hsame : finished.consumers = failed := rfl
  rw [hsame] at hkept
  have hopen : failed.store.circuitOpen "API" = true := by decide
  exact ⟨hopen, hkept.1 "API" hopen⟩

/-- The first job is slow; five others fail and open the circuit, and then the
first one succeeds. -/
def slowSuccess : List Consumers.Label :=
  let succeeds (millis : Int) : CallEnv := .within millis (.ok ())
  let fails : CallEnv := .within 3100 (.error ⟨some "timeout"⟩)
  [.start "1" (succeeds 2000),
    .start "2" fails, .finish (apiExecution 1 2 3100) fails,
    .start "3" fails, .finish (apiExecution 2 3 3100) fails,
    .start "4" fails, .finish (apiExecution 3 4 3100) fails,
    .start "5" fails, .finish (apiExecution 4 5 3100) fails,
    .start "6" fails, .finish (apiExecution 5 6 3100) fails,
    .finish (apiExecution 0 1 2000) (succeeds 4000)]

/-- The circuit is open with a count of zero; half a minute later it is
half-opened, and the failure of the trial leaves it closed. -/
theorem half_open_lost :
    let slow := Consumers.execAll slowSuccess sevenJobs
    let late : CallEnv := .within 40000 (.error ⟨some "timeout"⟩)
    let tried := slow.start "7" late
    let failed := tried.finish (apiExecution 6 7 40000) late
    Consumers.Executable (slowSuccess ++
        [.start "7" late, .finish (apiExecution 6 7 40000) late]) sevenJobs ∧
      slow.store.circuitOpen "API" = true ∧ slow.store.failureCount "API" = 0 ∧
      tried.store.circuitOpen "API" = false ∧ tried.ongoing = [apiExecution 6 7 40000] ∧
      failed.store.circuitOpen "API" = false := by
  decide

end JobQueue
