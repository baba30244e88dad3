import JobQueue.Concurrency.HalfOpen

/-!
# Cool-down periods

The consumer reads the clock when it is entered and takes this time for the last
failure of the type and for the retry time of the job, whenever the executor
throws.  Both periods run from the entry: they are as long as promised if the
executor throws at once, and shorter by the time it took if not.
-/

namespace JobQueue

open KafkaConsumerService

variable {L : Type}

/-- The consumers and the latest millisecond their clock has shown. -/
structure Clocked (L : Type) where
  consumers : Consumers L
  now : Int

/-- What the environment decides during the step. -/
def Consumers.Label.env : Consumers.Label → CallEnv
  | .call _ env => env
  | .start _ env => env
  | .finish _ env => env

/-- The executor throws in the millisecond in which its consumer was entered, or
the failure is the last one of the job and does not matter for the circuit. -/
def Prompt (s : Consumers L) : Consumers.Label → Prop
  | .finish e env => ∀ error, env.outcome = .error error →
      env.millis 0 = e.entry ∨
        MAX_RETRY ≤ e.job.retryCount ∧ s.store.circuitOpen e.job.type = false ∧
          s.store.failureCount e.job.type + 1 < FAILURE_THRESHOLD
  | _ => True

section Steps

variable [RateLimiter L]

/-- A step while the clock does not go back.  In a finish the first reading is the
moment the executor ends. -/
structure ClockedStep (s : Clocked L) (label : Consumers.Label) (t : Clocked L) : Prop where
  step : Consumers.Step s.consumers label t.consumers
  clock : Monotone label.env.clock
  after : ∀ k, s.now ≤ label.env.millis k
  before : ∀ k, label.env.millis k ≤ t.now

theorem ClockedStep.now_le {s t : Clocked L} {label : Consumers.Label}
    (h : ClockedStep s label t) : s.now ≤ t.now :=
  (h.after 0).trans (h.before 0)

/-- A step with prompt failures. -/
def PromptStep (s : Clocked L) (label : Consumers.Label) (t : Clocked L) : Prop :=
  ClockedStep s label t ∧ Prompt s.consumers label

/-- A step that does not reset the circuit of the type. -/
def KeepsCircuit (type : String) (label : Consumers.Label) : Prop :=
  ∀ env, label ≠ .call (.resetCircuit type) env

/-! ## The circuit of one type -/

/-- The flag and the time of a type are the same in both states. -/
def SameCircuit (type : String) (s t : State L) : Prop :=
  t.circuitOpen type = s.circuitOpen type ∧ t.lastFailureTime type = s.lastFailureTime type

omit [RateLimiter L] in
theorem SameCircuit.of_circuits {type : String} {s t : State L} (h : t.circuits = s.circuits) :
    SameCircuit type s t := by
  obtain ⟨hopen, hrest⟩ := Prod.ext_iff.mp h
  exact ⟨congrFun hopen type, congrFun (Prod.ext_iff.mp hrest).2 type⟩

omit [RateLimiter L] in
theorem sameCircuit_halfOpenEffect {type : String} {job : Job} (h : type ≠ job.type)
    (s : State L) : SameCircuit type s (halfOpenEffect job s) := by
  refine ⟨circuitOpen_halfOpenEffect_of_ne s job h, ?_⟩
  unfold halfOpenEffect
  split_ifs <;> rfl

omit [RateLimiter L] in
theorem sameCircuit_catchEffect {type : String} {job : Job} (h : type ≠ job.type) (now : Int)
    (e : JavaException) (s : State L) : SameCircuit type s (catchEffect now job e s) := by
  refine ⟨circuitOpen_catchEffect_of_ne s job now e h, ?_⟩
  rw [lastFailureTime_catchEffect]
  exact Function.update_of_ne h _ _

omit [RateLimiter L] in
theorem SameCircuit.trans {type : String} {s t u : State L} (h : SameCircuit type s t)
    (h' : SameCircuit type t u) : SameCircuit type s u :=
  ⟨h'.1.trans h.1, h'.2.trans h.2⟩

/-- A whole `consume` changes the circuit of a type only for an admitted job of
this type. -/
theorem sameCircuit_consumeEffect (type : String) (env : CallEnv) (message : String)
    (s : State L) :
    SameCircuit type s (consumeEffect env message s) ∨
      ∃ job, job.type = type ∧ verdict env job s = .admitted := by
  unfold consumeEffect
  cases Decimal.parseLong message with
  | none => exact .inl ⟨rfl, rfl⟩
  | some jobId =>
      cases hrow : s.jobs.findById jobId with
      | none => exact .inl (by simp only [hrow]; exact ⟨rfl, rfl⟩)
      | some job =>
          simp only [hrow, consumeJobEffect]
          cases hverdict : verdict env job s with
          | cancelled => exact .inl ⟨rfl, rfl⟩
          | rateLimited => exact .inl ⟨rfl, rfl⟩
          | circuitOpen => exact .inl ⟨rfl, rfl⟩
          | admitted =>
              by_cases htype : job.type = type
              · exact .inr ⟨job, htype, hverdict⟩
              · left
                have hasked : SameCircuit type s (askLimiter env job s) := ⟨rfl, rfl⟩
                refine (hasked.trans (sameCircuit_halfOpenEffect (Ne.symm htype) _)).trans ?_
                rw [attemptEffect, executeEffect]
                split_ifs
                · have hran (admitted : State L) :
                      SameCircuit type admitted (runExecutor env.outcome job admitted) := by
                    unfold runExecutor
                    cases ExecutorFactory.resolve job.type <;> exact ⟨rfl, rfl⟩
                  cases executionResult env.outcome job with
                  | ok value => exact (hran _).trans ⟨rfl, rfl⟩
                  | error e => exact (hran _).trans (sameCircuit_catchEffect (Ne.symm htype) _ e _)
                · exact ⟨rfl, rfl⟩

theorem sameCircuit_start (type : String) (message : String) (env : CallEnv) (s : Consumers L) :
    SameCircuit type s.store (s.start message env).store ∨
      ∃ job, job.type = type ∧ verdict env job (Consumers.taken message s.store) = .admitted := by
  have htaken : SameCircuit type s.store (Consumers.taken message s.store) := ⟨rfl, rfl⟩
  rcases Consumers.start_cases message env s with ⟨job, executor, hbegins⟩ | ⟨-, hstart⟩
  · by_cases htype : job.type = type
    · exact .inr ⟨job, htype, hbegins.admitted⟩
    · left
      rw [Consumers.start_of_begins hbegins]
      have hasked : SameCircuit type (Consumers.taken message s.store)
          (askLimiter env job (Consumers.taken message s.store)) := ⟨rfl, rfl⟩
      have hhalf := sameCircuit_halfOpenEffect (Ne.symm htype)
        (askLimiter env job (Consumers.taken message s.store))
      exact ((htaken.trans hasked).trans hhalf).trans ⟨rfl, rfl⟩
  · rw [hstart]
    exact (sameCircuit_consumeEffect type env message (Consumers.taken message s.store)).imp_left
      htaken.trans

/-- Only the reset of its own type changes a circuit without executions. -/
theorem sameCircuit_call {type : String} {c : Call} (hwhole : Consumers.Whole c)
    (hkeeps : c ≠ .resetCircuit type) (env : CallEnv) (s : State L) :
    SameCircuit type s (c.exec env s) := by
  by_cases hreset : ∃ other, c = .resetCircuit other
  · obtain ⟨other, rfl⟩ := hreset
    have hne : type ≠ other := fun heq => hkeeps (by rw [heq])
    rw [Call.exec_resetCircuit]
    exact ⟨Function.update_of_ne hne _ _, Function.update_of_ne hne _ _⟩
  · exact .of_circuits (circuits_exec hwhole (fun other hc => hreset ⟨other, hc⟩) env _)

omit [RateLimiter L] in
/-- An execution that fails changes the circuit of its own type only, and one that
succeeds no circuit. -/
theorem sameCircuit_finishEffect {type : String} {e : Ongoing}
    {outcome : Except JavaException Unit}
    (h : ∀ error, outcome = .error error → type ≠ e.job.type) (s : State L) :
    SameCircuit type s (e.finishEffect outcome s) := by
  cases outcome with
  | ok value => exact ⟨rfl, rfl⟩
  | error error =>
      have hexecuted : SameCircuit type s (s.recordExecution e.job.id false) := ⟨rfl, rfl⟩
      exact hexecuted.trans (sameCircuit_catchEffect (h error rfl) e.entry error _)

omit [RateLimiter L] in
/-- A failure leaves an open circuit open, with the time of its entry. -/
theorem circuit_finishEffect_error {e : Ongoing} (error : JavaException) {s : State L}
    (hopen : s.circuitOpen e.job.type = true) :
    (e.finishEffect (.error error) s).circuitOpen e.job.type = true ∧
      (e.finishEffect (.error error) s).lastFailureTime e.job.type = e.entry := by
  let executed := s.recordExecution e.job.id false
  show (catchEffect e.entry e.job error executed).circuitOpen e.job.type = true ∧
    (catchEffect e.entry e.job error executed).lastFailureTime e.job.type = e.entry
  rw [lastFailureTime_catchEffect, Function.update_self, circuitOpen_catchEffect]
  refine ⟨?_, rfl⟩
  split_ifs
  · exact Function.update_self _ _ _
  · exact hopen

/-- A job of a type with an open circuit is admitted only after the timeout. -/
theorem timeout_of_admitted {env : CallEnv} {job : Job} {s : State L}
    (hadmitted : verdict env job s = .admitted) (hopen : s.circuitOpen job.type = true) :
    s.lastFailureTime job.type + CIRCUIT_TIMEOUT ≤ env.millis 1 := by
  by_contra hearly
  have hblocks : CircuitBlocks env job s := ⟨hopen, by omega⟩
  unfold verdict at hadmitted
  split_ifs at hadmitted

/-! ## The open circuit -/

/-- The circuit of the type is open with a failure at `time` or later, or the
timeout since `time` is over. -/
def CoolingDown (type : String) (time : Int) (s : Clocked L) : Prop :=
  time ≤ s.now ∧
    (s.consumers.store.circuitOpen type = true ∧
        time ≤ s.consumers.store.lastFailureTime type ∨
      time + CIRCUIT_TIMEOUT ≤ s.now)

theorem CoolingDown.step {type : String} {time : Int} {s t : Clocked L}
    {label : Consumers.Label} (h : CoolingDown type time s) (hstep : PromptStep s label t)
    (hkeeps : KeepsCircuit type label) : CoolingDown type time t := by
  obtain ⟨hclocked, hprompt⟩ := hstep
  obtain ⟨hnow, hcool⟩ := h
  have hle := hclocked.now_le
  refine ⟨hnow.trans hle, ?_⟩
  rcases hcool with ⟨hopen, hfailed⟩ | hover
  swap
  · exact .inr (hover.trans hle)
  have hsame : SameCircuit type s.consumers.store t.consumers.store →
      t.consumers.store.circuitOpen type = true ∧
          time ≤ t.consumers.store.lastFailureTime type ∨ time + CIRCUIT_TIMEOUT ≤ t.now := by
    rintro ⟨hopen', htime⟩
    exact .inl ⟨hopen'.trans hopen, htime.symm ▸ hfailed⟩
  obtain ⟨henabled, hnext⟩ := hclocked.step
  cases label with
  | call c env =>
      refine hsame ?_
      rw [hnext]
      exact sameCircuit_call henabled (fun hc => hkeeps env (by rw [hc])) env _
  | start message env =>
      rcases sameCircuit_start type message env s.consumers with h | ⟨job, rfl, hadmitted⟩
      · refine hsame ?_
        rw [hnext]
        exact h
      · -- the breaker lets it begin, so the timeout is over
        have hlate : s.consumers.store.lastFailureTime job.type + CIRCUIT_TIMEOUT ≤
            env.millis 1 := timeout_of_admitted hadmitted hopen
        have hbefore : env.millis 1 ≤ t.now := hclocked.before 1
        exact .inr (by omega)
  | finish e env =>
      have hstore : t.consumers.store = e.finishEffect env.outcome s.consumers.store := by
        rw [hnext, Consumers.next, Consumers.finish_eq]
      by_cases hfails : ∃ error, env.outcome = .error error ∧ type = e.job.type
      · obtain ⟨error, houtcome, rfl⟩ := hfails
        rcases hprompt error houtcome with hnow' | ⟨-, hclosed, -⟩
        · have hcircuit := circuit_finishEffect_error error hopen
          rw [← houtcome, ← hstore, ← hnow'] at hcircuit
          exact .inl ⟨hcircuit.1, (hnow.trans (hclocked.after 0)).trans hcircuit.2.ge⟩
        · -- the late failure would need the circuit closed
          rw [hclosed] at hopen
          cases hopen
      · refine hsame ?_
        rw [hstore]
        exact sameCircuit_finishEffect (fun error h htype => hfails ⟨error, h, htype⟩) _

/-- An execution of a type that is cooling down begins only after the timeout. -/
theorem CoolingDown.begins {type : String} {time : Int} {s t : Clocked L} {message : String}
    {env : CallEnv} (h : CoolingDown type time s) (hstep : ClockedStep s (.start message env) t)
    (hbegins : BeginsType s.consumers t.consumers type) :
    time + CIRCUIT_TIMEOUT ≤ env.millis 1 := by
  rcases h.2 with ⟨hopen, hfailed⟩ | hover
  swap
  · exact hover.trans (hstep.after 1)
  obtain ⟨-, hnext⟩ := hstep.step
  rw [hnext] at hbegins
  obtain ⟨job, rfl, hadmitted⟩ := exists_of_beginsType hbegins
  have hlate : s.consumers.store.lastFailureTime job.type + CIRCUIT_TIMEOUT ≤ env.millis 1 :=
    timeout_of_admitted hadmitted hopen
  omega

/-- With prompt failures both periods run from the failure at `env.millis 0`.  If
the circuit of the type is open after it, no execution of the type begins within
the timeout, along any run that does not reset this circuit.  And the retry time
that it leaves in the row is at least the back-off later. -/
theorem cool_down_respected {s t : Clocked L} {e : Ongoing} {env : CallEnv}
    {error : JavaException} (hfinish : PromptStep s (.finish e env) t)
    (hfails : env.outcome = .error error) :
    (t.consumers.store.circuitOpen e.job.type = true →
      ∀ labels u message env' v,
        Run (fun s label t => PromptStep s label t ∧ KeepsCircuit e.job.type label) t labels u →
        ClockedStep u (.start message env') v →
        BeginsType u.consumers v.consumers e.job.type →
        ∀ k, 1 ≤ k → env.millis 0 + CIRCUIT_TIMEOUT ≤ env'.millis k) ∧
      (e.job.retryCount < MAX_RETRY →
        ∀ row, t.consumers.store.jobs.findById e.job.id = some row →
          ∃ time, row.nextRetryTime = some time ∧
            env.millis 0 + backoff (e.job.retryCount + 1) ≤ time) := by
  obtain ⟨hclocked, hprompt⟩ := hfinish
  obtain ⟨-, hnext⟩ := hclocked.step
  let executed := s.consumers.store.recordExecution e.job.id false
  have hstore : t.consumers.store = catchEffect e.entry e.job error executed := by
    rw [hnext, Consumers.next, Consumers.finish_eq, hfails]
    rfl
  constructor
  · intro hopen labels u message env' v hrun hstart hbegins k hk
    -- a late failure that opens the circuit would have come with a count below it
    have hentry : env.millis 0 = e.entry := by
      rcases hprompt error hfails with h | ⟨-, hclosed, hfew⟩
      · exact h
      · have hfew' : ¬ FAILURE_THRESHOLD ≤ executed.failureCount e.job.type + 1 := not_le.mpr hfew
        rw [hstore, circuitOpen_catchEffect, if_neg hfew'] at hopen
        exact absurd hopen (by simp [executed, State.recordExecution, hclosed])
    have hcool : CoolingDown e.job.type (env.millis 0) t := by
      refine ⟨hclocked.before 0, .inl ⟨hopen, ?_⟩⟩
      rw [hstore, lastFailureTime_catchEffect, Function.update_self, hentry]
    have hcool' : CoolingDown e.job.type (env.millis 0) u :=
      hrun.invariant (CoolingDown e.job.type (env.millis 0))
        (fun _ _ _ _ h hstep => h.step hstep.1 hstep.2) hcool
    have hentered := hcool'.begins hstart hbegins
    have hlater : env'.millis 1 ≤ env'.millis k :=
      Int.ediv_le_ediv (by decide) (hstart.clock hk)
    exact hentered.trans hlater
  · intro hretries row hrow
    -- a late failure with retries left is what the condition excludes
    have hentry : env.millis 0 = e.entry :=
      (hprompt error hfails).resolve_right fun h => absurd h.1 (not_le.mpr hretries)
    have hview : (t.consumers.store.view e.job.id).row = some row := hrow
    rw [hstore, view_catchEffect, if_pos rfl] at hview
    obtain ⟨old, -, hfailed⟩ := Option.map_eq_some_iff.mp hview
    refine ⟨e.entry + backoff (e.job.retryCount + 1), ?_, ?_⟩
    · rw [← hfailed, failedRow, if_neg (not_le.mpr hretries)]
      rfl
    · rw [hentry]

/-- A step within a millisecond that is not over. -/
theorem clockedStep_within {label : Consumers.Label} {s : Consumers L} {now time : Int}
    {outcome : Except JavaException Unit} (henv : label.env = .within time outcome)
    (henabled : Consumers.Enabled label s) (hle : now ≤ time) :
    ClockedStep ⟨s, now⟩ label ⟨Consumers.next label s, time⟩ := by
  refine ⟨⟨henabled, rfl⟩, ?_, fun k => ?_, fun k => ?_⟩
  · rw [henv]
    exact fun _ _ _ => le_rfl
  · rw [henv, Call.millis_within]
    exact hle
  · rw [henv, Call.millis_within]

end Steps

/-- The fifth failure is prompt: the next execution begins half a minute after it. -/
theorem cool_down_respected_prompt :
    let fails := CallEnv.within 2000 (.error ⟨some "timeout"⟩)
    let late := CallEnv.within 32000 (.ok ())
    fails.millis 0 + CIRCUIT_TIMEOUT ≤ late.millis 1 := by
  intro fails late
  let e := apiExecution 0 5 2000
  -- the states are kept as variables while the theorem is applied
  have hcool : ∀ entered failed started : Consumers LuaLimiter,
      PromptStep ⟨entered, 2000⟩ (.finish e fails) ⟨failed, 2000⟩ →
      failed.store.circuitOpen e.job.type = true →
      ClockedStep ⟨failed, 2000⟩ (.start "6" late) ⟨started, 32000⟩ →
      BeginsType failed started e.job.type → fails.millis 0 + CIRCUIT_TIMEOUT ≤ late.millis 1 :=
    fun _ failed started hfinish hopen hstart hbegins =>
      (cool_down_respected hfinish rfl).1 hopen [] ⟨failed, 2000⟩ "6" late ⟨started, 32000⟩
        (.nil _) hstart hbegins 1 le_rfl
  let failed := (fourCounted.start "5" fails).finish e fails
  have henabled : Consumers.Enabled (.finish e fails)
      (fourCounted.start "5" fails) := by decide
  have hfinish : PromptStep ⟨fourCounted.start "5" fails, 2000⟩
      (.finish e fails) ⟨failed, 2000⟩ :=
    ⟨clockedStep_within rfl henabled le_rfl, fun _ _ => .inl (by decide)⟩
  have hsent : Consumers.Enabled (.start "6" late) failed := by decide
  have hstart : ClockedStep ⟨failed, 2000⟩ (.start "6" late) ⟨failed.start "6" late, 32000⟩ :=
    clockedStep_within rfl hsent (by decide)
  have hopen : failed.store.circuitOpen e.job.type = true := by decide
  have hbegins : BeginsType failed (failed.start "6" late) e.job.type := by decide
  exact hcool _ _ _ hfinish hopen hstart hbegins

/-- The executor of the fifth failure throws ten seconds after the entry at 2000:
the row is put back until 4000, and another execution begins at 32000. -/
theorem cool_down_shortened :
    let slow := CallEnv.within 12000 (.error ⟨some "timeout"⟩)
    let late := CallEnv.within 32000 (.ok ())
    let steps : List Consumers.Label :=
      [.start "5" (.within 2000 (.ok ())), .finish (apiExecution 0 5 2000) slow]
    let failed := Consumers.execAll steps fourCounted
    Consumers.Executable (steps ++ [.start "6" late]) fourCounted ∧
      failed.store.circuitOpen "API" = true ∧
      BeginsType failed (failed.start "6" late) "API" ∧
      late.millis 1 < 12000 + CIRCUIT_TIMEOUT ∧
      failed.store.jobs.findById 5 =
        some ⟨⟨"API", .retry, none, none, none, 1, 1000, some 4000⟩, 5⟩ ∧
      (4000 : Int) < 12000 + backoff 1 := by
  decide

end JobQueue
