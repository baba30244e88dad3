import JobQueue.Agent.Record
import JobQueue.Lib.Pool

/-!
# The history of the runs

The observer and the HTTP endpoints hand their incidents on from threads of their own, so
pipelines run at the same time.  Appending its result, under the lock of the history, is the
last thing that a pipeline does, and the history is the end of the list of all results.  A
query takes the end of the history by a negative slice, which for the limit 0 is no end but
the whole.
-/

namespace JobQueue

namespace AiAgent

/-! ## The pipelines as threads -/

/-- A call of `process_incident`, with what the orchestrator reads for it. -/
structure PipelineCall where
  agent : AgentOrchestrator
  incident : IncidentPayload

/-- The pipelines over the history they share. -/
def pipelines : Shared AgentOp AgentOp.Reply PyError PipelineCall JobQueueClient
    (List AgentRunResult) where
  program call := (call.agent.processIncident call.incident).bind fun _ => .done (.ok ())
  perform client := client.handle
  Enabled _ _ := True
  start _ history := history
  stop _ history := history

abbrev PipelineLabel := Pool.Label AgentOp AgentOp.Reply PyError PipelineCall JobQueueClient

abbrev PipelinePool := Pool AgentOp AgentOp.Reply PyError PipelineCall (List AgentRunResult)

/-- The result that a step appends to the history, if any. -/
def recordedBy : PipelineLabel → Option AgentRunResult
  | .perform _ (.record result) _ => some result
  | _ => none

/-- The results of the completed calls, in the order of completion: recording its result
completes a call. -/
def completed (labels : List PipelineLabel) : List AgentRunResult :=
  labels.filterMap recordedBy

/-! ## A call records its result, once and last -/

/-- What a call has recorded so far. -/
def recording : Protocol AgentOp AgentOp.Reply PyError (List AgentRunResult) where
  possible
    | .record _, reply => reply = .ok ()
    | .admin _, _ => True
  allows recorded _ := recorded = []
  next
    | recorded, .record result, _ => recorded ++ [result]
    | recorded, .admin _, _ => recorded

/-- A call of the job-queue client. -/
def IsAdmin : AgentOp → Prop
  | .admin _ => True
  | .record _ => False

theorem obeys_of_isAdmin {α : Type} {p : Agent α} (h : p.Only IsAdmin) :
    p.Obeys recording [] fun recorded _ => recorded = [] := by
  refine h.obeys (fun recorded => recorded = []) ?_ rfl
  intro recorded op hop hrecorded
  cases op with
  | admin call => exact ⟨hrecorded, fun _ => hrecorded⟩
  | record result => exact hop.elim

theorem isAdmin_pureOrRaise {α : Type} (result : Except PyError α) :
    (Agent.pureOrRaise result).Only IsAdmin := trivial

theorem isAdmin_admin (call : AdminCall) : (Agent.admin call).Only IsAdmin :=
  ⟨trivial, fun _ => trivial⟩

theorem isAdmin_analyze (python : Python) (settings : Settings) (openai : OpenAI)
    (incident : IncidentPayload) :
    (AnalyzerAgent.analyze python settings openai incident).Only IsAdmin := by
  have hhealth : AnalyzerAgent.fetchHealth.Only IsAdmin := by
    refine Prog.Only.tryCatch ?_ ?_
    · refine (isAdmin_admin .get_detailed_health).bind ?_
      exact fun health => trivial
    · exact fun e => trivial
  refine hhealth.bind fun health => ?_
  cases incident.self_healer with
  | some output => exact isAdmin_pureOrRaise _
  | none =>
      dsimp only
      split_ifs
      · exact isAdmin_pureOrRaise _
      · split <;> exact isAdmin_pureOrRaise _

theorem isAdmin_dispatch (python : Python) (plan : PlannedAction) :
    (ExecutorAgent.dispatch python plan).Only IsAdmin := by
  unfold ExecutorAgent.dispatch
  dsimp only
  split_ifs
  · exact isAdmin_admin _
  · exact isAdmin_admin _
  · exact (isAdmin_pureOrRaise _).bind fun _ => isAdmin_admin _
  · exact (isAdmin_pureOrRaise _).bind fun _ => isAdmin_admin _
  · trivial

theorem isAdmin_verifyJobState (python : Python) (plan : PlannedAction) :
    (ExecutorAgent.verifyJobState python plan).Only IsAdmin := by
  unfold ExecutorAgent.verifyJobState
  dsimp only
  split
  · trivial
  · split_ifs
    · trivial
    · refine (isAdmin_admin _).bind fun job => ?_
      cases job <;> trivial

theorem isAdmin_execute (python : Python) (settings : Settings) (plan : PlannedAction) :
    (ExecutorAgent.execute python settings plan).Only IsAdmin := by
  unfold ExecutorAgent.execute
  split_ifs
  · trivial
  · exact isAdmin_verifyJobState python plan
  · trivial
  · trivial
  · trivial
  · refine Prog.Only.tryCatch ?_ ?_
    · exact (isAdmin_dispatch python plan).bind fun _ => isAdmin_pureOrRaise _
    · exact fun e => trivial

/-- A call that returns a result has recorded it, as its last operation and no other one; a
call that raises has recorded nothing. -/
theorem processIncident_records (agent : AgentOrchestrator) (incident : IncidentPayload) :
    (agent.processIncident incident).Obeys recording []
      fun recorded ending => recorded = ending.toOption.toList := by
  have hresolve : ∀ enriched analysis, (agent.resolve enriched analysis).Obeys recording []
      fun recorded ending => recorded = ending.toOption.toList := by
    intro enriched analysis
    refine (obeys_of_isAdmin (isAdmin_execute _ _ _)).bind ?_ fun _ _ h => h
    rintro _ execution rfl
    refine ⟨rfl, fun reply hreply => ?_⟩
    obtain rfl : reply = .ok () := hreply
    rfl
  have hanalyze : ∀ enriched, (AnalyzerAgent.analyze agent.python agent.settings agent.openai
      enriched).Obeys recording [] fun recorded _ => recorded = [] :=
    fun enriched => obeys_of_isAdmin (isAdmin_analyze _ _ _ enriched)
  refine (obeys_of_isAdmin (isAdmin_pureOrRaise _)).bind ?_ fun _ _ h => h
  rintro _ enriched rfl
  refine (hanalyze enriched).bind ?_ fun _ _ h => h
  rintro _ analysis rfl
  exact hresolve enriched analysis

/-- What a thread has recorded. -/
def recordsOf (t : Thread AgentOp AgentOp.Reply PyError PipelineCall) : List AgentRunResult :=
  t.history.filterMap fun event =>
    match event.op with
    | .record result => some result
    | .admin _ => none

theorem loc_recording (t : Thread AgentOp AgentOp.Reply PyError PipelineCall) :
    t.loc recording (fun _ => []) = recordsOf t := by
  obtain ⟨tag, history, prog⟩ := t
  show history.foldl _ [] = history.filterMap _
  induction history using List.reverseRecOn with
  | nil => rfl
  | append_singleton history event ih =>
      rw [List.foldl_append, List.filterMap_append, ih]
      obtain ⟨_ | _, _⟩ := event
      · exact (List.append_nil _).symm
      · rfl

variable {labels : List PipelineLabel} {p q : PipelinePool}

/-- The calls that have come to their end without an exception are those that have recorded a
result, and they have recorded one. -/
theorem returned_iff_recorded (h : Run (Pool.Step pipelines) ⟨[], []⟩ labels p)
    {t : Thread AgentOp AgentOp.Reply PyError PipelineCall} (ht : t ∈ p.threads) :
    t.prog = .done (.ok ()) ↔ ∃ result, recordsOf t = [result] := by
  have hobeys : ∀ t ∈ p.threads, t.prog.Obeys recording (t.loc recording fun _ => [])
      fun recorded ending => ending = .ok () ↔ ∃ result, recorded = [result] := by
    refine h.invariant (fun p => ∀ t ∈ p.threads, t.prog.Obeys recording
      (t.loc recording fun _ => []) fun recorded ending =>
        ending = .ok () ↔ ∃ result, recorded = [result]) ?_ (by simp)
    intro p label q _ hp hstep
    refine Pool.obeys_step (fun call _ => ?_) ?_ hstep hp
    · refine (processIncident_records call.agent call.incident).bind ?_ ?_
      · rintro _ result rfl
        exact iff_of_true rfl ⟨result, rfl⟩
      · rintro _ e rfl
        exact iff_of_false (by rintro ⟨⟩) (by rintro ⟨_, ⟨⟩⟩)
    · rintro client (_ | _) history
      · trivial
      · rfl
  have hthread := hobeys t ht
  rw [loc_recording] at hthread
  cases hprog : t.prog with
  | done ending =>
      rw [hprog] at hthread
      rw [Prog.done.injEq]
      exact hthread
  | call op next =>
      -- a call with an operation left has recorded nothing
      rw [hprog] at hthread
      have hnothing : recordsOf t = [] := hthread.1
      rw [hnothing]
      exact iff_of_false (by rintro ⟨⟩) (by rintro ⟨_, ⟨⟩⟩)

/-! ## What is kept -/

theorem rtake_rtake {α : Type} (m n : ℕ) (list : List α) :
    (list.rtake n).rtake m = list.rtake (min m n) := by
  rw [List.rtake, List.rtake, List.rtake, List.drop_drop, List.length_drop]
  congr 1
  omega

/-- What has been pushed out before does not matter for what is kept. -/
theorem rtake_concat_rtake {α : Type} (n : ℕ) (list : List α) (a : α) :
    (list.rtake n ++ [a]).rtake n = (list ++ [a]).rtake n := by
  cases n with
  | zero => rw [List.rtake_zero, List.rtake_zero]
  | succ n =>
      rw [List.rtake_concat_succ, List.rtake_concat_succ, rtake_rtake,
        Nat.min_eq_left (Nat.le_succ n)]

theorem appendHistory_eq_rtake (history : List AgentRunResult) (result : AgentRunResult) :
    appendHistory history result = (history ++ [result]).rtake maxHistory := rfl

theorem foldl_appendHistory (results : List AgentRunResult) :
    results.foldl appendHistory [] = results.rtake maxHistory := by
  induction results using List.reverseRecOn with
  | nil => exact (List.rtake_nil _).symm
  | append_singleton results result ih =>
      rw [List.foldl_append, ih, List.foldl_cons, List.foldl_nil, appendHistory_eq_rtake,
        rtake_concat_rtake]

/-- A step appends what it records, and does nothing else to the history. -/
theorem store_step {label : PipelineLabel} (h : Pool.Step pipelines p label q) :
    q.store = (recordedBy label).toList.foldl appendHistory p.store := by
  cases h with
  | start call => rfl
  | @perform history before after t op next client hprog =>
      cases op <;> rfl
  | stop t => rfl

theorem store_run (h : Run (Pool.Step pipelines) p labels q) :
    q.store = (completed labels).foldl appendHistory p.store := by
  induction h with
  | nil p => rfl
  | @cons p mid q label labels hstep _ ih =>
      rw [ih, store_step hstep, ← List.foldl_append]
      congr 1
      rw [completed, completed, List.filterMap_cons]
      cases recordedBy label <;> rfl

/-! ## What is returned -/

/-- A positive limit takes the end of the history. -/
theorem sliceFrom_neg {α : Type} {limit : ℕ} (hlimit : 0 < limit) (list : List α) :
    sliceFrom (-limit) list = list.rtake limit := by
  rw [sliceFrom, List.rtake, if_pos (by omega)]
  congr 1
  omega

/-- The limit 0 takes the whole history. -/
theorem sliceFrom_zero {α : Type} (list : List α) : sliceFrom 0 list = list := rfl

/-- The history is the end of all results, whatever the limit.  For the limit 0 a query returns
all of it, where it should return nothing; for any other it returns the end of the history. -/
theorem history_exact_iff (h : Run (Pool.Step pipelines) ⟨[], []⟩ labels p) (limit : ℕ) :
    (∀ t ∈ p.threads, t.prog = .done (.ok ()) ↔ ∃ result, recordsOf t = [result]) ∧
      p.store = (completed labels).rtake 100 ∧
      (getHistory limit p.store = ((completed labels).rtake (min limit 100)).reverse ↔
        1 ≤ limit ∨ completed labels = []) := by
  have hstore : p.store = (completed labels).rtake 100 :=
    (store_run h).trans (foldl_appendHistory (completed labels))
  refine ⟨fun t ht => returned_iff_recorded h ht, hstore, ?_⟩
  rw [getHistory, List.reverse_inj, hstore]
  rcases Nat.eq_zero_or_pos limit with rfl | hlimit
  · rw [Nat.cast_zero, neg_zero, sliceFrom_zero, Nat.zero_min, List.rtake_zero, List.rtake,
      List.drop_eq_nil_iff, ← List.length_eq_zero_iff]
    omega
  · rw [sliceFrom_neg hlimit, rtake_rtake]
    exact iff_of_true rfl (.inl hlimit)

/-! ## One run -/

instance (call : PipelineCall) (history : List AgentRunResult) :
    Decidable (pipelines.Enabled call history) := isTrue trivial

/-- The report of a failed job is processed. -/
def processOnce : List (Pool.Command PipelineCall JobQueueClient) :=
  .start ⟨bareAgent {}, failedJob⟩ ::
    List.replicate 3 (.perform 0 (repliesWith fun _ => .ok none))

theorem exists_run_processOnce :
    ∃ labels p, Run (Pool.Step pipelines) ⟨[], []⟩ labels p ∧ p.store.length = 1 := by
  have hschedule : (Pool.schedule pipelines (fun _ _ => True) processOnce
      ⟨[], []⟩).map (fun p => p.store.length) = some 1 := by decide +kernel
  obtain ⟨labels, p, hrun, hlength⟩ := Pool.exists_run_of_schedule hschedule
  exact ⟨labels, p, hrun.mono fun _ _ _ hstep => hstep.1, hlength⟩

theorem history_exact_iff_processOnce :
    ∃ labels p, Run (Pool.Step pipelines) ⟨[], []⟩ labels p ∧ p.store.length = 1 ∧
      getHistory 20 p.store = ((completed labels).rtake 20).reverse := by
  obtain ⟨labels, p, hrun, hlength⟩ := exists_run_processOnce
  exact ⟨labels, p, hrun, hlength, (history_exact_iff hrun 20).2.2.mpr (.inl (by decide))⟩

/-- A query for no results gets the one there is. -/
theorem getHistory_zero_processOnce :
    ∃ labels p, Run (Pool.Step pipelines) ⟨[], []⟩ labels p ∧
      (getHistory 0 p.store).length = 1 ∧
      getHistory 0 p.store ≠ ((completed labels).rtake (min 0 100)).reverse := by
  obtain ⟨labels, p, hrun, hlength⟩ := exists_run_processOnce
  have hquery : (getHistory 0 p.store).length = 1 := by
    rw [getHistory, neg_zero, sliceFrom_zero, List.length_reverse, hlength]
  refine ⟨labels, p, hrun, hquery, ?_⟩
  intro hnone
  rw [hnone, Nat.zero_min, List.rtake_zero] at hquery
  cases hquery

end AiAgent

end JobQueue
