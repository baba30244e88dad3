import JobQueue.Agent.Pipeline

/-!
# The record of a run

A run that ends with a result appends it to the history.  Three exceptions end a run without
one: evidence that cannot be written to the self-healer, a count of overdue jobs that is no
number, and whatever the look-up of a job raises, which is the one call that the executor
does not wrap.
-/

namespace JobQueue

namespace AiAgent

open Json

/-! ## The history -/

/-- A result is appended; more than 100 results push out the oldest. -/
theorem appendHistory_eq (history : List AgentRunResult) (result : AgentRunResult) :
    appendHistory history result = history.drop (history.length + 1 - maxHistory) ++ [result] := by
  have hle : history.length + 1 - maxHistory ≤ history.length := by
    unfold maxHistory
    omega
  rw [appendHistory, List.length_append, List.length_singleton, List.drop_append_of_le_length hle]

/-! ## The executor -/

section Execute

variable (python : Python) (settings : Settings) (plan : PlannedAction)
  (client : JobQueueClient) (history : List AgentRunResult)

/-- No admin call touches the history. -/
theorem run_dispatch : ∃ reply,
    Prog.run client.handle (ExecutorAgent.dispatch python plan) history = (reply, history) := by
  unfold ExecutorAgent.dispatch
  dsimp only
  split_ifs
  · exact ⟨_, rfl⟩
  · exact ⟨_, rfl⟩
  · cases ExecutorAgent.target python plan "job_id" (plan.endpoint.getD []) <;> exact ⟨_, rfl⟩
  · cases ExecutorAgent.target python plan "job_type" (plan.endpoint.getD []) <;> exact ⟨_, rfl⟩
  · exact ⟨_, rfl⟩

/-- Every exception of a dispatched action becomes a result. -/
theorem execute_returns_of_other
    (h : ¬ (settings.dry_run = false ∧ plan.action = VERIFY_RETRY_OR_FINAL_STATE)) :
    ∃ execution, Prog.run client.handle (ExecutorAgent.execute python settings plan) history =
      (.ok execution, history) := by
  unfold ExecutorAgent.execute
  split_ifs with hdry hverify
  · exact ⟨_, rfl⟩
  · exact absurd ⟨Bool.eq_false_iff.mpr hdry, hverify⟩ h
  · exact ⟨_, rfl⟩
  · exact ⟨_, rfl⟩
  · exact ⟨_, rfl⟩
  · obtain ⟨reply, hreply⟩ := run_dispatch python plan client history
    rw [Prog.run_tryCatch, Prog.bind_eq_bind, Prog.run_bind, hreply]
    cases reply with
    | error e => exact ⟨_, rfl⟩
    | ok result =>
        dsimp only [Agent.pureOrRaise, Prog.run_done]
        cases ExecutorAgent.resultOf python plan result <;> exact ⟨_, rfl⟩

/-- The look-up of the job that the plan asks to verify raises. -/
def LookupRaises (job : Option CodePoints) : Prop :=
  ∃ job_id, job = some job_id ∧ ∃ e, client (.get_job job_id) = .error e

theorem verifyJobState_run_cases :
    (∃ execution, Prog.run client.handle (ExecutorAgent.verifyJobState python plan) history =
        (.ok execution, history)) ∧ ¬ LookupRaises client (jobToVerify python plan) ∨
      (∃ e, Prog.run client.handle (ExecutorAgent.verifyJobState python plan) history =
        (.error e, history)) ∧ LookupRaises client (jobToVerify python plan) := by
  have hrun := run_verifyJobState python plan client history
  cases hjob : jobToVerify python plan with
  | none =>
      rw [hjob] at hrun
      obtain ⟨execution, hexecution, -⟩ := hrun
      exact .inl ⟨⟨execution, hexecution⟩, by simp [LookupRaises]⟩
  | some job_id =>
      rw [hjob] at hrun
      dsimp only at hrun
      cases hreply : client (.get_job job_id) with
      | error e =>
          rw [hreply] at hrun
          exact .inr ⟨⟨e, hrun⟩, job_id, rfl, e, hreply⟩
      | ok found =>
          rw [hreply] at hrun
          obtain ⟨execution, hexecution, -⟩ := hrun
          exact .inl ⟨⟨execution, hexecution⟩, by simp [LookupRaises, hreply]⟩

/-- The execution of a plan returns, or it is the verification of a job whose look-up
raises. -/
theorem execute_run_cases :
    (∃ execution, Prog.run client.handle (ExecutorAgent.execute python settings plan) history =
        (.ok execution, history)) ∧
      ¬ (settings.dry_run = false ∧ plan.action = VERIFY_RETRY_OR_FINAL_STATE ∧
        LookupRaises client (jobToVerify python plan)) ∨
    (∃ e, Prog.run client.handle (ExecutorAgent.execute python settings plan) history =
        (.error e, history)) ∧
      settings.dry_run = false ∧ plan.action = VERIFY_RETRY_OR_FINAL_STATE ∧
        LookupRaises client (jobToVerify python plan) := by
  by_cases h : settings.dry_run = false ∧ plan.action = VERIFY_RETRY_OR_FINAL_STATE
  · rw [execute_of_verify python h.1 h.2]
    rcases verifyJobState_run_cases python plan client history with
      ⟨hreturns, hfound⟩ | ⟨hraises, hlookup⟩
    · exact .inl ⟨hreturns, fun hall => hfound hall.2.2⟩
    · exact .inr ⟨hraises, h.1, h.2, hlookup⟩
  · exact .inl ⟨execute_returns_of_other python settings plan client history h,
      fun hall => h ⟨hall.1, hall.2.1⟩⟩

/-- The executor returns for a plan unless it looks up a job and the look-up raises. -/
theorem execute_returns_iff :
    (∃ execution, Prog.run client.handle (ExecutorAgent.execute python settings plan) history =
        (.ok execution, history)) ↔
      ¬ (settings.dry_run = false ∧ plan.action = VERIFY_RETRY_OR_FINAL_STATE ∧
        LookupRaises client (jobToVerify python plan)) := by
  rcases execute_run_cases python settings plan client history with
    ⟨hreturns, hcond⟩ | ⟨⟨e, hraises⟩, hcond⟩
  · exact iff_of_true hreturns hcond
  · rw [hraises]
    simp [hcond]

end Execute

/-! ## The pipeline -/

/-- An incident leaves its record: a result comes back, and it is the one record that the
history is longer by. -/
def LeavesRecord (history : List AgentRunResult)
    (ending : Except PyError AgentRunResult × List AgentRunResult) : Prop :=
  ∃ result, ending = (.ok result, history.drop (history.length + 1 - maxHistory) ++ [result])

section Pipeline

variable (agent : AgentOrchestrator) (client : JobQueueClient) (incident : IncidentPayload)
  (history : List AgentRunResult)

/-- From any analysis on, a model's included, a run leaves a record when the executor
returns. -/
theorem leavesRecord_resolve_iff (enriched : IncidentPayload) (analysis : AnalysisResult) :
    LeavesRecord history (Prog.run client.handle (agent.resolve enriched analysis) history) ↔
      ¬ (agent.settings.dry_run = false ∧
        plannedAction agent.python enriched analysis = VERIFY_RETRY_OR_FINAL_STATE ∧
        LookupRaises client (jobToVerify agent.python (agent.planFor enriched analysis))) := by
  rw [← (agent.planned_planFor enriched analysis).action_eq]
  rcases execute_run_cases agent.python agent.settings (agent.planFor enriched analysis) client
    history with ⟨⟨execution, hexecution⟩, hcond⟩ | ⟨⟨e, hraises⟩, hcond⟩
  · rw [agent.run_resolve hexecution, appendHistory_eq]
    exact iff_of_true ⟨_, rfl⟩ hcond
  · rw [agent.run_resolve_error hraises]
    simp [LeavesRecord, hcond]

/-- The impact of an incident can be told: nothing is compared, or a number is. -/
def ImpactTold (severity : CodePoints) (health : Option Dict) : Prop :=
  agent.python.upper severity = str "CRITICAL" ∨ agent.python.upper severity = str "HIGH" ∨
    ∀ overdue, get (health.getD []) "overdueScheduled" = some overdue →
      (∃ b, overdue = .bool b) ∨ ∃ literal, overdue = .number literal

theorem exists_impactOf_iff (severity : CodePoints) (health : Option Dict) :
    (∃ impact, impactOf agent.python severity health = .ok impact) ↔
      ImpactTold agent severity health := by
  unfold impactOf ImpactTold
  rw [← or_assoc]
  split_ifs with hsevere
  · exact iff_of_true ⟨_, rfl⟩ (.inl hsevere)
  · rw [or_iff_right hsevere]
    cases get (health.getD []) "overdueScheduled" with
    | none => exact iff_of_true ⟨_, rfl⟩ (by simp)
    | some overdue =>
        have hpositive : (∃ b, agent.python.positive overdue = .ok b) ↔
            (∃ b, overdue = .bool b) ∨ ∃ literal, overdue = .number literal := by
          cases overdue <;> simp [Python.positive]
        simp only [Option.some.injEq, forall_eq', ← hpositive]
        cases agent.python.positive overdue with
        | error e => exact iff_of_false (by rintro ⟨_, ⟨⟩⟩) (by rintro ⟨_, ⟨⟩⟩)
        | ok b => cases b <;> exact iff_of_true ⟨_, rfl⟩ ⟨_, rfl⟩

/-- An incident leaves its record exactly when it can be enriched, its impact can be told and
no look-up of a job raises; the executor returns for a plan unless the look-up raises. -/
theorem leaves_record_iff :
    (LeavesRecord history
        (Prog.run client.handle (agent.processIncident incident) history) ↔
      ∃ enriched, agent.self_healer.enrichIncident (agent.stamp incident) = .ok enriched ∧
        ImpactTold agent (severityOf enriched) (AgentOrchestrator.healthOf client) ∧
        ¬ (agent.settings.dry_run = false ∧
          calledFor agent.python enriched = VERIFY_RETRY_OR_FINAL_STATE ∧
          LookupRaises client ((jobOf enriched).bind orNone))) ∧
    ∀ plan, (∃ execution, Prog.run client.handle
        (ExecutorAgent.execute agent.python agent.settings plan) history =
          (.ok execution, history)) ↔
      ¬ (agent.settings.dry_run = false ∧ plan.action = VERIFY_RETRY_OR_FINAL_STATE ∧
        LookupRaises client (jobToVerify agent.python plan)) := by
  refine ⟨?_, fun plan => execute_returns_iff agent.python agent.settings plan client history⟩
  simp only [← exists_impactOf_iff]
  rw [agent.run_processIncident, agent.exists_analysed_and_iff]
  cases hanalysed : agent.analysed incident client with
  | error e => simp [LeavesRecord]
  | ok known =>
      obtain ⟨enriched, analysis⟩ := known
      have hruled := ruled_of_analyzeWithRules
        (AgentOrchestrator.analysed_eq_ok_iff.mp hanalysed).2
      dsimp only
      -- the job of the plan is that of the incident, as long as it is to be verified
      have hjob : (agent.settings.dry_run = false ∧
          calledFor agent.python enriched = VERIFY_RETRY_OR_FINAL_STATE ∧
          LookupRaises client (jobToVerify agent.python (agent.planFor enriched analysis))) ↔
          (agent.settings.dry_run = false ∧
            calledFor agent.python enriched = VERIFY_RETRY_OR_FINAL_STATE ∧
            LookupRaises client ((jobOf enriched).bind orNone)) := by
        refine and_congr_right fun _ => and_congr_right fun haction => ?_
        rw [agent.jobToVerify_planFor hruled haction]
      rw [leavesRecord_resolve_iff, hruled.plannedAction, hjob]
      constructor
      · exact fun h => ⟨enriched, analysis, rfl, h⟩
      · rintro ⟨enriched', analysis', hsame, h⟩
        obtain ⟨rfl, rfl⟩ := Prod.mk.inj (Except.ok.inj hsame)
        exact h

end Pipeline

/-! ## A job the application does not know -/

/-- The application answers a missing job with an empty body, which is no JSON document. -/
def missingJob : JobQueueClient :=
  repliesWith fun _ => .error (.valueError (str "Expecting value: line 1 column 1 (char 0)"))

/-- The report of a failed job that was deleted since leaves no record. -/
theorem missing_job_unrecorded :
    ¬ LeavesRecord []
      (Prog.run missingJob.handle ((bareAgent {}).processIncident failedJob) []) := by
  rintro ⟨result, hrun⟩
  have hraised : (Prog.run missingJob.handle ((bareAgent {}).processIncident failedJob)
      []).1.toOption.isNone = true := by
    decide +kernel
  rw [hrun] at hraised
  contradiction

end AiAgent

end JobQueue
