import JobQueue.Agent.Pipeline

/-!
# Escalation

A run escalates a failed execution only where the plan was executed automatically; elsewhere
it goes by the name of the action.  The verification of a job is not automatic and can fail,
and an action without a policy of its own gets the policy of `ALERT_OPERATOR` but not its
name.
-/

namespace JobQueue

namespace AiAgent

open Json

/-- The named actions. -/
def actionNames : List CodePoints :=
  ACTION_POLICY.map Prod.fst

/-- Nothing unresolved goes unescalated. -/
structure Escalates (result : AgentRunResult) : Prop where
  failure : result.execution.success = false → result.escalated = true
  unknown : result.plan.action ∉ actionNames → result.escalated = true

/-- The job is not found, or not in a settled state. -/
def Unsettled (client : JobQueueClient) (job_id : CodePoints) : Prop :=
  ∃ found, client (.get_job job_id) = .ok found ∧
    (found.any fun job => ExecutorAgent.settled (ExecutorAgent.statusOf job)) = false

theorem unsettled_iff {client : JobQueueClient} {job_id : CodePoints} {found : Option Dict}
    (h : client (.get_job job_id) = .ok found) :
    Unsettled client job_id ↔
      (found.any fun job => ExecutorAgent.settled (ExecutorAgent.statusOf job)) = false := by
  constructor
  · rintro ⟨found', hfound', hnone⟩
    obtain rfl := Except.ok.inj (h.symm.trans hfound')
    exact hnone
  · exact fun hnone => ⟨found, h, hnone⟩

/-- What gets past the escalation: an action without a name, and an unsettled job. -/
def GoesUnescalated (settings : Settings) (client : JobQueueClient) (action : CodePoints)
    (job : Option CodePoints) : Prop :=
  action ∉ actionNames ∨
    (settings.dry_run = false ∧ action = VERIFY_RETRY_OR_FINAL_STATE ∧
      ∃ job_id, job = some job_id ∧ Unsettled client job_id)

theorem mem_actionNames_of_remedy {action : CodePoints} {call : AdminCall}
    (h : remedy action = some call) : action ∈ actionNames := by
  rcases remedy_eq_some_iff.mp h with ⟨rfl, -⟩ | ⟨rfl, -⟩ <;> decide +kernel

theorem verify_mem_actionNames : VERIFY_RETRY_OR_FINAL_STATE ∈ actionNames := by
  decide +kernel

theorem remedy_verify : remedy VERIFY_RETRY_OR_FINAL_STATE = none := by
  decide +kernel

section Resolve

variable (agent : AgentOrchestrator) (client : JobQueueClient) (history : List AgentRunResult)
  {enriched : IncidentPayload} {analysis : AnalysisResult} {execution : ExecutionResult}

theorem escalated_of_remedy {call : AdminCall}
    (hremedy : remedy (plannedAction agent.python enriched analysis) = some call)
    (hauto : (agent.planFor enriched analysis).auto_execute = true) :
    (agent.concluded enriched analysis execution).escalated = !execution.success := by
  have hplan := agent.planned_planFor enriched analysis
  have hendpoint : ((agent.planFor enriched analysis).endpoint.getD []).isEmpty = false := by
    rw [endpoint_of_remedy hremedy hplan.endpoint_eq]
    split_ifs <;> rfl
  unfold AgentOrchestrator.concluded
  dsimp only
  rw [hauto, hendpoint]
  rfl

theorem escalated_of_no_remedy
    (hremedy : remedy (plannedAction agent.python enriched analysis) = none) :
    (agent.concluded enriched analysis execution).escalated =
      decide (plannedAction agent.python enriched analysis ∈
        [ALERT_OPERATOR, PAUSE_AND_ESCALATE_JOB_TYPE]) := by
  have hplan := agent.planned_planFor enriched analysis
  have hauto : (agent.planFor enriched analysis).auto_execute = false := by
    rw [hplan.auto_execute_eq, (policyFor_of_no_remedy hremedy).2]
    rfl
  unfold AgentOrchestrator.concluded
  dsimp only
  rw [hauto, hplan.action_eq]
  rfl

/-- An action without a name is not escalated. -/
theorem escalated_of_unknown
    (h : plannedAction agent.python enriched analysis ∉ actionNames) :
    (agent.concluded enriched analysis execution).escalated = false := by
  have hremedy : remedy (plannedAction agent.python enriched analysis) = none := by
    by_contra hsome
    obtain ⟨call, hcall⟩ := Option.ne_none_iff_exists'.mp hsome
    exact h (mem_actionNames_of_remedy hcall)
  rw [escalated_of_no_remedy agent hremedy, decide_eq_false_iff_not]
  have hnames : [ALERT_OPERATOR, PAUSE_AND_ESCALATE_JOB_TYPE] ⊆ actionNames := by
    decide +kernel
  exact fun hmem => h (hnames hmem)

/-- The result of a run of a known execution is the only one. -/
theorem escalates_of_run_iff
    (h : Prog.run client.handle
      (ExecutorAgent.execute agent.python agent.settings (agent.planFor enriched analysis))
      history = (.ok execution, history)) :
    (∀ result, (Prog.run client.handle (agent.resolve enriched analysis) history).1 =
        .ok result → Escalates result) ↔
      Escalates (agent.concluded enriched analysis execution) := by
  rw [agent.run_resolve h]
  exact ⟨fun hall => hall _ rfl, fun hone result hresult => Except.ok.inj hresult ▸ hone⟩

/-- A run that has succeeded has to escalate an action without a name only. -/
theorem escalates_of_success_iff (hsuccess : execution.success = true) :
    Escalates (agent.concluded enriched analysis execution) ↔
      plannedAction agent.python enriched analysis ∈ actionNames := by
  have hplan := agent.planned_planFor enriched analysis
  constructor
  · intro h
    by_contra hunknown
    have hescalated := h.unknown (by
      show (agent.planFor enriched analysis).action ∉ actionNames
      rwa [hplan.action_eq])
    rw [escalated_of_unknown agent hunknown] at hescalated
    contradiction
  · intro h
    refine ⟨fun hfailed => ?_, fun hunknown => ?_⟩
    · change execution.success = false at hfailed
      rw [hsuccess] at hfailed
      contradiction
    · change (agent.planFor enriched analysis).action ∉ actionNames at hunknown
      rw [hplan.action_eq] at hunknown
      exact absurd h hunknown

/-- The verification of a job leaves a failure unescalated exactly for an unsettled job. -/
theorem escalates_resolve_of_verify (hdry : agent.settings.dry_run = false)
    (haction : plannedAction agent.python enriched analysis = VERIFY_RETRY_OR_FINAL_STATE) :
    (∀ result, (Prog.run client.handle (agent.resolve enriched analysis) history).1 =
        .ok result → Escalates result) ↔
      ¬ ∃ job_id, jobToVerify agent.python (agent.planFor enriched analysis) = some job_id ∧
        Unsettled client job_id := by
  have hplan := agent.planned_planFor enriched analysis
  have hnamed : plannedAction agent.python enriched analysis ∈ actionNames := by
    rw [haction]
    exact verify_mem_actionNames
  have hexecute := execute_of_verify agent.python hdry (hplan.action_eq.trans haction)
  have hrun := run_verifyJobState agent.python (agent.planFor enriched analysis) client history
  rw [← hexecute] at hrun
  cases hjob : jobToVerify agent.python (agent.planFor enriched analysis) with
  | none =>
      rw [hjob] at hrun
      obtain ⟨execution, hexecution, hsuccess⟩ := hrun
      rw [escalates_of_run_iff agent client history hexecution,
        escalates_of_success_iff agent hsuccess]
      simp [hnamed]
  | some job_id =>
      rw [hjob] at hrun
      dsimp only at hrun
      cases hreply : client (.get_job job_id) with
      | error e =>
          rw [hreply] at hrun
          rw [agent.run_resolve_error hrun]
          simp [Unsettled, hreply]
      | ok found =>
          rw [hreply] at hrun
          obtain ⟨execution, hexecution, hsuccess⟩ := hrun
          rw [escalates_of_run_iff agent client history hexecution]
          have hunsettled : (¬ ∃ job_id', some job_id = some job_id' ∧ Unsettled client job_id') ↔
              execution.success = true := by
            rw [hsuccess]
            simp [unsettled_iff hreply]
          rw [hunsettled]
          constructor
          · intro hescalates
            by_contra hfailed
            -- an escalation would need an action that is escalated by its name
            have hescalated := hescalates.failure (Bool.eq_false_iff.mpr hfailed)
            rw [escalated_of_no_remedy agent (haction ▸ remedy_verify), haction,
              decide_eq_true_iff] at hescalated
            exact absurd hescalated (by decide +kernel)
          · exact fun hdone => (escalates_of_success_iff agent hdone).mpr hnamed

theorem mem_actionNames_of_auto (hauto : (agent.planFor enriched analysis).auto_execute = true) :
    plannedAction agent.python enriched analysis ∈ actionNames := by
  obtain ⟨⟨call, hremedy⟩, -⟩ := (agent.planned_planFor enriched analysis).of_auto hauto
  exact mem_actionNames_of_remedy hremedy

/-- A plan that was executed automatically is escalated if it fails. -/
theorem escalates_resolve_of_auto (hdry : agent.settings.dry_run = false)
    (hauto : (agent.planFor enriched analysis).auto_execute = true) :
    ∀ result, (Prog.run client.handle (agent.resolve enriched analysis) history).1 =
      .ok result → Escalates result := by
  have hplan := agent.planned_planFor enriched analysis
  obtain ⟨⟨call, hremedy⟩, -⟩ := hplan.of_auto hauto
  obtain ⟨outcome, houtcome⟩ := execute_of_auto agent.python hplan hdry hauto hremedy
  have hrun : Prog.run client.handle
      (ExecutorAgent.execute agent.python agent.settings (agent.planFor enriched analysis))
      history = (.ok (outcome (client call)), history) := by
    rw [houtcome]
    rfl
  rw [escalates_of_run_iff agent client history hrun]
  refine ⟨fun hfailed => ?_, fun hunknown => ?_⟩
  · rw [escalated_of_remedy agent hremedy hauto]
    exact congrArg not hfailed
  · change (agent.planFor enriched analysis).action ∉ actionNames at hunknown
    rw [hplan.action_eq] at hunknown
    exact absurd (mem_actionNames_of_auto agent hauto) hunknown

/-- From any analysis on, a model's included, a run escalates what it has to unless the action
has no name or a job cannot be verified. -/
theorem escalates_resolve_iff :
    (∀ result, (Prog.run client.handle (agent.resolve enriched analysis) history).1 =
        .ok result → Escalates result) ↔
      ¬ GoesUnescalated agent.settings client (plannedAction agent.python enriched analysis)
        (jobToVerify agent.python (agent.planFor enriched analysis)) := by
  have hplan := agent.planned_planFor enriched analysis
  by_cases hquiet : agent.settings.dry_run = true ∨
      ((agent.planFor enriched analysis).action ≠ VERIFY_RETRY_OR_FINAL_STATE ∧
        (agent.planFor enriched analysis).auto_execute = false)
  · obtain ⟨execution, hexecution, hsuccess⟩ := execute_of_quiet agent.python hquiet
    rw [escalates_of_run_iff agent client history (by rw [hexecution]; rfl),
      escalates_of_success_iff agent hsuccess]
    rw [hplan.action_eq] at hquiet
    constructor
    · rintro hnamed (hunknown | ⟨hdry, hverify, -⟩)
      · exact hunknown hnamed
      · rcases hquiet with hdry' | ⟨hother, -⟩
        · rw [hdry] at hdry'
          contradiction
        · exact hother hverify
    · intro h
      by_contra hunknown
      exact h (.inl hunknown)
  · rw [not_or, not_and, Bool.not_eq_true, Bool.not_eq_false, hplan.action_eq] at hquiet
    obtain ⟨hdry, hother⟩ := hquiet
    by_cases hverify : plannedAction agent.python enriched analysis = VERIFY_RETRY_OR_FINAL_STATE
    · rw [escalates_resolve_of_verify agent client history hdry hverify]
      simp [GoesUnescalated, hdry, hverify, verify_mem_actionNames]
    · have hexecutes := hother hverify
      refine iff_of_true (escalates_resolve_of_auto agent client history hdry hexecutes) ?_
      rintro (hunknown | ⟨-, h, -⟩)
      · exact hunknown (mem_actionNames_of_auto agent hexecutes)
      · exact hverify h

end Resolve

/-! ## The incidents that are escalated -/

/-- The runs for an incident escalate what they have to, exactly when what the incident calls
for once it is enriched does not get past the escalation. -/
theorem escalation_iff (agent : AgentOrchestrator) (client : JobQueueClient)
    (incident : IncidentPayload) (history : List AgentRunResult) :
    (∀ result, (Prog.run client.handle (agent.processIncident incident) history).1 =
        .ok result → Escalates result) ↔
      ∀ enriched, agent.self_healer.enrichIncident (agent.stamp incident) = .ok enriched →
        (∃ impact, impactOf agent.python (severityOf enriched)
          (AgentOrchestrator.healthOf client) = .ok impact) →
        ¬ GoesUnescalated agent.settings client (calledFor agent.python enriched)
          ((jobOf enriched).bind orNone) := by
  have hknown : ∀ enriched analysis, agent.analysed incident client = .ok (enriched, analysis) →
      ((∀ result, (Prog.run client.handle (agent.resolve enriched analysis) history).1 =
          .ok result → Escalates result) ↔
        ¬ GoesUnescalated agent.settings client (calledFor agent.python enriched)
          ((jobOf enriched).bind orNone)) := by
    intro enriched analysis hanalysed
    have hruled := ruled_of_analyzeWithRules
      (AgentOrchestrator.analysed_eq_ok_iff.mp hanalysed).2
    rw [escalates_resolve_iff, hruled.plannedAction, GoesUnescalated, GoesUnescalated]
    refine not_congr (or_congr_right (and_congr_right fun _ => and_congr_right fun haction => ?_))
    rw [agent.jobToVerify_planFor hruled haction]
  rw [agent.run_processIncident, agent.forall_analysed_iff]
  cases hanalysed : agent.analysed incident client with
  | error e => simp
  | ok known =>
      obtain ⟨enriched, analysis⟩ := known
      dsimp only
      rw [hknown enriched analysis hanalysed]
      constructor
      · intro h enriched' analysis' hsame
        obtain ⟨rfl, rfl⟩ := Prod.mk.inj (Except.ok.inj hsame)
        exact h
      · exact fun h => h enriched analysis rfl

/-- A posted incident whose plan names an action the agent does not know. -/
def unknownAction : IncidentPayload where
  incident_id := some (str "i-3")
  type := str "UNKNOWN"
  timestamp := some 0
  self_healer := some {
    incident := {
      type := str "UNKNOWN"
      severity := str "HIGH"
      title := []
      job_id := []
      job_type := []
      evidence := [] }
    plan := {
      strategy := []
      action := str "RESTART_CONSUMER"
      dry_run := true
      steps := []
      verification_checks := [] } }

theorem exists_ok_of_any {ε α : Type} (result : Except ε α) (test : α → Bool)
    (h : result.toOption.any test = true) : ∃ a, result = .ok a ∧ test a = true := by
  cases result with
  | error e => contradiction
  | ok a => exact ⟨a, rfl, h⟩

/-- A failed verification and an unknown action both stay with the agent. -/
theorem failure_and_unknown_action_unescalated :
    (∃ result, (Prog.run (repliesWith fun _ => .ok none).handle
        ((bareAgent {}).processIncident failedJob) []).1 = .ok result ∧
      result.execution.success = false ∧ ¬ Escalates result) ∧
    ∃ result, (Prog.run (repliesWith fun _ => .ok none).handle
        ((bareAgent {}).processIncident unknownAction) []).1 = .ok result ∧
      result.plan.action ∉ actionNames ∧ ¬ Escalates result := by
  constructor
  · obtain ⟨result, hresult, htest⟩ := exists_ok_of_any
      (Prog.run (repliesWith fun _ => .ok none).handle
        ((bareAgent {}).processIncident failedJob) []).1
      (fun result => !result.execution.success && !result.escalated) (by decide +kernel)
    simp only [Bool.and_eq_true, Bool.not_eq_true'] at htest
    refine ⟨result, hresult, htest.1, fun hescalates => ?_⟩
    rw [hescalates.failure htest.1] at htest
    exact absurd htest.2 (by decide)
  · obtain ⟨result, hresult, htest⟩ := exists_ok_of_any
      (Prog.run (repliesWith fun _ => .ok none).handle
        ((bareAgent {}).processIncident unknownAction) []).1
      (fun result => decide (result.plan.action ∉ actionNames) && !result.escalated)
      (by decide +kernel)
    simp only [Bool.and_eq_true, Bool.not_eq_true', decide_eq_true_iff] at htest
    refine ⟨result, hresult, htest.1, fun hescalates => ?_⟩
    rw [hescalates.unknown htest.1] at htest
    exact absurd htest.2 (by decide)

end AiAgent

end JobQueue
