import JobQueue.Agent.Pipeline

/-!
# The gate before a remedy

A plan acts on the system only if its action has a remedy, neither switch of the settings is
off and its confidence is not below the minimum.  For a minimum that is not a number nothing
is below, so such a minimum does not close the gate.
-/

namespace JobQueue

namespace AiAgent

/-! ## Mutating calls -/

def AdminCall.mutates : AdminCall → Bool
  | get_detailed_health => false
  | get_job _ => false
  | _ => true

/-- The mutating calls among the operations. -/
def mutationsOf (op : AgentOp) (_ : List AgentRunResult) : List AdminCall :=
  match op with
  | .admin call => if call.mutates then [call] else []
  | .record _ => []

/-- The mutating calls of an execution, in order. -/
def mutations {α : Type} (client : JobQueueClient) (p : Agent α) (history : List AgentRunResult) :
    List AdminCall :=
  Prog.collect client.handle mutationsOf p history

/-- What has to hold of the settings and the plan for the calls. -/
structure Permitted (settings : Settings) (plan : PlannedAction) (calls : List AdminCall) :
    Prop where
  dry_run : settings.dry_run = false
  auto_execute : settings.auto_execute = true
  confidence : plan.confidence.1.ge settings.min_confidence = true
  calls : (plan.action = RECOVER_MISSED_SCHEDULE_WINDOWS ∧ calls = [.recover_watcher]) ∨
    (plan.action = RECONCILE_REDIS_DELAY_QUEUE ∧ calls = [.reconcile_redis])

/-- A run that has made a mutating call has ended with a plan that permits what it did. -/
def Gated (settings : Settings) (result : Except PyError AgentRunResult)
    (calls : List AdminCall) : Prop :=
  calls ≠ [] → ∃ run, result = .ok run ∧ Permitted settings run.plan calls

/-! ## The executor -/

section Execute

variable (python : Python) (client : JobQueueClient) (history : List AgentRunResult)
  {settings : Settings} {action : CodePoints} {confidence : Confidence} {plan : PlannedAction}

theorem mutations_verifyJobState :
    mutations client (ExecutorAgent.verifyJobState python plan) history = [] := by
  have hspec := verifyJobState_spec python plan
  cases hjob : jobToVerify python plan with
  | none =>
      rw [hjob] at hspec
      obtain ⟨execution, hexecution, -⟩ := hspec
      rw [hexecution]
      rfl
  | some job_id =>
      rw [hjob] at hspec
      obtain ⟨outcome, houtcome, -⟩ := hspec
      rw [houtcome]
      rfl

theorem mutations_execute_of_closed (h : settings.dry_run = true ∨ plan.auto_execute = false) :
    mutations client (ExecutorAgent.execute python settings plan) history = [] := by
  by_cases hquiet : settings.dry_run = true ∨
      (plan.action ≠ VERIFY_RETRY_OR_FINAL_STATE ∧ plan.auto_execute = false)
  · obtain ⟨execution, hexecution, -⟩ := execute_of_quiet python hquiet
    rw [hexecution]
    rfl
  · rw [not_or, not_and, Bool.not_eq_true] at hquiet
    obtain ⟨hdry, hother⟩ := hquiet
    have hauto : plan.auto_execute = false := h.resolve_left (by simp [hdry])
    have haction : plan.action = VERIFY_RETRY_OR_FINAL_STATE := by
      by_contra hne
      exact hother hne hauto
    rw [execute_of_verify python hdry haction, mutations_verifyJobState]

theorem mutations_execute_of_open {call : AdminCall}
    (hplan : Planned settings action confidence plan) (hdry : settings.dry_run = false)
    (hauto : plan.auto_execute = true) (hremedy : remedy action = some call) :
    mutations client (ExecutorAgent.execute python settings plan) history = [call] ∧
      ∃ execution, Prog.run client.handle (ExecutorAgent.execute python settings plan) history =
        (.ok execution, history) := by
  obtain ⟨outcome, houtcome⟩ := execute_of_auto python hplan hdry hauto hremedy
  rw [houtcome]
  refine ⟨?_, outcome (client call), rfl⟩
  rcases remedy_eq_some_iff.mp hremedy with ⟨-, rfl⟩ | ⟨-, rfl⟩ <;> rfl

end Execute

/-! ## The gate -/

section Gate

variable (agent : AgentOrchestrator) (client : JobQueueClient) (incident : IncidentPayload)
  (history : List AgentRunResult)

theorem mutations_resolve (enriched : IncidentPayload) (analysis : AnalysisResult) :
    mutations client (agent.resolve enriched analysis) history =
      mutations client (ExecutorAgent.execute agent.python agent.settings
        (agent.planFor enriched analysis)) history := by
  refine (Prog.collect_bind client.handle mutationsOf _ _ history).trans ?_
  refine (congrArg _ ?_).trans (List.append_nil _)
  generalize Prog.run client.handle (ExecutorAgent.execute agent.python agent.settings
    (PlannerAgent.plan agent.python agent.settings enriched analysis)) history = result
  obtain ⟨_ | _, _⟩ := result <;> rfl

theorem mutations_processIncident :
    mutations client (agent.processIncident incident) history =
      match agent.analysed incident client with
      | .error _ => []
      | .ok (enriched, analysis) =>
          mutations client (agent.resolve enriched analysis) history :=
  agent.collect_processIncident incident client history mutationsOf fun _ => rfl

/-- The incident reaches the plan, and what it calls for has a remedy. -/
def CallsForRemedy : Prop :=
  ∃ enriched, agent.self_healer.enrichIncident (agent.stamp incident) = .ok enriched ∧
    (remedy (calledFor agent.python enriched)).isSome ∧
    ∃ impact, impactOf agent.python (severityOf enriched) (AgentOrchestrator.healthOf client) =
      .ok impact

variable {agent client incident} in
theorem callsForRemedy_iff : CallsForRemedy agent client incident ↔
    ∃ enriched analysis, agent.analysed incident client = .ok (enriched, analysis) ∧
      (remedy (calledFor agent.python enriched)).isSome := by
  rw [← agent.exists_analysed_and_iff]
  exact exists_congr fun enriched => and_congr_right fun _ => and_comm

theorem gated_nil (settings : Settings) (result : Except PyError AgentRunResult) :
    Gated settings result [] :=
  fun h => absurd rfl h

/-- A confidence that is a number is at least the minimum if it is not below it and the
minimum is a number. -/
theorem ge_iff_of_not_lt {a b : PyFloat} (ha : a ≠ .nan) (h : a.lt b = false) :
    a.ge b = true ↔ b ≠ .nan := by
  simp [PyFloat.ge, ha, h]

theorem PyFloat.lt_nan (a : PyFloat) : a.lt .nan = false := by
  cases a <;> rfl

/-- A remedy that is carried out is permitted exactly by a minimum that is a number. -/
theorem gated_resolve_of_open {enriched : IncidentPayload} {analysis : AnalysisResult}
    {call : AdminCall} (hconfidence : analysis.confidence.1 ≠ .nan)
    (hdry : agent.settings.dry_run = false)
    (hexecutes : (agent.planFor enriched analysis).auto_execute = true)
    (hremedy : remedy (plannedAction agent.python enriched analysis) = some call) :
    Gated agent.settings (Prog.run client.handle (agent.resolve enriched analysis) history).1
        (mutations client (agent.resolve enriched analysis) history) ↔
      agent.settings.min_confidence ≠ .nan := by
  have hplan := agent.planned_planFor enriched analysis
  obtain ⟨-, hswitch, hlow⟩ := hplan.of_auto hexecutes
  obtain ⟨hcalls, execution, hexecution⟩ :=
    mutations_execute_of_open agent.python client history hplan hdry hexecutes hremedy
  rw [mutations_resolve, hcalls, agent.run_resolve hexecution]
  constructor
  · intro hgated
    obtain ⟨run, hrun, hpermitted⟩ := hgated (by simp)
    have hge := hpermitted.confidence
    rw [← Except.ok.inj hrun] at hge
    change (agent.planFor enriched analysis).confidence.1.ge _ = true at hge
    rw [hplan.confidence_eq] at hge
    exact (ge_iff_of_not_lt hconfidence hlow).mp hge
  · intro hnumber _
    refine ⟨_, rfl, hdry, hswitch, ?_, ?_⟩
    · show (agent.planFor enriched analysis).confidence.1.ge _ = true
      rw [hplan.confidence_eq]
      exact (ge_iff_of_not_lt hconfidence hlow).mpr hnumber
    · show ((agent.planFor enriched analysis).action = _ ∧ _) ∨
        ((agent.planFor enriched analysis).action = _ ∧ _)
      rw [hplan.action_eq]
      simpa using remedy_eq_some_iff.mp hremedy

/-- The gate holds from any analysis on, a model's included, whose confidence is a number,
unless the minimum is not one. -/
theorem gated_resolve_iff {enriched : IncidentPayload} {analysis : AnalysisResult}
    (hconfidence : analysis.confidence.1 ≠ .nan) :
    Gated agent.settings (Prog.run client.handle (agent.resolve enriched analysis) history).1
        (mutations client (agent.resolve enriched analysis) history) ↔
      ¬ (agent.settings.min_confidence = .nan ∧ agent.settings.dry_run = false ∧
        agent.settings.auto_execute = true ∧
        (remedy (plannedAction agent.python enriched analysis)).isSome) := by
  have hplan := agent.planned_planFor enriched analysis
  by_cases hopen : agent.settings.dry_run = false ∧
      (agent.planFor enriched analysis).auto_execute = true
  · obtain ⟨hdry, hexecutes⟩ := hopen
    obtain ⟨⟨call, hremedy⟩, hswitch, -⟩ := hplan.of_auto hexecutes
    rw [gated_resolve_of_open agent client history hconfidence hdry hexecutes hremedy]
    simp [hdry, hswitch, hremedy]
  · have hclosed : agent.settings.dry_run = true ∨
        (agent.planFor enriched analysis).auto_execute = false := by
      rwa [not_and_or, Bool.not_eq_false, Bool.not_eq_true] at hopen
    rw [mutations_resolve, mutations_execute_of_closed agent.python client history hclosed]
    refine iff_of_true (gated_nil _ _) ?_
    rintro ⟨hnan, hdry, hswitch, hremedy⟩
    obtain ⟨call, hcall⟩ := Option.isSome_iff_exists.mp hremedy
    refine hopen ⟨hdry, ?_⟩
    rw [hplan.auto_execute_eq, (policyFor_of_remedy hcall).1, hswitch, hnan, PyFloat.lt_nan]
    rfl

/-- The gate holds for an incident unless the minimum is not a number, both switches are on
and the incident calls for a remedy. -/
theorem safety_gate_iff :
    Gated agent.settings
        (Prog.run client.handle (agent.processIncident incident) history).1
        (mutations client (agent.processIncident incident) history) ↔
      ¬ (agent.settings.min_confidence = .nan ∧ agent.settings.dry_run = false ∧
        agent.settings.auto_execute = true ∧ CallsForRemedy agent client incident) := by
  rw [mutations_processIncident, agent.run_processIncident, callsForRemedy_iff]
  cases hanalysed : agent.analysed incident client with
  | error e => simp [gated_nil]
  | ok known =>
      obtain ⟨enriched, analysis⟩ := known
      obtain ⟨-, hanalysis⟩ := AgentOrchestrator.analysed_eq_ok_iff.mp hanalysed
      have hruled := ruled_of_analyzeWithRules hanalysis
      dsimp only
      rw [gated_resolve_iff agent client history hruled.confidence, hruled.plannedAction]
      simp

end Gate

/-! ## A minimum that is not a number -/

/-- The settings of a deployment that sets the minimum to `nan`. -/
def nanSettings : Settings := { min_confidence := .nan }

/-- A gap as the watcher reports it. -/
def watcherGap : IncidentPayload where
  incident_id := some (str "i-1")
  type := str "WATCHER_GAP"
  severity := str "HIGH"
  title := str "Watcher heartbeat gap detected"
  evidence := str "Gap exceeded 25s threshold"
  source := str "job-queue-app"
  timestamp := some 0

/-- The watcher is recovered although no confidence is at least `nan`. -/
theorem nan_opens_gate :
    mutations (repliesWith fun _ => .ok none)
        ((bareAgent nanSettings).processIncident watcherGap) [] = [.recover_watcher] ∧
      ¬ Gated nanSettings
        (Prog.run (repliesWith fun _ => .ok none).handle
          ((bareAgent nanSettings).processIncident watcherGap) []).1
        (mutations (repliesWith fun _ => .ok none)
          ((bareAgent nanSettings).processIncident watcherGap) []) := by
  have hcalls : mutations (repliesWith fun _ => .ok none)
      ((bareAgent nanSettings).processIncident watcherGap) [] = [.recover_watcher] := by
    decide +kernel
  refine ⟨hcalls, fun hgated => ?_⟩
  rw [hcalls] at hgated
  obtain ⟨run, -, hpermitted⟩ := hgated (by simp)
  have hge : run.plan.confidence.1.ge .nan = true := hpermitted.confidence
  simp [PyFloat.ge] at hge

end AiAgent

end JobQueue
