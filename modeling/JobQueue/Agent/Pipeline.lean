import JobQueue.Agent.Enrichment
import JobQueue.Lib.Trace
import JobQueue.Model.AgentOrchestrator

/-!
# From an incident to its plan

What each agent hands to the next: the policy of an action, the analysis the pipeline comes
to, the plan it makes of it and what the executor does with a plan.

The timestamp of an incident is set before the analysis, and `json.dumps` does not take a
`datetime`, so the analysis is always the one of the rules.
-/

namespace JobQueue

namespace AiAgent

open Json

/-! ## Policies -/

/-- The admin call that carries an action out. -/
def remedy (action : CodePoints) : Option AdminCall :=
  if action = RECOVER_MISSED_SCHEDULE_WINDOWS then some .recover_watcher
  else if action = RECONCILE_REDIS_DELAY_QUEUE then some .reconcile_redis
  else none

theorem reconcile_ne_recover :
    RECONCILE_REDIS_DELAY_QUEUE ≠ RECOVER_MISSED_SCHEDULE_WINDOWS := by
  decide +kernel

theorem remedy_eq_some_iff {action : CodePoints} {call : AdminCall} :
    remedy action = some call ↔
      (action = RECOVER_MISSED_SCHEDULE_WINDOWS ∧ call = .recover_watcher) ∨
        (action = RECONCILE_REDIS_DELAY_QUEUE ∧ call = .reconcile_redis) := by
  unfold remedy
  split_ifs with hrecover hreconcile
  · subst hrecover
    simp [reconcile_ne_recover.symm, eq_comm]
  · subst hreconcile
    simp [reconcile_ne_recover, eq_comm]
  · simp [hrecover, hreconcile]

/-- What a table gives for a key is one of its entries. -/
theorem mem_of_lookup {α β : Type} [BEq α] [LawfulBEq α] {table : List (α × β)} {key : α}
    {value : β} (h : table.lookup key = some value) : (key, value) ∈ table := by
  obtain ⟨before, after, hsplit, -⟩ := List.lookup_eq_some_iff.mp h
  rw [hsplit]
  exact List.mem_append_right before List.mem_cons_self

/-- Only an action with a remedy has an endpoint and may be executed. -/
theorem policyFor_of_no_remedy {action : CodePoints} (h : remedy action = none) :
    (policyFor action).endpoint = none ∧ (policyFor action).auto_execute = false := by
  have hrecover : action ≠ RECOVER_MISSED_SCHEDULE_WINDOWS := by
    rintro rfl
    simp [remedy] at h
  have hreconcile : action ≠ RECONCILE_REDIS_DELAY_QUEUE := by
    rintro rfl
    simp [remedy, reconcile_ne_recover] at h
  unfold policyFor
  cases hlookup : ACTION_POLICY.lookup action with
  | none => exact ⟨rfl, rfl⟩
  | some policy =>
      have hmem := mem_of_lookup hlookup
      simp only [ACTION_POLICY, alertPolicy, List.mem_cons, Prod.mk.injEq, hrecover, hreconcile,
        false_and, false_or, List.not_mem_nil, or_false] at hmem
      rcases hmem with ⟨-, rfl⟩ | ⟨-, rfl⟩ | ⟨-, rfl⟩ | ⟨-, rfl⟩ <;> exact ⟨rfl, rfl⟩

theorem policyFor_of_remedy {action : CodePoints} {call : AdminCall}
    (h : remedy action = some call) :
    (policyFor action).auto_execute = true ∧ (policyFor action).endpoint =
      some (str (if call = .recover_watcher then "/admin/watcher/recover"
        else "/admin/redis/reconcile")) := by
  rcases remedy_eq_some_iff.mp h with ⟨rfl, rfl⟩ | ⟨rfl, rfl⟩
  · exact ⟨rfl, rfl⟩
  · exact ⟨by decide +kernel, by decide +kernel⟩

/-! ## The plan -/

/-- The action of a plan. -/
def plannedAction (python : Python) (incident : IncidentPayload) (analysis : AnalysisResult) :
    CodePoints :=
  if analysis.used_llm then python.upper analysis.recommended_action
  else
    match incident.self_healer with
    | some output => output.plan.action
    | none => analysis.recommended_action

/-- The job an incident is about. -/
def jobOf (incident : IncidentPayload) : Option CodePoints :=
  match incident.self_healer with
  | some output => some output.incident.job_id
  | none => incident.job_id

/-- A plan for an action with the policy of this action. -/
structure FollowsPolicy (action : CodePoints) (confidence : Confidence) (plan : PlannedAction) :
    Prop where
  action_eq : plan.action = action
  confidence_eq : plan.confidence = confidence
  endpoint_eq : plan.endpoint = (policyFor action).endpoint
  auto_execute_eq : plan.auto_execute = (policyFor action).auto_execute

/-- The same under the two switches of the settings. -/
structure Planned (settings : Settings) (action : CodePoints) (confidence : Confidence)
    (plan : PlannedAction) : Prop where
  action_eq : plan.action = action
  confidence_eq : plan.confidence = confidence
  endpoint_eq : plan.endpoint = (policyFor action).endpoint
  auto_execute_eq : plan.auto_execute = ((policyFor action).auto_execute &&
    settings.auto_execute && !confidence.1.lt settings.min_confidence)

/-- Only a remedy is executed automatically, with the switch on and enough confidence. -/
theorem Planned.of_auto {settings : Settings} {action : CodePoints} {confidence : Confidence}
    {plan : PlannedAction} (h : Planned settings action confidence plan)
    (hauto : plan.auto_execute = true) :
    (∃ call, remedy action = some call) ∧ settings.auto_execute = true ∧
      confidence.1.lt settings.min_confidence = false := by
  rw [h.auto_execute_eq, Bool.and_eq_true, Bool.and_eq_true, Bool.not_eq_true'] at hauto
  obtain ⟨⟨hpolicy, hswitch⟩, hlow⟩ := hauto
  refine ⟨Option.ne_none_iff_exists'.mp fun hnone => ?_, hswitch, hlow⟩
  rw [(policyFor_of_no_remedy hnone).2] at hpolicy
  contradiction

section Plan

variable (python : Python) (settings : Settings) (incident : IncidentPayload)
  (analysis : AnalysisResult)

theorem followsPolicy_planFromSelfHealer (output : SelfHealerOutput) :
    FollowsPolicy output.plan.action analysis.confidence (planFromSelfHealer output analysis) :=
  ⟨rfl, rfl, rfl, rfl⟩

theorem followsPolicy_planWithRules (h : incident.self_healer = none) :
    FollowsPolicy analysis.recommended_action analysis.confidence
      (planWithRules analysis incident) := by
  unfold planWithRules
  rw [h]
  exact ⟨rfl, rfl, rfl, rfl⟩

theorem followsPolicy_applyLlmOverride (planned : PlannedAction) :
    FollowsPolicy (python.upper analysis.recommended_action) analysis.confidence
      (PlannerAgent.applyLlmOverride python planned analysis incident) := by
  unfold PlannerAgent.applyLlmOverride
  split
  · dsimp only
    split_ifs <;> exact ⟨rfl, rfl, rfl, rfl⟩
  · exact ⟨rfl, rfl, rfl, rfl⟩

/-- The switches of the settings. -/
def switched (planned : PlannedAction) : PlannedAction :=
  let planned := if settings.auto_execute then planned else { planned with auto_execute := false }
  if planned.confidence.1.lt settings.min_confidence then
    { planned with
      auto_execute := false
      rationale := planned.rationale ++ str " (confidence " ++ python.fixed planned.confidence.1 ++
        str " below threshold " ++ python.floatRepr settings.min_confidence ++ str ")" }
  else planned

theorem FollowsPolicy.switched {action : CodePoints} {confidence : Confidence}
    {plan : PlannedAction} (h : FollowsPolicy action confidence plan) :
    Planned settings action confidence (switched python settings plan) := by
  obtain ⟨rfl, rfl, hendpoint, hauto⟩ := h
  unfold AiAgent.switched
  cases hswitch : settings.auto_execute <;>
    cases hlow : plan.confidence.1.lt settings.min_confidence <;>
      constructor <;> simp [hendpoint, hauto, hlow, hswitch]

theorem params_switched (plan : PlannedAction) :
    (switched python settings plan).params = plan.params := by
  unfold switched
  dsimp only
  split_ifs <;> rfl

/-- The plan that the switches are applied to. -/
def proposed : PlannedAction :=
  let planned := match incident.self_healer with
    | some output => planFromSelfHealer output analysis
    | none => planWithRules analysis incident
  if analysis.used_llm then PlannerAgent.applyLlmOverride python planned analysis incident
  else planned

theorem plan_eq_switched :
    PlannerAgent.plan python settings incident analysis =
      switched python settings (proposed python incident analysis) := rfl

theorem followsPolicy_proposed :
    FollowsPolicy (plannedAction python incident analysis) analysis.confidence
      (proposed python incident analysis) := by
  unfold proposed plannedAction
  cases analysis.used_llm with
  | true => exact followsPolicy_applyLlmOverride python incident analysis _
  | false =>
      cases h : incident.self_healer with
      | some output => exact followsPolicy_planFromSelfHealer analysis output
      | none => exact followsPolicy_planWithRules incident analysis h

/-- Every way the planner takes ends with the policy of the action under the switches. -/
theorem planned_plan :
    Planned settings (plannedAction python incident analysis) analysis.confidence
      (PlannerAgent.plan python settings incident analysis) :=
  (followsPolicy_proposed python incident analysis).switched python settings

/-- A plan that no model has touched verifies the job of the incident. -/
theorem params_plan (h : analysis.used_llm = false) :
    (PlannerAgent.plan python settings incident analysis).params =
      verifyParams (plannedAction python incident analysis) (jobOf incident) := by
  rw [plan_eq_switched, params_switched, proposed, plannedAction, h]
  cases hself : incident.self_healer with
  | some output => simp [jobOf, hself, planFromSelfHealer]
  | none => simp [jobOf, hself, planWithRules]

end Plan

/-! ## The analysis -/

/-- The action an enriched incident calls for. -/
def calledFor (python : Python) (incident : IncidentPayload) : CodePoints :=
  match incident.self_healer with
  | some output => output.plan.action
  | none => fallbackAction python incident.type

/-- The severity the impact is judged by. -/
def severityOf (incident : IncidentPayload) : CodePoints :=
  match incident.self_healer with
  | some output => output.incident.severity
  | none => incident.severity

/-- An analysis by the rules. -/
structure Ruled (python : Python) (incident : IncidentPayload) (analysis : AnalysisResult) :
    Prop where
  used_llm : analysis.used_llm = false
  recommended_action : analysis.recommended_action = calledFor python incident
  confidence : analysis.confidence.1 ≠ .nan

theorem policyFor_confidence_ne_nan (action : CodePoints) :
    (policyFor action).confidence.1 ≠ .nan := by
  unfold policyFor
  cases hlookup : ACTION_POLICY.lookup action with
  | none => exact PyFloat.noConfusion
  | some policy =>
      have hall : ∀ entry ∈ ACTION_POLICY, entry.2.confidence.1 ≠ .nan := by
        simp [ACTION_POLICY, alertPolicy, percent]
      exact hall (action, policy) (mem_of_lookup hlookup)

theorem severity_confidence_ne_nan (severity : CodePoints) :
    ((SEVERITY_CONFIDENCE.lookup severity).getD (percent 70 (by decide))).1 ≠ .nan := by
  cases hlookup : SEVERITY_CONFIDENCE.lookup severity with
  | none => exact PyFloat.noConfusion
  | some confidence =>
      have hall : ∀ entry ∈ SEVERITY_CONFIDENCE, entry.2.1 ≠ .nan := by
        simp [SEVERITY_CONFIDENCE, percent]
      exact hall (severity, confidence) (mem_of_lookup hlookup)

theorem Confidence.max_ne_nan {a b : Confidence} (ha : a.1 ≠ .nan) (hb : b.1 ≠ .nan) :
    (a.max b).1 ≠ .nan := by
  unfold Confidence.max
  split_ifs
  · exact hb
  · exact ha

section Analysis

variable (python : Python) (incident : IncidentPayload) (health : Option Dict)

/-- The rules come to a result unless the impact cannot be told. -/
theorem analyzeWithRules_spec :
    match impactOf python (severityOf incident) health with
    | .error e => analyzeWithRules python incident health = .error e
    | .ok _ => ∃ analysis, analyzeWithRules python incident health = .ok analysis ∧
        Ruled python incident analysis := by
  unfold analyzeWithRules severityOf
  cases hself : incident.self_healer with
  | some output =>
      dsimp only [analyzeFromSelfHealer]
      cases impactOf python output.incident.severity health with
      | error e => rfl
      | ok impact =>
          exact ⟨_, rfl, rfl, by rw [calledFor, hself],
            Confidence.max_ne_nan (policyFor_confidence_ne_nan _) (severity_confidence_ne_nan _)⟩
  | none =>
      dsimp only
      cases impactOf python incident.severity health with
      | error e => rfl
      | ok impact =>
          exact ⟨_, rfl, rfl, by rw [calledFor, hself], policyFor_confidence_ne_nan _⟩

theorem exists_analyzeWithRules_iff :
    (∃ analysis, analyzeWithRules python incident health = .ok analysis) ↔
      ∃ impact, impactOf python (severityOf incident) health = .ok impact := by
  have hspec := analyzeWithRules_spec python incident health
  cases himpact : impactOf python (severityOf incident) health with
  | error e =>
      rw [himpact] at hspec
      simp [hspec]
  | ok impact =>
      rw [himpact] at hspec
      obtain ⟨analysis, hanalysis, -⟩ := hspec
      simp [hanalysis]

variable {python incident health} in
theorem ruled_of_analyzeWithRules {analysis : AnalysisResult}
    (h : analyzeWithRules python incident health = .ok analysis) :
    Ruled python incident analysis := by
  have hspec := analyzeWithRules_spec python incident health
  obtain ⟨impact, himpact⟩ := (exists_analyzeWithRules_iff python incident health).mp ⟨_, h⟩
  rw [himpact] at hspec
  obtain ⟨analysis', hanalysis', hruled⟩ := hspec
  rw [h] at hanalysis'
  obtain rfl := Except.ok.inj hanalysis'
  exact hruled

variable {python incident} in
theorem Ruled.plannedAction {analysis : AnalysisResult} (h : Ruled python incident analysis) :
    plannedAction python incident analysis = calledFor python incident := by
  rw [AiAgent.plannedAction, h.used_llm, if_neg Bool.false_ne_true]
  cases hself : incident.self_healer with
  | some output => rw [calledFor, hself]
  | none => exact h.recommended_action

end Analysis

/-! ## The executor -/

section Execute

variable (python : Python) {settings : Settings} {action : CodePoints} {confidence : Confidence}
  {plan : PlannedAction}

theorem execute_of_quiet
    (h : settings.dry_run = true ∨
      (plan.action ≠ VERIFY_RETRY_OR_FINAL_STATE ∧ plan.auto_execute = false)) :
    ∃ execution, ExecutorAgent.execute python settings plan = .done (.ok execution) ∧
      execution.success = true := by
  unfold ExecutorAgent.execute
  rcases h with hdry | ⟨haction, hauto⟩
  · rw [if_pos hdry]
    exact ⟨_, rfl, rfl⟩
  · rw [if_neg haction, if_pos (show (!plan.auto_execute || _) = true by rw [hauto]; rfl)]
    split_ifs <;> exact ⟨_, rfl, rfl⟩

theorem execute_of_verify (hdry : settings.dry_run = false)
    (haction : plan.action = VERIFY_RETRY_OR_FINAL_STATE) :
    ExecutorAgent.execute python settings plan = ExecutorAgent.verifyJobState python plan := by
  unfold ExecutorAgent.execute
  rw [if_neg (by simp [hdry]), if_pos haction]

theorem endpoint_of_remedy {call : AdminCall} (hremedy : remedy action = some call)
    (hendpoint : plan.endpoint = (policyFor action).endpoint) :
    plan.endpoint.getD [] = str (if call = .recover_watcher then "/admin/watcher/recover"
      else "/admin/redis/reconcile") := by
  rw [hendpoint, (policyFor_of_remedy hremedy).2, Option.getD_some]

/-- The object that a method returns; a job that is `None` is no object. -/
def AdminCall.dict : (call : AdminCall) → call.Reply → Dict
  | get_job _ => fun job => job.getD []
  | get_detailed_health => id
  | recover_watcher => id
  | reconcile_redis => id
  | requeue_job _ => id
  | reset_circuit _ => id

/-- A remedy is dispatched as one admin call. -/
theorem dispatch_remedy {call : AdminCall} (hremedy : remedy action = some call)
    (hendpoint : plan.endpoint = (policyFor action).endpoint) :
    ExecutorAgent.dispatch python plan =
      .call (AgentOp.admin call) fun reply => .done (reply.map call.dict) := by
  unfold ExecutorAgent.dispatch
  rw [endpoint_of_remedy hremedy hendpoint]
  rcases remedy_eq_some_iff.mp hremedy with ⟨-, rfl⟩ | ⟨-, rfl⟩
  · refine (if_pos rfl).trans (congrArg _ (funext fun reply => ?_))
    cases reply <;> rfl
  · refine (if_neg (by decide +kernel)).trans
      ((if_pos rfl).trans (congrArg _ (funext fun reply => ?_)))
    cases reply <;> rfl

/-- What the executor makes of the reply to a remedy, or of what the call raises. -/
def executed (plan : PlannedAction) (reply : Except PyError Dict) : ExecutionResult :=
  match reply.bind (ExecutorAgent.resultOf python plan) with
  | .ok execution => execution
  | .error exc => {
      action := plan.action
      success := false
      message := python.text exc }

/-- A plan that may be executed is one admin call, and its failure is a result. -/
theorem execute_remedy {call : AdminCall} (hplan : Planned settings action confidence plan)
    (hdry : settings.dry_run = false) (hauto : plan.auto_execute = true)
    (hremedy : remedy action = some call) :
    ExecutorAgent.execute python settings plan =
      .call (AgentOp.admin call) fun reply =>
        .done (.ok (executed python plan (reply.map call.dict))) := by
  have hendpoint : (plan.endpoint.getD []).isEmpty = false := by
    rw [endpoint_of_remedy hremedy hplan.endpoint_eq]
    split_ifs <;> rfl
  have haction : plan.action ≠ VERIFY_RETRY_OR_FINAL_STATE ∧ plan.action ∉
      [WAIT_FOR_RETRY_WINDOW, PAUSE_AND_ESCALATE_JOB_TYPE, ALERT_OPERATOR] := by
    rw [hplan.action_eq]
    rcases remedy_eq_some_iff.mp hremedy with ⟨rfl, -⟩ | ⟨rfl, -⟩ <;> decide +kernel
  unfold ExecutorAgent.execute
  rw [if_neg (by simp [hdry]), if_neg haction.1, if_neg haction.2,
    if_neg (by simp [hauto, hendpoint]), dispatch_remedy python hremedy hplan.endpoint_eq]
  refine congrArg (Prog.call (AgentOp.admin call)) (funext fun reply => ?_)
  cases reply with
  | error e => rfl
  | ok reply =>
      show Prog.tryCatch (.done (ExecutorAgent.resultOf python plan (call.dict reply))) _ = _
      unfold executed
      simp only [Except.map, Except.bind]
      cases ExecutorAgent.resultOf python plan (call.dict reply) <;> rfl

theorem execute_of_auto {call : AdminCall} (hplan : Planned settings action confidence plan)
    (hdry : settings.dry_run = false) (hauto : plan.auto_execute = true)
    (hremedy : remedy action = some call) :
    ∃ outcome : Except PyError call.Reply → ExecutionResult,
      ExecutorAgent.execute python settings plan =
        .call (AgentOp.admin call) fun reply => .done (.ok (outcome reply)) :=
  ⟨_, execute_remedy python hplan hdry hauto hremedy⟩

/-- The job that a plan asks to verify. -/
def jobToVerify (plan : PlannedAction) : Option CodePoints :=
  (get plan.params "job_id").bind fun job_id =>
    if python.truthy job_id then some (python.str job_id) else none

theorem admin_bind_eq {α : Type} {call : AdminCall} {next : call.Reply → Agent α}
    {outcome : call.Reply → α} (h : ∀ reply, next reply = .done (.ok (outcome reply))) :
    (Agent.admin call >>= next) =
      .call (AgentOp.admin call) fun reply => .done (reply.map outcome) := by
  rw [Prog.bind_eq_bind, Agent.admin, Prog.bind_call]
  refine congrArg _ (funext fun reply => ?_)
  cases reply with
  | error e => rfl
  | ok reply => exact h reply

/-- What the executor reports of a job it has looked up. -/
def verified (plan : PlannedAction) (job_id : Json) : Option Dict → ExecutionResult
  | none => {
      action := plan.action
      success := false
      message := str "Job " ++ python.str job_id ++ str " not found"
      details := plan.verification_checks }
  | some job => {
      action := plan.action
      success := ExecutorAgent.settled (ExecutorAgent.statusOf job)
      message := str "Verified job " ++ python.str job_id ++ str " status=" ++
        python.str (ExecutorAgent.statusOf job)
      details := plan.verification_checks ++
        [str "observed_status=" ++ python.str (ExecutorAgent.statusOf job)] }

variable (plan) in
/-- A job is looked up; what the look-up raises is not caught. -/
theorem verifyJobState_spec :
    match jobToVerify python plan with
    | none => ∃ execution, ExecutorAgent.verifyJobState python plan = .done (.ok execution) ∧
        execution.success = true
    | some job_id => ∃ outcome : Option Dict → ExecutionResult,
        ExecutorAgent.verifyJobState python plan =
            .call (AgentOp.admin (.get_job job_id)) (fun reply => .done (reply.map outcome)) ∧
          ∀ found, (outcome found).success =
            found.any fun job => ExecutorAgent.settled (ExecutorAgent.statusOf job) := by
  unfold ExecutorAgent.verifyJobState jobToVerify
  cases get plan.params "job_id" with
  | none => exact ⟨_, rfl, rfl⟩
  | some job_id =>
      dsimp only [Option.bind_some]
      cases python.truthy job_id with
      | false => exact ⟨_, rfl, rfl⟩
      | true =>
          refine ⟨verified python plan job_id, admin_bind_eq fun found => ?_, fun found => ?_⟩
          · cases found <;> rfl
          · cases found <;> rfl

variable (plan) in
/-- How the verification of a job ends under a client. -/
theorem run_verifyJobState (client : JobQueueClient) (history : List AgentRunResult) :
    match jobToVerify python plan with
    | none => ∃ execution, Prog.run client.handle (ExecutorAgent.verifyJobState python plan)
        history = (.ok execution, history) ∧ execution.success = true
    | some job_id =>
        match client (.get_job job_id) with
        | .error e => Prog.run client.handle (ExecutorAgent.verifyJobState python plan) history =
            (.error e, history)
        | .ok found => ∃ execution,
            Prog.run client.handle (ExecutorAgent.verifyJobState python plan) history =
              (.ok execution, history) ∧
            execution.success =
              found.any fun job => ExecutorAgent.settled (ExecutorAgent.statusOf job) := by
  have hspec := verifyJobState_spec python plan
  cases hjob : jobToVerify python plan with
  | none =>
      rw [hjob] at hspec
      obtain ⟨execution, hexecution, hsuccess⟩ := hspec
      exact ⟨execution, by rw [hexecution]; rfl, hsuccess⟩
  | some job_id =>
      rw [hjob] at hspec
      obtain ⟨outcome, houtcome, hsuccess⟩ := hspec
      dsimp only
      cases hreply : client (.get_job job_id) with
      | error e =>
          rw [houtcome, Prog.run_call, JobQueueClient.handle, hreply]
          rfl
      | ok found =>
          refine ⟨outcome found, ?_, hsuccess found⟩
          rw [houtcome, Prog.run_call, JobQueueClient.handle, hreply]
          rfl

theorem jobToVerify_of_params {job : Option CodePoints}
    (h : plan.params = verifyParams VERIFY_RETRY_OR_FINAL_STATE job) :
    jobToVerify python plan = job.bind orNone := by
  rw [jobToVerify, h, verifyParams, if_pos rfl]
  cases hjob : job.bind orNone with
  | none => rfl
  | some job_id =>
      obtain ⟨id, -, hid⟩ := Option.bind_eq_some_iff.mp hjob
      have hne := (orNone_eq_some_iff.mp hid).1
      have hget : get [(str "job_id", .string job_id), (str "verify_only", .bool true)] "job_id" =
          some (.string job_id) := by
        rfl
      simp [hget, Python.truthy, Python.str, hne]

end Execute

/-! ## The pipeline -/

namespace AgentOrchestrator

variable (agent : AgentOrchestrator) (incident : IncidentPayload)

theorem timestamp_enrichIncident {client : SelfHealerClient} {incident enriched : IncidentPayload}
    (h : client.enrichIncident incident = .ok enriched) :
    enriched.timestamp = incident.timestamp := by
  by_cases hasked : Asked incident
  · rw [enrichIncident_of_asked client hasked] at h
    cases hfound : client.analyzeLogLine incident.evidence with
    | error e => rw [hfound] at h; cases h
    | ok found =>
        rw [hfound] at h
        rw [← Except.ok.inj h]
        cases found <;> rfl
  · rw [enrichIncident_of_not_asked client hasked] at h
    rw [← Except.ok.inj h]

theorem fetchHealth_eq : AnalyzerAgent.fetchHealth =
    .call (AgentOp.admin .get_detailed_health) fun health : Except PyError Dict =>
      .done (.ok health.toOption) := by
  refine congrArg (Prog.call (AgentOp.admin .get_detailed_health)) (funext fun health => ?_)
  cases health <;> rfl

/-- An incident with a timestamp is analysed by the rules. -/
theorem analyze_of_timestamp (h : incident.timestamp.isSome) :
    AnalyzerAgent.analyze agent.python agent.settings agent.openai incident =
      .call (AgentOp.admin .get_detailed_health) fun health : Except PyError Dict =>
        .done (analyzeWithRules agent.python incident health.toOption) := by
  unfold AnalyzerAgent.analyze
  rw [fetchHealth_eq, Prog.bind_eq_bind, Prog.bind_call]
  refine congrArg _ (funext fun health => ?_)
  rw [Prog.bind_done_ok]
  cases hself : incident.self_healer with
  | some output => rw [analyzeWithRules, hself]; rfl
  | none =>
      dsimp only
      rw [AnalyzerAgent.analyzeWithLlm, if_pos h]
      split_ifs <;> rfl

theorem processIncident_eq :
    agent.processIncident incident =
      match agent.self_healer.enrichIncident (agent.stamp incident) with
      | .error e => .done (.error e)
      | .ok enriched =>
          .call (AgentOp.admin .get_detailed_health) fun health : Except PyError Dict =>
            match analyzeWithRules agent.python enriched health.toOption with
            | .error e => .done (.error e)
            | .ok analysis => agent.resolve enriched analysis := by
  unfold processIncident
  cases henriched : agent.self_healer.enrichIncident (agent.stamp incident) with
  | error e => rfl
  | ok enriched =>
      have htimestamp : enriched.timestamp.isSome := by
        rw [timestamp_enrichIncident henriched]
        rfl
      rw [Agent.pureOrRaise, Prog.bind_eq_bind, Prog.bind_done_ok,
        analyze_of_timestamp agent enriched htimestamp, Prog.bind_eq_bind, Prog.bind_call]
      refine congrArg _ (funext fun health => ?_)
      cases analyzeWithRules agent.python enriched health.toOption <;> rfl

variable (client : JobQueueClient) (history : List AgentRunResult)

/-- The health the analysis sees. -/
def healthOf : Option Dict :=
  Except.toOption (α := Dict) (client .get_detailed_health)

/-- What the pipeline knows of an incident when it comes to the plan. -/
def analysed : Except PyError (IncidentPayload × AnalysisResult) :=
  (agent.self_healer.enrichIncident (agent.stamp incident)).bind fun enriched =>
    (analyzeWithRules agent.python enriched (healthOf client)).map fun analysis =>
      (enriched, analysis)

theorem run_processIncident :
    Prog.run client.handle (agent.processIncident incident) history =
      match agent.analysed incident client with
      | .error e => (.error e, history)
      | .ok (enriched, analysis) =>
          Prog.run client.handle (agent.resolve enriched analysis) history := by
  rw [processIncident_eq, analysed]
  cases agent.self_healer.enrichIncident (agent.stamp incident) with
  | error e => rfl
  | ok enriched =>
      rw [Except.bind]
      show Prog.run client.handle
        (match analyzeWithRules agent.python enriched (healthOf client) with
        | .error e => .done (.error e)
        | .ok analysis => agent.resolve enriched analysis) history = _
      cases analyzeWithRules agent.python enriched (healthOf client) <;> rfl

theorem collect_processIncident {Entry : Type}
    (entries : AgentOp → List AgentRunResult → List Entry)
    (h : ∀ history, entries (.admin .get_detailed_health) history = []) :
    Prog.collect client.handle entries (agent.processIncident incident) history =
      match agent.analysed incident client with
      | .error _ => []
      | .ok (enriched, analysis) =>
          Prog.collect client.handle entries (agent.resolve enriched analysis) history := by
  rw [processIncident_eq, analysed]
  cases agent.self_healer.enrichIncident (agent.stamp incident) with
  | error e => rfl
  | ok enriched =>
      dsimp only
      rw [Prog.collect_call, h, List.nil_append, Except.bind]
      show Prog.collect client.handle entries
        (match analyzeWithRules agent.python enriched (healthOf client) with
        | .error e => .done (.error e)
        | .ok analysis => agent.resolve enriched analysis) history = _
      cases analyzeWithRules agent.python enriched (healthOf client) <;> rfl

variable {agent incident client} in
theorem analysed_eq_ok_iff {enriched : IncidentPayload} {analysis : AnalysisResult} :
    agent.analysed incident client = .ok (enriched, analysis) ↔
      agent.self_healer.enrichIncident (agent.stamp incident) = .ok enriched ∧
        analyzeWithRules agent.python enriched (healthOf client) = .ok analysis := by
  unfold analysed
  constructor
  · intro h
    cases henriched : agent.self_healer.enrichIncident (agent.stamp incident) with
    | error e => rw [henriched] at h; cases h
    | ok enriched' =>
        rw [henriched, Except.bind] at h
        cases hanalysis : analyzeWithRules agent.python enriched' (healthOf client) with
        | error e => rw [hanalysis] at h; cases h
        | ok analysis' =>
            rw [hanalysis] at h
            obtain ⟨rfl, rfl⟩ := Prod.mk.inj (Except.ok.inj h)
            exact ⟨rfl, hanalysis⟩
  · rintro ⟨henriched, hanalysis⟩
    rw [henriched, Except.bind, hanalysis]
    rfl

variable {agent incident client} in
/-- An incident that can be enriched is analysed unless the impact cannot be told. -/
theorem exists_analysed_iff {enriched : IncidentPayload} :
    (∃ analysis, agent.analysed incident client = .ok (enriched, analysis)) ↔
      agent.self_healer.enrichIncident (agent.stamp incident) = .ok enriched ∧
        ∃ impact, impactOf agent.python (severityOf enriched) (healthOf client) = .ok impact := by
  simp only [analysed_eq_ok_iff, exists_and_left, exists_analyzeWithRules_iff]

/-- What holds of every incident that is enriched and can be analysed. -/
theorem forall_analysed_iff {P : IncidentPayload → Prop} :
    (∀ enriched, agent.self_healer.enrichIncident (agent.stamp incident) = .ok enriched →
        (∃ impact, impactOf agent.python (severityOf enriched) (healthOf client) = .ok impact) →
        P enriched) ↔
      ∀ enriched analysis, agent.analysed incident client = .ok (enriched, analysis) →
        P enriched := by
  refine forall_congr' fun enriched => ?_
  rw [← and_imp, ← exists_analysed_iff, exists_imp]

theorem exists_analysed_and_iff {P : IncidentPayload → Prop} :
    (∃ enriched, agent.self_healer.enrichIncident (agent.stamp incident) = .ok enriched ∧
        (∃ impact, impactOf agent.python (severityOf enriched) (healthOf client) = .ok impact) ∧
        P enriched) ↔
      ∃ enriched analysis, agent.analysed incident client = .ok (enriched, analysis) ∧
        P enriched := by
  refine exists_congr fun enriched => ?_
  rw [← and_assoc, ← exists_analysed_iff, exists_and_right]

/-- The plan of the pipeline. -/
def planFor (enriched : IncidentPayload) (analysis : AnalysisResult) : PlannedAction :=
  PlannerAgent.plan agent.python agent.settings enriched analysis

theorem planned_planFor (enriched : IncidentPayload) (analysis : AnalysisResult) :
    Planned agent.settings (plannedAction agent.python enriched analysis) analysis.confidence
      (agent.planFor enriched analysis) :=
  planned_plan agent.python agent.settings enriched analysis

theorem jobToVerify_planFor {enriched : IncidentPayload} {analysis : AnalysisResult}
    (h : Ruled agent.python enriched analysis)
    (haction : calledFor agent.python enriched = VERIFY_RETRY_OR_FINAL_STATE) :
    jobToVerify agent.python (agent.planFor enriched analysis) =
      (jobOf enriched).bind orNone := by
  refine jobToVerify_of_params agent.python ?_
  rw [planFor, params_plan _ _ _ _ h.used_llm, h.plannedAction, haction]

/-- The result of a run whose execution is known. -/
def concluded (enriched : IncidentPayload) (analysis : AnalysisResult)
    (execution : ExecutionResult) : AgentRunResult :=
  let plan := agent.planFor enriched analysis
  { incident_id := enriched.incident_id.getD []
    incident_type := enriched.type
    analysis := analysis
    plan := plan
    execution := execution
    escalated :=
      if plan.auto_execute && !(plan.endpoint.getD []).isEmpty then !execution.success
      else decide (plan.action ∈ [ALERT_OPERATOR, PAUSE_AND_ESCALATE_JOB_TYPE])
    self_healer_strategy := plan.strategy }

section Resolve

variable {client history} {enriched : IncidentPayload} {analysis : AnalysisResult}

theorem run_resolve {execution : ExecutionResult}
    (h : Prog.run client.handle
      (ExecutorAgent.execute agent.python agent.settings (agent.planFor enriched analysis))
      history = (.ok execution, history)) :
    Prog.run client.handle (agent.resolve enriched analysis) history =
      (.ok (agent.concluded enriched analysis execution),
        appendHistory history (agent.concluded enriched analysis execution)) :=
  Prog.run_bind_ok client.handle h

theorem run_resolve_error {e : PyError}
    (h : Prog.run client.handle
      (ExecutorAgent.execute agent.python agent.settings (agent.planFor enriched analysis))
      history = (.error e, history)) :
    Prog.run client.handle (agent.resolve enriched analysis) history = (.error e, history) :=
  Prog.run_bind_error client.handle h

end Resolve

end AgentOrchestrator

/-! ## A deployment -/

/-- Python on ASCII text, for runs that read no number and quote no exception. -/
def plainPython : Python where
  upper text := text.map fun n => if 0x61 ≤ n ∧ n ≤ 0x7A then n - 0x20 else n
  number _ := .real 1
  float _ := .error .typeError
  repr _ := []
  floatRepr _ := str "0.75"
  fixed _ := str "0.50"
  text _ := str "error"
  bool
    | .bool b => some b
    | _ => none

/-- An agent whose image has no self-healer, and without an API key. -/
def bareAgent (settings : Settings) : AgentOrchestrator where
  settings := settings
  python := plainPython
  self_healer := {
    available := false
    binary := fun _ => []
    model_validate := fun _ => none }
  openai := fun _ _ => .error .typeError
  uuid4 := str "u-1"
  now := 0

/-- An application that answers every call with an empty object, and knows the jobs. -/
def repliesWith (job : CodePoints → Except PyError (Option Dict)) : JobQueueClient
  | .get_job job_id => job job_id
  | .get_detailed_health => .ok []
  | .recover_watcher => .ok []
  | .reconcile_redis => .ok []
  | .requeue_job _ => .ok []
  | .reset_circuit _ => .ok []

/-- A failed job as the consumer reports it. -/
def failedJob : IncidentPayload where
  incident_id := some (str "i-2")
  type := str "JOB_EXECUTION_FAILED"
  severity := str "HIGH"
  title := str "Job exhausted retries"
  job_id := some (str "7")
  job_type := some (str "API")
  evidence := str "Connection refused"
  source := str "job-queue-app"
  timestamp := some 0

end AiAgent

end JobQueue
