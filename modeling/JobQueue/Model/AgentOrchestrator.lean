import JobQueue.Lib.Prog
import JobQueue.Model.RulesEngine

/-!
# The agents and their orchestrator

`agents/analyzer.py`, `agents/planner.py`, `agents/executor.py` and `orchestrator.py`.
What the pipeline does to the outside is a call of the job-queue client or the record of
a run; `Agent` programs are built from these.
-/

namespace JobQueue

namespace AiAgent

open Json

/-! ## Operations -/

/-- The methods of `JobQueueClient` the agents call. -/
inductive AdminCall where
  | get_detailed_health
  | get_job (job_id : CodePoints)
  | recover_watcher
  | reconcile_redis
  | requeue_job (job_id : CodePoints)
  | reset_circuit (job_type : CodePoints)
  deriving DecidableEq

/-- What a method returns; `get_job` gives `None` for a 404. -/
@[reducible] def AdminCall.Reply : AdminCall → Type
  | get_job _ => Option Dict
  | _ => Dict

inductive AgentOp where
  | admin (call : AdminCall)
  /-- Append a result to the history. -/
  | record (result : AgentRunResult)

@[reducible] def AgentOp.Reply : AgentOp → Type
  | admin call => call.Reply
  | record _ => Unit

/-- A program over the operations of the pipeline. -/
abbrev Agent := Prog AgentOp AgentOp.Reply PyError

namespace Agent

def admin (call : AdminCall) : Agent call.Reply :=
  Prog.call (AgentOp.admin call) fun reply => .done reply

def record (result : AgentRunResult) : Agent Unit :=
  Prog.call (AgentOp.record result) fun reply => .done reply

/-- A computation that may raise and does nothing else. -/
def pureOrRaise {α : Type} (result : Except PyError α) : Agent α :=
  .done result

end Agent

/-- How the job-queue client behaves: what each call returns or raises. -/
abbrev JobQueueClient := (call : AdminCall) → Except PyError call.Reply

/-- The history keeps the last 100 results. -/
def maxHistory : Nat := 100

def appendHistory (history : List AgentRunResult) (result : AgentRunResult) :
    List AgentRunResult :=
  (history ++ [result]).drop ((history ++ [result]).length - maxHistory)

/-- `list[start:]`; a negative index counts from the end. -/
def sliceFrom {α : Type} (start : Int) (list : List α) : List α :=
  list.drop (if start < 0 then start + list.length else start).toNat

/-- `get_history(limit)`; `GET /runs` hands the limit of its query on as it is. -/
def getHistory (limit : Int) (history : List AgentRunResult) : List AgentRunResult :=
  (sliceFrom (-limit) history).reverse

/-- Answer an operation as the client does, over the history. -/
def JobQueueClient.handle (client : JobQueueClient) :
    (op : AgentOp) → List AgentRunResult → Except PyError op.Reply × List AgentRunResult
  | .admin call, history => (client call, history)
  | .record result, history => (.ok (), appendHistory history result)

/-! ## `agents/analyzer.py` -/

/-- The chat completion for an incident and the health of the system: the content of the
message, which may be `None`. -/
abbrev OpenAI := IncidentPayload → Option Dict → Except PyError (Option Text)

namespace AnalyzerAgent

variable (python : Python)

/-- A field of the answer declared as `str`. -/
def readText (data : Dict) (key : String) (default : String) : Except PyError CodePoints :=
  match get data key with
  | none => .ok (str default)
  | some (.string text) => .ok text
  | some _ => .error .validationError

/-- `float(data.get("confidence", 0.5))`, as pydantic checks it. -/
def readConfidence (data : Dict) : Except PyError Confidence := do
  let confidence ← match get data "confidence" with
    | none => .ok (PyFloat.real (1 / 2))
    | some value => python.float value
  if h : confidence.lt (.real 0) = false ∧ PyFloat.lt (.real 1) confidence = false then
    return ⟨confidence, h⟩
  else
    throw .validationError

/-- `incident.plan.get("strategy") if incident.plan else None`, as `str | None`. -/
def readStrategy (incident : IncidentPayload) : Except PyError (Option CodePoints) :=
  match get (incident.plan.getD []) "strategy" with
  | none => .ok none
  | some .null => .ok none
  | some (.string strategy) => .ok (some strategy)
  | some _ => .error .validationError

/-- What the answer of the model says. -/
def readAnswer (incident : IncidentPayload) (content : Option Text) :
    Except PyError AnalysisResult :=
  let answer := content.getD []
  match loads (if answer = [] then "\x7b\x7d".toList else answer) with
  | none => .error (.valueError (str "JSONDecodeError"))
  | some (.object data) => do
      let root_cause ← readText data "root_cause" "Unknown"
      let impact ← readText data "impact" "Unknown"
      let recommended_action ← readText data "recommended_action" "ALERT_OPERATOR"
      let confidence ← readConfidence python data
      let reasoning ← readText data "reasoning" "LLM analysis"
      let strategy ← readStrategy incident
      return {
        root_cause, impact, recommended_action, confidence, reasoning
        used_llm := true
        strategy }
  | some _ => .error .attributeError

variable (settings : Settings) (openai : OpenAI)

/-- `_analyze_with_llm`. -/
def analyzeWithLlm (incident : IncidentPayload) (health : Option Dict) :
    Except PyError AnalysisResult :=
  if incident.timestamp.isSome then
    -- `json.dumps(context)`: the dump of the incident holds a `datetime`
    .error .typeError
  else do
    let content ← openai incident health
    readAnswer python incident content

/-- `get_detailed_health()`, or `None` when it raises. -/
def fetchHealth : Agent (Option Dict) :=
  Prog.tryCatch (do
    let health ← Agent.admin .get_detailed_health
    return some health) fun _ => return none

def analyze (incident : IncidentPayload) : Agent AnalysisResult := do
  let health ← fetchHealth
  match incident.self_healer with
  | some output => Agent.pureOrRaise (analyzeFromSelfHealer python output health)
  | none =>
      if settings.openai_api_key = [] then
        Agent.pureOrRaise (analyzeWithRules python incident health)
      else
        match analyzeWithLlm python openai incident health with
        | .ok analysis => return analysis
        | .error _ => Agent.pureOrRaise (analyzeWithRules python incident health)

end AnalyzerAgent

/-! ## `agents/planner.py` -/

namespace PlannerAgent

variable (python : Python) (settings : Settings)

/-- `_apply_llm_override`. -/
def applyLlmOverride (planned : PlannedAction) (analysis : AnalysisResult)
    (incident : IncidentPayload) : PlannedAction :=
  let action := python.upper analysis.recommended_action
  let policy := policyFor action
  let overridden := { planned with
    action := action
    confidence := analysis.confidence
    rationale := analysis.reasoning
    endpoint := policy.endpoint
    auto_execute := policy.auto_execute }
  match incident.job_id.bind orNone with
  | some job_id =>
      if action = VERIFY_RETRY_OR_FINAL_STATE then
        { overridden with
          params := [(str "job_id", .string job_id), (str "verify_only", .bool true)] }
      else overridden
  | none => overridden

def plan (incident : IncidentPayload) (analysis : AnalysisResult) : PlannedAction :=
  let planned := match incident.self_healer with
    | some output => planFromSelfHealer output analysis
    | none => planWithRules analysis incident
  let planned :=
    if analysis.used_llm then applyLlmOverride python planned analysis incident else planned
  let planned := if settings.auto_execute then planned else { planned with auto_execute := false }
  if planned.confidence.1.lt settings.min_confidence then
    { planned with
      auto_execute := false
      rationale := planned.rationale ++ str " (confidence " ++ python.fixed planned.confidence.1 ++
        str " below threshold " ++ python.floatRepr settings.min_confidence ++ str ")" }
  else planned

end PlannerAgent

/-! ## `agents/executor.py` -/

namespace ExecutorAgent

variable (python : Python) (settings : Settings)

/-- `text.startswith(start) and text.endswith(stop)`. -/
def between (start stop : String) (text : CodePoints) : Bool :=
  (str start).isPrefixOf text && (str stop).isSuffixOf text

/-- `plan.params.get(key) or endpoint.split("/")[3]`, as a string. -/
def target (plan : PlannedAction) (key : String) (endpoint : CodePoints) :
    Except PyError CodePoints :=
  match get plan.params key with
  | some value =>
      if python.truthy value then .ok (python.str value) else fromEndpoint
  | none => fromEndpoint
where
  fromEndpoint : Except PyError CodePoints :=
    match (endpoint.splitOn 0x2F)[3]? with
    | some part => .ok part
    | none => .error .indexError

/-- `_dispatch`. -/
def dispatch (plan : PlannedAction) : Agent Dict := do
  let endpoint := plan.endpoint.getD []
  if endpoint = str "/admin/watcher/recover" then
    Agent.admin .recover_watcher
  else if endpoint = str "/admin/redis/reconcile" then
    Agent.admin .reconcile_redis
  else if between "/admin/jobs/" "/requeue" endpoint then do
    let job_id ← Agent.pureOrRaise (target python plan "job_id" endpoint)
    Agent.admin (.requeue_job job_id)
  else if between "/admin/circuit/" "/reset" endpoint then do
    let job_type ← Agent.pureOrRaise (target python plan "job_type" endpoint)
    Agent.admin (.reset_circuit job_type)
  else
    Prog.throw (.valueError (str "Unknown endpoint: " ++ endpoint))

/-- `(result.get("details") or []) + plan.verification_checks[:2]`. -/
def detailsOf (result : Dict) (plan : PlannedAction) : Except PyError (List CodePoints) :=
  match get result "details" with
  | none => .ok (plan.verification_checks.take 2)
  | some value =>
      if python.truthy value then
        match value with
        | .array elements =>
            match readStrings elements with
            | some details => .ok (details ++ plan.verification_checks.take 2)
            | none => .error .validationError
        | _ => .error .typeError
      else .ok (plan.verification_checks.take 2)

/-- The result of an action from the reply of the admin API. -/
def resultOf (plan : PlannedAction) (result : Dict) : Except PyError ExecutionResult := do
  let details ← detailsOf python result plan
  let success ← match get result "success" with
    | none => .ok true
    | some value =>
        match python.bool value with
        | some success => .ok success
        | none => .error .validationError
  let message ← match get result "message" with
    | none => .ok (str "Action completed")
    | some (.string message) => .ok message
    | some _ => .error .validationError
  return { action := plan.action, success, message, details }

/-- The states in which a failed job is as it should be. -/
def settledStates : List CodePoints := [str "RETRY", str "FAILED", str "COMPLETED"]

/-- `job.get("status", "UNKNOWN")`. -/
def statusOf (job : Dict) : Json :=
  (get job "status").getD (.string (str "UNKNOWN"))

/-- `status in ("RETRY", "FAILED", "COMPLETED")`. -/
def settled : Json → Bool
  | .string status => status ∈ settledStates
  | _ => false

/-- `_verify_job_state`. -/
def verifyJobState (plan : PlannedAction) : Agent ExecutionResult :=
  let unverified : ExecutionResult := {
    action := plan.action
    success := true
    message := str "No jobId to verify"
    details := plan.steps }
  match get plan.params "job_id" with
  | none => return unverified
  | some job_id =>
      if !python.truthy job_id then return unverified
      else do
        -- nothing catches what `get_job` raises
        match ← Agent.admin (.get_job (python.str job_id)) with
        | none =>
            return {
              action := plan.action
              success := false
              message := str "Job " ++ python.str job_id ++ str " not found"
              details := plan.verification_checks }
        | some job =>
            let status := statusOf job
            return {
              action := plan.action
              success := settled status
              message := str "Verified job " ++ python.str job_id ++ str " status=" ++
                python.str status
              details := plan.verification_checks ++
                [str "observed_status=" ++ python.str status] }

def execute (plan : PlannedAction) : Agent ExecutionResult :=
  if settings.dry_run then
    return {
      action := plan.action
      success := true
      message := str "Dry-run mode: action not executed"
      details := (str "Would call " ++ plan.endpoint.getD (str "None")) :: plan.steps.take 2
      dry_run := true }
  else if plan.action = VERIFY_RETRY_OR_FINAL_STATE then
    verifyJobState python plan
  else if plan.action ∈ [WAIT_FOR_RETRY_WINDOW, PAUSE_AND_ESCALATE_JOB_TYPE, ALERT_OPERATOR] then
    return {
      action := plan.action
      success := true
      message := str "Monitoring per self-healer strategy; no mutation applied"
      details := if plan.steps = [] then [plan.rationale] else plan.steps }
  else if !plan.auto_execute || (plan.endpoint.getD []).isEmpty then
    return {
      action := plan.action
      success := true
      message := str "No auto-execution required"
      details := [plan.rationale] }
  else
    Prog.tryCatch (do
      let result ← dispatch python plan
      Agent.pureOrRaise (resultOf python plan result)) fun exc =>
        return {
          action := plan.action
          success := false
          message := python.text exc }

end ExecutorAgent

/-! ## `orchestrator.py` -/

structure AgentOrchestrator where
  settings : Settings
  python : Python
  self_healer : SelfHealerClient
  openai : OpenAI
  /-- `str(uuid.uuid4())`. -/
  uuid4 : CodePoints
  /-- `datetime.now(timezone.utc)`. -/
  now : DateTime

namespace AgentOrchestrator

variable (agent : AgentOrchestrator)

/-- An incident without an id or a timestamp gets one. -/
def stamp (incident : IncidentPayload) : IncidentPayload :=
  { incident with
    incident_id := some ((incident.incident_id.bind orNone).getD agent.uuid4)
    timestamp := some (incident.timestamp.getD agent.now) }

/-- `process_incident` from the plan on. -/
def resolve (incident : IncidentPayload) (analysis : AnalysisResult) : Agent AgentRunResult := do
  let plan := PlannerAgent.plan agent.python agent.settings incident analysis
  let execution ← ExecutorAgent.execute agent.python agent.settings plan
  let escalated :=
    if plan.auto_execute && !(plan.endpoint.getD []).isEmpty then
      !execution.success
    else
      decide (plan.action ∈ [ALERT_OPERATOR, PAUSE_AND_ESCALATE_JOB_TYPE])
  let result : AgentRunResult := {
    incident_id := incident.incident_id.getD []
    incident_type := incident.type
    analysis := analysis
    plan := plan
    execution := execution
    escalated := escalated
    self_healer_strategy := plan.strategy }
  Agent.record result
  return result

def processIncident (incident : IncidentPayload) : Agent AgentRunResult := do
  let incident ← Agent.pureOrRaise (agent.self_healer.enrichIncident (agent.stamp incident))
  let analysis ← AnalyzerAgent.analyze agent.python agent.settings agent.openai incident
  agent.resolve incident analysis

end AgentOrchestrator

end AiAgent

end JobQueue
