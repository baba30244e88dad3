import JobQueue.Model.AgentModels

/-!
# `rules/engine.py`
-/

namespace JobQueue

namespace AiAgent

open Json

def RECOVER_MISSED_SCHEDULE_WINDOWS : CodePoints := str "RECOVER_MISSED_SCHEDULE_WINDOWS"

def RECONCILE_REDIS_DELAY_QUEUE : CodePoints := str "RECONCILE_REDIS_DELAY_QUEUE"

def WAIT_FOR_RETRY_WINDOW : CodePoints := str "WAIT_FOR_RETRY_WINDOW"

def PAUSE_AND_ESCALATE_JOB_TYPE : CodePoints := str "PAUSE_AND_ESCALATE_JOB_TYPE"

def VERIFY_RETRY_OR_FINAL_STATE : CodePoints := str "VERIFY_RETRY_OR_FINAL_STATE"

def ALERT_OPERATOR : CodePoints := str "ALERT_OPERATOR"

structure Policy where
  endpoint : Option CodePoints
  auto_execute : Bool
  confidence : Confidence

/-- A literal confidence. -/
def percent (n : Nat) (h : n ≤ 100) : Confidence :=
  ⟨.real (n / 100), by
    have hpos : (0 : ℚ) ≤ n / 100 := by positivity
    have hle : (n : ℚ) / 100 ≤ 1 := by
      rw [div_le_one (by norm_num)]
      exact_mod_cast h
    simp [PyFloat.lt, hpos, hle]⟩

/-- `ACTION_POLICY["ALERT_OPERATOR"]`. -/
def alertPolicy : Policy := ⟨none, false, percent 50 (by decide)⟩

def ACTION_POLICY : List (CodePoints × Policy) :=
  [(RECOVER_MISSED_SCHEDULE_WINDOWS,
      ⟨some (str "/admin/watcher/recover"), true, percent 95 (by decide)⟩),
    (RECONCILE_REDIS_DELAY_QUEUE,
      ⟨some (str "/admin/redis/reconcile"), true, percent 90 (by decide)⟩),
    (WAIT_FOR_RETRY_WINDOW, ⟨none, false, percent 85 (by decide)⟩),
    (PAUSE_AND_ESCALATE_JOB_TYPE, ⟨none, false, percent 80 (by decide)⟩),
    (VERIFY_RETRY_OR_FINAL_STATE, ⟨none, false, percent 75 (by decide)⟩),
    (ALERT_OPERATOR, alertPolicy)]

/-- `ACTION_POLICY.get(action, ACTION_POLICY["ALERT_OPERATOR"])`. -/
def policyFor (action : CodePoints) : Policy :=
  (ACTION_POLICY.lookup action).getD alertPolicy

def SEVERITY_CONFIDENCE : List (CodePoints × Confidence) :=
  [(str "CRITICAL", percent 90 (by decide)),
    (str "HIGH", percent 85 (by decide)),
    (str "MEDIUM", percent 80 (by decide)),
    (str "LOW", percent 70 (by decide))]

/-- `"; ".join(texts)`. -/
def joinSteps (texts : List CodePoints) : CodePoints :=
  (str "; ").intercalate texts

/-- `_reasoning`. -/
def reasoningOf (plan : SelfHealerPlan) : CodePoints :=
  (str " | ").intercalate
    ([str "Strategy: " ++ plan.strategy, str "Action: " ++ plan.action] ++
      if plan.steps = [] then [] else [str "Steps: " ++ joinSteps (plan.steps.take 2)])

variable (python : Python)

/-- `_impact`; a `TypeError` when the value is no number. -/
def impactOf (severity : CodePoints) (health : Option Dict) : Except PyError CodePoints :=
  if python.upper severity = str "CRITICAL" ∨ python.upper severity = str "HIGH" then
    .ok (str "High impact on job processing reliability")
  else
    -- an empty `dict` has no entry either
    match get (health.getD []) "overdueScheduled" with
    | none => .ok (str "Operational incident detected")
    | some overdue => do
        if ← python.positive overdue then
          return python.str overdue ++ str " overdue scheduled jobs in system"
        else
          return str "Operational incident detected"

def analyzeFromSelfHealer (output : SelfHealerOutput) (health : Option Dict) :
    Except PyError AnalysisResult := do
  let incident := output.incident
  let plan := output.plan
  let policy := policyFor plan.action
  let impact ← impactOf python incident.severity health
  return {
    root_cause := (orNone incident.title).getD incident.evidence
    impact := impact
    recommended_action := plan.action
    confidence := policy.confidence.max
      ((SEVERITY_CONFIDENCE.lookup (python.upper incident.severity)).getD
        (percent 70 (by decide)))
    reasoning := reasoningOf plan
    used_llm := false
    strategy := some plan.strategy }

/-- The parameters of an action that verifies a job. -/
def verifyParams (action : CodePoints) (job_id : Option CodePoints) : Dict :=
  if action = VERIFY_RETRY_OR_FINAL_STATE then
    match job_id.bind orNone with
    | some job_id => [(str "job_id", .string job_id), (str "verify_only", .bool true)]
    | none => []
  else
    []

def planFromSelfHealer (output : SelfHealerOutput) (analysis : AnalysisResult) :
    PlannedAction :=
  let plan := output.plan
  let incident := output.incident
  let policy := policyFor plan.action
  { action := plan.action
    endpoint := policy.endpoint
    params := verifyParams plan.action (some incident.job_id)
    auto_execute := policy.auto_execute
    confidence := analysis.confidence
    rationale := reasoningOf plan
    strategy := some plan.strategy
    steps := plan.steps
    verification_checks := plan.verification_checks }

/-- `_fallback_action`. -/
def fallbackAction (incident_type : CodePoints) : CodePoints :=
  let mapping := [
    (str "WATCHER_GAP", RECOVER_MISSED_SCHEDULE_WINDOWS),
    (str "REDIS_DISPATCH_ANOMALY", RECONCILE_REDIS_DELAY_QUEUE),
    (str "RATE_LIMITED_JOB", WAIT_FOR_RETRY_WINDOW),
    (str "CIRCUIT_OPEN", PAUSE_AND_ESCALATE_JOB_TYPE),
    (str "JOB_EXECUTION_FAILED", VERIFY_RETRY_OR_FINAL_STATE)]
  (mapping.lookup (python.upper incident_type)).getD ALERT_OPERATOR

def analyzeWithRules (incident : IncidentPayload) (health : Option Dict) :
    Except PyError AnalysisResult :=
  match incident.self_healer with
  | some output => analyzeFromSelfHealer python output health
  | none => do
      let action := fallbackAction python incident.type
      let policy := policyFor action
      let impact ← impactOf python incident.severity health
      return {
        root_cause := ((orNone incident.title).or (orNone incident.evidence)).getD incident.type
        impact := impact
        recommended_action := action
        confidence := policy.confidence
        reasoning := str "Fallback rule for " ++ incident.type
        used_llm := false }

def planWithRules (analysis : AnalysisResult) (incident : IncidentPayload) : PlannedAction :=
  match incident.self_healer with
  | some output => planFromSelfHealer output analysis
  | none =>
      let policy := policyFor analysis.recommended_action
      { action := analysis.recommended_action
        endpoint := policy.endpoint
        params := verifyParams analysis.recommended_action incident.job_id
        auto_execute := policy.auto_execute
        confidence := analysis.confidence
        rationale := analysis.reasoning
        steps := []
        verification_checks := [] }

end AiAgent

end JobQueue
