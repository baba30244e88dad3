import JobQueue.Model.SelfHealerClient

/-!
# The data of the AI agent

`models.py`, `config.py` and the enrichment of `clients/self_healer.py`.  A Python `str`
is its code points, and a `dict[str, Any]` that came out of JSON is its entries.
-/

namespace JobQueue

namespace AiAgent

open Json

/-! ## Python -/

/-- A string literal. -/
def str (literal : String) : CodePoints := codes literal.toList

/-- A `dict[str, Any]`. -/
abbrev Dict := List (CodePoints × Json)

/-- `text or None`. -/
def orNone (text : CodePoints) : Option CodePoints :=
  if text = [] then none else some text

/-- A `float`.  A literal stands for the double next to it: the agent only compares, and
no comparison rounds. -/
inductive PyFloat where
  | nan
  | negInf
  | real (value : ℚ)
  | posInf
  deriving DecidableEq, Repr

namespace PyFloat

/-- `a < b`; no comparison with a NaN is true. -/
def lt : PyFloat → PyFloat → Bool
  | real a, real b => a < b
  | negInf, real _ => true
  | negInf, posInf => true
  | real _, posInf => true
  | _, _ => false

/-- `a >= b`. -/
def ge (a b : PyFloat) : Bool :=
  a ≠ nan && b ≠ nan && !lt a b

end PyFloat

/-- A raised exception. -/
inductive PyError where
  | httpError (text : CodePoints)
  | unicodeEncodeError
  | typeError
  | attributeError
  | valueError (text : CodePoints)
  | indexError
  | validationError
  deriving DecidableEq, Repr

/-- What the agent takes from Python and pydantic beyond comparing and joining strings. -/
structure Python where
  /-- `text.upper()`. -/
  upper : CodePoints → CodePoints
  /-- The value of a number that `json.loads` has read. -/
  number : Text → PyFloat
  /-- `float(value)`. -/
  float : Json → Except PyError PyFloat
  /-- The text of a value that is no string. -/
  repr : Json → CodePoints
  /-- `f"{value}"`. -/
  floatRepr : PyFloat → CodePoints
  /-- `f"{value:.2f}"`. -/
  fixed : PyFloat → CodePoints
  /-- `str(exc)`. -/
  text : PyError → CodePoints
  /-- The value of a field declared as `bool`, unless pydantic rejects it. -/
  bool : Json → Option Bool

namespace Python

variable (python : Python)

/-- `str(value)`. -/
def str : Json → CodePoints
  | .string text => text
  | value => python.repr value

/-- `bool(value)`. -/
def truthy : Json → Bool
  | .null => false
  | .bool b => b
  | .number literal => python.number literal ≠ .real 0
  | .string text => text ≠ []
  | .array elements => !elements.isEmpty
  | .object entries => !entries.isEmpty

/-- `value > 0`. -/
def positive : Json → Except PyError Bool
  | .bool b => .ok b
  | .number literal => .ok (PyFloat.lt (.real 0) (python.number literal))
  | _ => .error .typeError

end Python

/-! ## `config.py` -/

structure Settings where
  openai_api_key : CodePoints := []
  auto_execute : Bool := true
  min_confidence : PyFloat := .real (3 / 4)
  dry_run : Bool := false
  dedup_ttl_seconds : Int := 300

/-! ## `models.py` -/

/-- A point of time. -/
abbrev DateTime := Int

structure IncidentPayload where
  incident_id : Option CodePoints := none
  type : CodePoints
  severity : CodePoints := str "MEDIUM"
  title : CodePoints := []
  job_id : Option CodePoints := none
  job_type : Option CodePoints := none
  evidence : CodePoints := []
  source : CodePoints := str "unknown"
  timestamp : Option DateTime := none
  attributes : List (CodePoints × CodePoints) := []
  plan : Option Dict := none
  self_healer : Option SelfHealerOutput := none

/-- `plan.model_dump(by_alias=True)`. -/
def dumpPlan (plan : SelfHealerPlan) : Dict :=
  [(str "strategy", .string plan.strategy),
    (str "action", .string plan.action),
    (str "dryRun", .bool plan.dry_run),
    (str "steps", .array (plan.steps.map .string)),
    (str "verificationChecks", .array (plan.verification_checks.map .string))]

def IncidentPayload.fromSelfHealer (output : SelfHealerOutput) (source : CodePoints) :
    IncidentPayload where
  type := output.incident.type
  severity := output.incident.severity
  title := output.incident.title
  job_id := orNone output.incident.job_id
  job_type := orNone output.incident.job_type
  evidence := output.incident.evidence
  source := source
  plan := some (dumpPlan output.plan)
  self_healer := some output

/-- A `float` between 0 and 1 as pydantic checks it: not below the one and not above the
other, which a NaN is not either. -/
abbrev Confidence :=
  { x : PyFloat // x.lt (.real 0) = false ∧ PyFloat.lt (.real 1) x = false }

/-- `max(a, b)`. -/
def Confidence.max (a b : Confidence) : Confidence :=
  if a.1.lt b.1 then b else a

structure AnalysisResult where
  root_cause : CodePoints
  impact : CodePoints
  recommended_action : CodePoints
  confidence : Confidence
  reasoning : CodePoints
  used_llm : Bool := false
  strategy : Option CodePoints := none

structure PlannedAction where
  action : CodePoints
  endpoint : Option CodePoints := none
  params : Dict := []
  auto_execute : Bool := true
  confidence : Confidence
  rationale : CodePoints
  strategy : Option CodePoints := none
  steps : List CodePoints := []
  verification_checks : List CodePoints := []

structure ExecutionResult where
  action : CodePoints
  success : Bool
  message : CodePoints
  details : List CodePoints := []
  dry_run : Bool := false

structure AgentRunResult where
  incident_id : CodePoints
  incident_type : CodePoints
  analysis : AnalysisResult
  plan : PlannedAction
  execution : ExecutionResult
  escalated : Bool
  self_healer_strategy : Option CodePoints

/-! ## `clients/self_healer.py` -/

/-- The client: whether it is enabled and finds the binary, the standard output of the
binary for a standard input, and pydantic's reading of a document. -/
structure SelfHealerClient where
  available : Bool
  binary : Text → Text
  model_validate : Json → Option SelfHealerOutput

namespace SelfHealerClient

/-- The text that is written to a pipe; a lone surrogate cannot be encoded. -/
def encode (points : CodePoints) : Except PyError Text :=
  if points.all fun n => decide n.isValidChar then .ok (points.map Char.ofNat)
  else .error .unicodeEncodeError

/-- `line if line.endswith("\n") else line + "\n"`. -/
def endLine (line : CodePoints) : CodePoints :=
  if (str "\n").isSuffixOf line then line else line ++ str "\n"

variable (client : SelfHealerClient)

def analyzeLogLine (line : CodePoints) : Except PyError (Option SelfHealerOutput) :=
  if !client.available then
    .ok none
  else do
    let input ← encode (endLine line)
    return JobQueue.SelfHealerClient.parseStdout client.model_validate (client.binary input)

def enrichIncident (incident : IncidentPayload) : Except PyError IncidentPayload :=
  if incident.self_healer.isSome || !(incident.plan.getD []).isEmpty then
    .ok incident
  else if incident.evidence = [] then
    .ok incident
  else do
    match ← client.analyzeLogLine incident.evidence with
    | none => return incident
    | some output =>
        let enriched := IncidentPayload.fromSelfHealer output incident.source
        return { enriched with
          incident_id := incident.incident_id
          timestamp := incident.timestamp
          attributes := incident.attributes }

end SelfHealerClient

end AiAgent

end JobQueue
