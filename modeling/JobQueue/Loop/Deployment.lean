import JobQueue.Api.Traffic
import JobQueue.Agent.History
import JobQueue.Model.JobQueueClient

/-!
# The deployed loop

The agent reaches the application over HTTP with a key of its own.  An exchange may be lost
on the way there, or the response may be lost on the way back when the application has
already acted.  Pipelines run in threads of their own; between their exchanges the application
serves other requests and runs its own methods.  The pipelines interleave one exchange at a
time, but the application serves what it is asked whole: two requests, or a request and one
of its own methods, do not overlap here.
-/

namespace JobQueue

open Decimal

namespace AiAgent

open Json

/-! ## The wire -/

/-- A `String` of Java as Python reads it. -/
def wire (text : String) : Json := .string (str text)

def wireNumber (n : Int) : Json := .number (longToString n).toList

def wireNullable {α : Type} (write : α → Json) : Option α → Json
  | none => .null
  | some value => write value

end AiAgent

open AiAgent

/-- The object that Jackson writes for a row, less its idempotency key. -/
def Job.wire (job : Job) : Dict :=
  [(str "id", wireNumber job.id),
    (str "type", AiAgent.wire job.type),
    (str "status", AiAgent.wire job.status.name),
    (str "payload", wireNullable AiAgent.wire job.payload),
    (str "email", wireNullable AiAgent.wire job.email),
    (str "message", wireNullable AiAgent.wire job.message),
    (str "retryCount", wireNumber job.retryCount),
    (str "scheduleTime", wireNumber job.scheduleTime),
    (str "nextRetryTime", wireNullable wireNumber job.nextRetryTime)]

/-- A failed action has no details. -/
def AdminActionResult.wire (result : AdminActionResult) : Dict :=
  [(str "action", AiAgent.wire result.action),
    (str "success", .bool result.success),
    (str "message", AiAgent.wire result.message),
    (str "affectedCount", wireNumber result.affectedCount),
    (str "details",
      if result.success then .array (result.details.map AiAgent.wire) else .null)]

def wireCounts (counts : List (String × Nat)) : Dict :=
  counts.map fun entry => (str entry.1, wireNumber entry.2)

def CircuitState.wire (state : CircuitState) : Dict :=
  [(str "open", .bool state.isOpen),
    (str "failures", wireNumber state.failures),
    (str "lastFailureTime", wireNumber state.lastFailureTime)]

def DetailedHealth.wire (health : DetailedHealth) : Dict :=
  [(str "jobStats", .object (wireCounts health.jobStats)),
    (str "circuitStates", .object
      (health.circuitStates.map fun entry => (str entry.1, .object entry.2.wire))),
    (str "overdueScheduled", wireNumber health.overdueScheduled)]

def ErrorResponse.wire (response : ErrorResponse) : Dict :=
  [(str "status", wireNumber response.status),
    (str "error", AiAgent.wire response.error),
    (str "message", wireNullable AiAgent.wire response.message),
    (str "fieldErrors", wireNullable
      (fun fields => .object (fields.map fun entry => (str entry.1, AiAgent.wire entry.2)))
      response.fieldErrors)]

/-- The object in a body; a row that is `null` has no body, and a text is no JSON. -/
def Body.wire : Body → Option Dict
  | .job row => row.map Job.wire
  | .text _ => none
  | .stats counts => some (wireCounts counts)
  | .result outcome => some outcome.wire
  | .health details => some details.wire
  | .error response => some response.wire

def Response.wire (response : Response) : HttpReply :=
  ⟨response.status.value, response.body.wire⟩

/-! ## Requests of the agent -/

namespace HttpRequest

def IsGet : HttpRequest → Prop
  | getJob _ | getStats | detailedHealth _ => True
  | createJob _ | cancel _ | recoverWatcher _ | reconcileRedis _ | requeueJob _ _
  | resetCircuit _ _ => False

end HttpRequest

/-- The application, and how the requests of the agent arrive there.  An id is part of a path,
so a request for a job arrives as some `GET`, or finds no handler. -/
structure Deployment where
  server : Server
  /-- `settings.admin_api_key`. -/
  admin_api_key : String
  getJob : CodePoints → Option HttpRequest
  isGet : ∀ job_id request, getJob job_id = some request → request.IsGet
  requeueJob : CodePoints → Option HttpRequest
  resetCircuit : CodePoints → Option HttpRequest

namespace Deployment

variable (deployment : Deployment)

/-- The request of a method of the client. -/
def requestOf : AdminCall → Option HttpRequest
  | .get_detailed_health => some (.detailedHealth (some deployment.admin_api_key))
  | .get_job job_id => deployment.getJob job_id
  | .recover_watcher => some (.recoverWatcher (some deployment.admin_api_key))
  | .reconcile_redis => some (.reconcileRedis (some deployment.admin_api_key))
  | .requeue_job job_id => deployment.requeueJob job_id
  | .reset_circuit job_type => deployment.resetCircuit job_type

variable {L : Type}

/-- What the application does with it; a path without a handler is a `NoResourceFoundException`. -/
def answer [RateLimiter L] (env : RequestEnv) (call : AdminCall) (s : State L) :
    HttpReply × State L :=
  match deployment.requestOf call with
  | none => (GlobalExceptionHandler.handleGeneral.wire, s)
  | some request =>
      let result := deployment.server.respond env request s
      (result.1.wire, result.2)

end Deployment

/-! ## Exchanges -/

/-- What becomes of a request on the network. -/
inductive Fate where
  | answered
  /-- The application acts on the request, and the response is lost. -/
  | unanswered
  | lost
  deriving DecidableEq, Repr

structure Exchange where
  env : RequestEnv
  fate : Fate

namespace Deployment

variable (deployment : Deployment) {L : Type} [RateLimiter L]

/-- `httpx.TransportError`. -/
def transportError : PyError := .httpError (str "TransportError")

/-- One operation of a pipeline, over the application and the history of the runs. -/
def perform (exchange : Exchange) :
    (op : NetOp) → State L × List AgentRunResult →
      Except PyError op.Reply × State L × List AgentRunResult
  | .exchange call, (s, history) =>
      let result := deployment.answer exchange.env call s
      match exchange.fate with
      | .answered => (.ok result.1, (result.2, history))
      | .unanswered => (.error transportError, (result.2, history))
      | .lost => (.error transportError, (s, history))
  | .record result, (s, history) => (.ok (), (s, appendHistory history result))

/-- The pipelines, each a call of `process_incident` over the network. -/
def pipelines : Shared NetOp NetOp.Reply PyError PipelineCall Exchange
    (State L × List AgentRunResult) where
  program call :=
    ((call.agent.processIncident call.incident).bind fun _ => .done (.ok ())).translate
      AgentOp.program
  perform := deployment.perform
  Enabled _ _ := True
  start _ store := store
  stop _ store := store

abbrev LoopPool (L : Type) :=
  Pool NetOp NetOp.Reply PyError PipelineCall (State L × List AgentRunResult)

abbrev PipelineLabel := Pool.Label NetOp NetOp.Reply PyError PipelineCall Exchange

/-- A step of the whole system: a pipeline takes one, or the application serves somebody else.
An exchange that the application answers is served within one step, as the other requests
are. -/
inductive LoopStep : LoopPool L → PipelineLabel ⊕ (Activity × RequestEnv) → LoopPool L → Prop
  | pipeline {p q : LoopPool L} {label : PipelineLabel} :
      Pool.Step deployment.pipelines p label q → LoopStep p (.inl label) q
  | application {s t : State L} {history : List AgentRunResult}
      {threads : List (Thread NetOp NetOp.Reply PyError PipelineCall)}
      {label : Activity × RequestEnv} :
      deployment.server.Serves s label t →
        LoopStep ⟨(s, history), threads⟩ (.inr label) ⟨(t, history), threads⟩

end Deployment

end JobQueue
