import JobQueue.Lib.Layers
import JobQueue.Model.AgentOrchestrator

/-!
# `clients/job_queue.py`

The methods of `JobQueueClient` as programs over HTTP exchanges.  `_post` and `_get` make up
to three attempts, whatever an attempt raises; `get_job` makes one, and takes a 404 for a
missing job.
-/

namespace JobQueue

namespace AiAgent

open Json

/-- A response: its status and the object in its body, unless this is empty or no JSON. -/
structure HttpReply where
  status_code : Nat
  json : Option Dict

inductive NetOp where
  /-- Send the request of a method and wait for the response. -/
  | exchange (call : AdminCall)
  | record (result : AgentRunResult)

@[reducible] def NetOp.Reply : NetOp → Type
  | exchange _ => HttpReply
  | record _ => Unit

/-- A program over exchanges with the application. -/
abbrev Net := Prog NetOp NetOp.Reply PyError

namespace Net

def exchange (call : AdminCall) : Net HttpReply :=
  Prog.call (NetOp.exchange call) fun reply => .done reply

def record (result : AgentRunResult) : Net Unit :=
  Prog.call (NetOp.record result) fun reply => .done reply

end Net

namespace JobQueueClient

/-- `response.raise_for_status()` and `response.json()`. -/
def read (response : HttpReply) : Except PyError Dict :=
  if 200 ≤ response.status_code ∧ response.status_code < 300 then
    match response.json with
    | some entries => .ok entries
    | none => .error (.valueError (str "JSONDecodeError"))
  else .error (.httpError (str "HTTPStatusError"))

/-- One attempt of `_post` or `_get`. -/
def attempt (call : AdminCall) : Net Dict := do
  let response ← Net.exchange call
  Prog.done (read response)

/-- `RetryError`, which names the last attempt. -/
def retryError (_ : PyError) : PyError := .httpError (str "RetryError")

/-- `stop_after_attempt(3)`: two more attempts after the first. -/
def RETRIES : Nat := 2

/-- `_post` and `_get`. -/
def retrying (call : AdminCall) : Net Dict :=
  (attempt call).retry retryError RETRIES

def get_job (job_id : CodePoints) : Net (Option Dict) := do
  let response ← Net.exchange (.get_job job_id)
  if response.status_code = 404 then
    return none
  else do
    let job ← (Prog.done (read response) : Net Dict)
    return some job

/-- The method that a call stands for. -/
def method : (call : AdminCall) → Net call.Reply
  | .get_detailed_health => retrying .get_detailed_health
  | .get_job job_id => get_job job_id
  | .recover_watcher => retrying .recover_watcher
  | .reconcile_redis => retrying .reconcile_redis
  | .requeue_job job_id => retrying (.requeue_job job_id)
  | .reset_circuit job_type => retrying (.reset_circuit job_type)

end JobQueueClient

/-- The operations of the pipeline over the network. -/
def AgentOp.program : (op : AgentOp) → Net op.Reply
  | .admin call => JobQueueClient.method call
  | .record result => Net.record result

end AiAgent

end JobQueue
