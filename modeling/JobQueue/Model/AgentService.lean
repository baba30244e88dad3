import JobQueue.Lib.Loops
import JobQueue.Model.JobQueueClient
import JobQueue.Model.ObserverAgent

/-!
# `main.py` and `bridge.py`

Where incidents come from: the loop of the observer, the lines of a log that are posted, and
the documents that the bridge forwards.  All of them are programs over `process_incident`.
-/

namespace JobQueue

namespace AiAgent

open Json

inductive ServiceOp where
  | process_incident (incident : IncidentPayload)

@[reducible] def ServiceOp.Reply : ServiceOp → Type
  | process_incident _ => AgentRunResult

/-- A program over calls of the orchestrator. -/
abbrev AgentService := Prog ServiceOp ServiceOp.Reply PyError

section Dump

variable (floatJson : PyFloat → Json)

end Dump

namespace AgentService

def processIncident (incident : IncidentPayload) : AgentService AgentRunResult :=
  .call (ServiceOp.process_incident incident) fun reply => .done reply

/-! ## `orchestrator.py` -/

/-- What `consumer.poll(1.0)` returns. -/
inductive Poll where
  | timeout
  | error
  /-- A message, its value unless this is no UTF-8, and the time at which it is looked at. -/
  | message (now : ℚ) (value : Option Text)

section Observer

variable (model_validate : Json → Option IncidentPayload) (settings : Settings)

/-- An iteration of `_consume_loop`; whatever is raised is logged. -/
def consumePoll (poll : Poll) (seen : ObserverAgent.Seen) : AgentService ObserverAgent.Seen :=
  match poll with
  | .timeout | .error | .message _ none => return seen
  | .message now (some value) =>
      match ObserverAgent.receive model_validate settings now value seen with
      | (none, seen) => return seen
      | (some incident, seen) =>
          Prog.tryCatch (do
            let _ ← processIncident incident
            return seen) fun _ => return seen

/-- `_consume_loop`. -/
def consumeLoop (polls : List Poll) : AgentService ObserverAgent.Seen :=
  Prog.foldEach (consumePoll model_validate settings) polls []

end Observer

/-! ## `main.py` -/

end AgentService

/-! ## `bridge.py` -/

inductive BridgeOp where
  /-- Post a payload to `/incidents/self-healer` and wait for the response. -/
  | post (payload : Json)

@[reducible] def BridgeOp.Reply : BridgeOp → Type
  | post _ => HttpReply

abbrev Bridge := Prog BridgeOp BridgeOp.Reply PyError

namespace Bridge

/-- `json.get(key, {}).get(name)`; only an object has a `get`. -/
def getNested (json : Json) (key name : String) : Except PyError (Option Json) :=
  match json with
  | .object entries =>
      match get entries key with
      | none => .ok none
      | some (.object nested) => .ok (get nested name)
      | some _ => .error .attributeError
  | _ => .error .attributeError

/-- What `forward_to_agent` does with a response: it is read, and a line is logged. -/
def report (payload : Json) (response : HttpReply) : Except PyError Unit := do
  let result ← JobQueueClient.read response
  let _ ← getNested payload "incident" "type"
  let _ ← getNested (.object result) "plan" "action"
  return ()

def forwardToAgent (payload : Json) : Bridge Unit := do
  let response ← Prog.call (BridgeOp.post payload) fun reply => .done reply
  Prog.done (report payload response)

/-- `except (json.JSONDecodeError, httpx.HTTPError)`. -/
def catches : PyError → Bool
  | .httpError _ => true
  | .valueError text => text = str "JSONDecodeError"
  | .unicodeEncodeError | .typeError | .attributeError | .indexError | .validationError => false

/-- A line of the output of the self-healer. -/
def processLine (line : Text) : Bridge Unit :=
  let line := Text.strip line
  if line.head? ≠ some '{' then
    return ()
  else
    Prog.tryCatch (do
      let payload ← Prog.done ((loads line).elim (.error (.valueError (str "JSONDecodeError"))) .ok)
      forwardToAgent payload) fun exc =>
        if catches exc then return () else Prog.throw exc

end Bridge

end AiAgent

end JobQueue
