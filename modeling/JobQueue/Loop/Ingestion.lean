import JobQueue.Healer.Follow
import JobQueue.Healer.RoundTrip
import JobQueue.Loop.Deployment
import JobQueue.Model.AgentService

/-!
# Two ways into the agent

The output of the self-healer reaches the orchestrator through the bridge, which posts every
document, or through the route for log lines, which runs the self-healer itself.  Both take the
same documents in the same order.  The bridge goes on when a pipeline raises or a post is lost,
and posts nothing twice; the route stops at the first pipeline that raises, and loses what the
ones before it have returned.
-/

namespace JobQueue

namespace AiAgent

open Json

namespace Bridge

/-! ## The documents of an output -/

/-- The document that the bridge posts of a line. -/
def documentOf (line : Text) : Option Json :=
  if (Text.strip line).head? = some '{' then loads (Text.strip line) else none

section Run

variable {τ : Type} (handle : (op : BridgeOp) → τ → Except PyError op.Reply × τ)

end Run

/-- The output in a document, as the route reads it. -/
def outputOf (model_validate : Json → Option SelfHealerOutput) : Json → Option SelfHealerOutput
  | .object entries => model_validate (.object entries)
  | _ => none

end Bridge

open Bridge

section Agent

variable {σ : Type} (process : (op : ServiceOp) → σ → Except PyError op.Reply × σ)
  (floatJson : PyFloat → Json)

variable (network : Nat → Fate)

/-- The outputs that arrive, of the lines of an output after `k` posts. -/
def delivered : List Text → Nat → List SelfHealerOutput
  | [], _ => []
  | line :: lines, k =>
      match documentOf line with
      | none => delivered lines k
      | some payload =>
          (if network k = .lost then [] else (outputOf SelfHealerOutput.read payload).toList) ++
            delivered lines (k + 1)

/-- The outputs that the client reads of what the self-healer prints for a log. -/
def reported (log : Text) : List SelfHealerOutput :=
  SelfHealer.outputs ((Text.lines (· = '\n') log).filter fun line => line.all SelfHealer.carried)

end Agent

/-- An agent whose pipelines all raise. -/
def failing : (op : ServiceOp) → List IncidentPayload →
    Except PyError op.Reply × List IncidentPayload
  | .process_incident incident, seen => (.error .typeError, seen ++ [incident])

end AiAgent

end JobQueue
