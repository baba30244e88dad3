import JobQueue.Lib.JsonText
import JobQueue.Model.State

/-!
# `IncidentPublisherService`

The event made of the arguments of `publish` and the JSON text that Jackson writes for it,
with `null` for the fields that are `null`.
-/

namespace JobQueue

open Json

/-! ## `IncidentEvent` -/

/-- Every field may be `null`.  The timestamp is the ISO-8601 text of the `Instant`. -/
structure IncidentEvent where
  incidentId : Option String
  type : Option String
  severity : Option String
  title : Option String
  jobId : Option String
  jobType : Option String
  evidence : Option String
  source : Option String
  timestamp : Option String
  attributes : Option (List (String × String))

namespace ObjectMapper

/-- A digit of a `\u` escape. -/
def hexDigit (n : Nat) : Char :=
  if n < 10 then Char.ofNat (0x30 + n) else Char.ofNat (0x37 + n)

def escapeChar (c : Char) : Text :=
  match c with
  | '"' => ['\\', '"']
  | '\\' => ['\\', '\\']
  | '\x08' => ['\\', 'b']
  | '\t' => ['\\', 't']
  | '\n' => ['\\', 'n']
  | '\x0c' => ['\\', 'f']
  | '\r' => ['\\', 'r']
  | _ =>
      if c.toNat < 0x20 then
        ['\\', 'u', '0', '0', hexDigit (c.toNat / 16), hexDigit (c.toNat % 16)]
      else [c]

def escape (text : Text) : Text :=
  text.flatMap escapeChar

def writeString (value : String) : Text :=
  quoted (escape value.toList)

def writeNullable {α : Type} (write : α → Text) : Option α → Text
  | none => "null".toList
  | some value => write value

def writeMap (entries : List (String × String)) : Text :=
  if entries = [] then ['{', '}']
  else
    objectText (entries.map fun entry =>
      (String.ofList (escape entry.1.toList), writeString entry.2))

def writeValueAsString (event : IncidentEvent) : Text :=
  objectText [
    ("incidentId", writeNullable writeString event.incidentId),
    ("type", writeNullable writeString event.type),
    ("severity", writeNullable writeString event.severity),
    ("title", writeNullable writeString event.title),
    ("jobId", writeNullable writeString event.jobId),
    ("jobType", writeNullable writeString event.jobType),
    ("evidence", writeNullable writeString event.evidence),
    ("source", writeNullable writeString event.source),
    ("timestamp", writeNullable writeString event.timestamp),
    ("attributes", writeNullable writeMap event.attributes)]

end ObjectMapper

/-! ## `publish` -/

structure ProducerRecord where
  topic : String
  key : String
  value : Text

namespace IncidentPublisherService

def TOPIC : String := "incident-topic"

/-- The event of the arguments, with a random id and the instant. -/
def eventOf (incidentId now : String) (incident : Incident) : IncidentEvent where
  incidentId := some incidentId
  type := some incident.type
  severity := some incident.severity
  title := some incident.title
  jobId := incident.jobId
  jobType := incident.jobType
  evidence := incident.evidence
  source := some "job-queue-app"
  timestamp := some now
  attributes := some incident.attributes

/-- What `publish` sends, unless it is disabled. -/
def publish (enabled : Bool) (incidentId now : String) (incident : Incident) :
    Option ProducerRecord :=
  if !enabled then none
  else
    some {
      topic := TOPIC
      key := incidentId
      value := ObjectMapper.writeValueAsString (eventOf incidentId now incident) }

end IncidentPublisherService

end JobQueue
