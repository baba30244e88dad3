import JobQueue.Model.AgentModels

/-!
# `agents/observer.py`

What the observer does with a message, and what it relies on of
`IncidentPayload.model_validate`.  `time.time()` is an exact number of seconds.
-/

namespace JobQueue

namespace AiAgent

open Json

/-! ## `IncidentPayload.model_validate` -/

/-- A field declared as `T | None`. -/
def readOptional {α : Type} (read : Json → Option α) : Json → Option (Option α)
  | .null => some none
  | value => (read value).map some

def readDict : Json → Option Dict
  | .object entries => some entries
  | _ => none

/-- A `dict[str, str]` whose keys are all different. -/
def readStrDict : Json → Option (List (CodePoints × CodePoints))
  | .object entries =>
      if (entries.map Prod.fst).Nodup then
        entries.mapM fun entry => (readStr entry.2).map (entry.1, ·)
      else none
  | _ => none

variable (datetime : CodePoints → Option DateTime)

/-- The payload of data whose values have the declared types; `datetime` reads the text of a
timestamp. -/
def IncidentPayload.read : Json → Option IncidentPayload
  | .object entries => do
      let incident_id ← readField entries ["incidentId", "incident_id"] (readOptional readStr)
        (some none)
      let type ← readField entries ["type"] readStr none
      let severity ← readField entries ["severity"] readStr (some (str "MEDIUM"))
      let title ← readField entries ["title"] readStr (some [])
      let job_id ← readField entries ["jobId", "job_id"] (readOptional readStr) (some none)
      let job_type ← readField entries ["jobType", "job_type"] (readOptional readStr) (some none)
      let evidence ← readField entries ["evidence"] readStr (some [])
      let source ← readField entries ["source"] readStr (some (str "unknown"))
      let timestamp ← readField entries ["timestamp"]
        (readOptional fun value => (readStr value).bind datetime) (some none)
      let attributes ← readField entries ["attributes"] readStrDict (some [])
      let plan ← readField entries ["plan"] (readOptional readDict) (some none)
      let self_healer ← readField entries ["self_healer"] (readOptional SelfHealerOutput.read)
        (some none)
      return {
        incident_id, type, severity, title, job_id, job_type, evidence, source, timestamp,
        attributes, plan, self_healer }
  | _ => none

/-- The fields declared as `str`. -/
def strFields : List String :=
  ["type", "severity", "title", "evidence", "source"]

/-- What the observer relies on of `IncidentPayload.model_validate`; `none` stands for the
`ValidationError`. -/
structure PayloadValidate (model_validate : Json → Option IncidentPayload) : Prop where
  /-- Values of the declared types are taken as they are. -/
  declared : ∀ {data payload}, IncidentPayload.read datetime data = some payload →
    model_validate data = some payload
  /-- `null` is no `str`. -/
  null_rejected : ∀ {entries field}, field ∈ strFields → get entries field = some .null →
    model_validate (.object entries) = none

/-! ## `ObserverAgent` -/

namespace ObserverAgent

variable (model_validate : Json → Option IncidentPayload) (settings : Settings)

/-- The keys seen and when, the oldest first. -/
abbrev Seen := List (CodePoints × ℚ)

/-- `f"{incident.type}:{incident.job_id}:{incident.evidence[:80]}"`. -/
def keyOf (incident : IncidentPayload) : CodePoints :=
  incident.type ++ str ":" ++ incident.job_id.getD (str "None") ++ str ":" ++
    incident.evidence.take 80

/-- `_purge`. -/
def purge (now : ℚ) (seen : Seen) : Seen :=
  seen.dropWhile fun entry => decide (now - entry.2 > settings.dedup_ttl_seconds)

/-- `_is_duplicate`, with the keys seen after it. -/
def isDuplicate (now : ℚ) (incident : IncidentPayload) (seen : Seen) : Bool × Seen :=
  let seen := purge settings now seen
  if keyOf incident ∈ seen.map Prod.fst then (true, seen)
  else (false, seen ++ [(keyOf incident, now)])

/-- What `_consume_loop` does with a message: the incident it hands on, if any, and the keys
seen after it.  A message that is not accepted is logged. -/
def receive (now : ℚ) (value : Text) (seen : Seen) : Option IncidentPayload × Seen :=
  match (loads value).bind model_validate with
  | none => (none, seen)
  | some incident =>
      let (duplicate, seen) := isDuplicate settings now incident seen
      (if duplicate then none else some incident, seen)

end ObserverAgent

end AiAgent

end JobQueue
