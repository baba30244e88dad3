import JobQueue.Lib.Json

/-!
# `SelfHealerClient` and the models it builds

The Python side: what `_parse_all` makes of the standard output of the self-healer.  A
Python `str` that was decoded from JSON is its code points.

`SelfHealerOutput.model_validate` is pydantic's.  `read` gives what the declarations of
`models.py` say of data whose values have the declared types; pydantic also coerces other
values, so the validation itself stays a parameter and `ModelValidate` names what its
documentation promises.
-/

namespace JobQueue

open Json

/-! ## `models.py` -/

structure SelfHealerIncident where
  type : CodePoints
  severity : CodePoints
  title : CodePoints
  job_id : CodePoints
  job_type : CodePoints
  evidence : CodePoints
  deriving DecidableEq, Repr

structure SelfHealerPlan where
  strategy : CodePoints
  action : CodePoints
  dry_run : Bool
  steps : List CodePoints
  verification_checks : List CodePoints
  deriving DecidableEq, Repr

structure SelfHealerOutput where
  incident : SelfHealerIncident
  plan : SelfHealerPlan
  deriving DecidableEq, Repr

def readStr : Json → Option CodePoints
  | .string points => some points
  | _ => none

def readBool : Json → Option Bool
  | .bool b => some b
  | _ => none

def readStrings : List Json → Option (List CodePoints)
  | [] => some []
  | json :: elements => do
      let points ← readStr json
      let rest ← readStrings elements
      return points :: rest

def readList : Json → Option (List CodePoints)
  | .array elements => readStrings elements
  | _ => none

/-- A declared field: the value under the first key that the data has, the alias before
the name; without one, the default. -/
def readField {α : Type} (entries : List (CodePoints × Json)) (keys : List String)
    (read : Json → Option α) (default : Option α) : Option α :=
  match keys.findSome? fun key => get entries key with
  | some json => read json
  | none => default

def SelfHealerIncident.read : Json → Option SelfHealerIncident
  | .object entries => do
      let type ← readField entries ["type"] readStr none
      let severity ← readField entries ["severity"] readStr (some (codes "MEDIUM".toList))
      let title ← readField entries ["title"] readStr (some [])
      let job_id ← readField entries ["jobId", "job_id"] readStr (some [])
      let job_type ← readField entries ["jobType", "job_type"] readStr (some [])
      let evidence ← readField entries ["evidence"] readStr (some [])
      return { type, severity, title, job_id, job_type, evidence }
  | _ => none

def SelfHealerPlan.read : Json → Option SelfHealerPlan
  | .object entries => do
      let strategy ← readField entries ["strategy"] readStr (some [])
      let action ← readField entries ["action"] readStr (some [])
      let dry_run ← readField entries ["dryRun", "dry_run"] readBool (some true)
      let steps ← readField entries ["steps"] readList (some [])
      let verification_checks ←
        readField entries ["verificationChecks", "verification_checks"] readList (some [])
      return { strategy, action, dry_run, steps, verification_checks }
  | _ => none

/-- The output of data whose values have the declared types. -/
def SelfHealerOutput.read : Json → Option SelfHealerOutput
  | .object entries => do
      let incident ← readField entries ["incident"] SelfHealerIncident.read none
      let plan ← readField entries ["plan"] SelfHealerPlan.read none
      return { incident, plan }
  | _ => none

/-- What the client relies on of `SelfHealerOutput.model_validate`; `none` stands for the
`ValidationError`. -/
structure ModelValidate (model_validate : Json → Option SelfHealerOutput) : Prop where
  /-- Values of the declared types are taken as they are. -/
  declared : ∀ {data output}, SelfHealerOutput.read data = some output →
    model_validate data = some output
  /-- `incident` has no default. -/
  required : ∀ {entries}, get entries "incident" = none →
    model_validate (.object entries) = none

/-- Reading only values of the declared types keeps the promise. -/
theorem SelfHealerOutput.read_validates : ModelValidate SelfHealerOutput.read where
  declared h := h
  required h := by simp [SelfHealerOutput.read, readField, h]

/-! ## `clients/self_healer.py` -/

namespace SelfHealerClient

variable (model_validate : Json → Option SelfHealerOutput)

/-- `_parse_line`; a `JSONDecodeError` and a `ValidationError` are logged and give
`None`. -/
def parseLine (line : Text) : Option SelfHealerOutput :=
  let line := Text.strip line
  if line.head? = some '{' then (loads line).bind model_validate else none

/-- `_parse_stdout`. -/
def parseStdout (stdout : Text) : Option SelfHealerOutput :=
  (Text.splitlines stdout).findSome? (parseLine model_validate)

/-- `_parse_all`. -/
def parseAll (stdout : Text) : List SelfHealerOutput :=
  (Text.splitlines stdout).filterMap (parseLine model_validate)

/-- The first output is one of all. -/
theorem parseStdout_eq_head? (stdout : Text) :
    parseStdout model_validate stdout = (parseAll model_validate stdout).head? :=
  List.head?_filterMap.symm

end SelfHealerClient

end JobQueue
