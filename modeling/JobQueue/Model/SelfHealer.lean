import JobQueue.Lib.Regex

/-!
# The self-healer

The C++ program that reads log lines, detects incidents and writes one JSON document for
each.  A `std::string` with valid UTF-8 is a `Text`: every token, pattern and escape of
the source is ASCII, and an ASCII byte of UTF-8 is a character of its own.
-/

namespace JobQueue

namespace SelfHealer

/-! ## `domain.hpp` -/

inductive IncidentType where
  | watcherGap
  | rateLimitedJob
  | circuitOpen
  | jobExecutionFailed
  | redisDispatchAnomaly
  | unknown
  deriving DecidableEq, Repr

inductive Severity where
  | low
  | medium
  | high
  | critical
  deriving DecidableEq, Repr

structure Incident where
  type : IncidentType := .unknown
  severity : Severity := .low
  title : Text := []
  jobId : Text := []
  jobType : Text := []
  evidence : Text := []
  attributes : List (Text × Text) := []
  deriving DecidableEq, Repr

structure HealingPlan where
  strategyName : Text := []
  action : Text := []
  dryRun : Bool := true
  steps : List Text := []
  verificationChecks : List Text := []
  deriving DecidableEq, Repr

def IncidentType.toString : IncidentType → Text
  | .watcherGap => "WATCHER_GAP".toList
  | .rateLimitedJob => "RATE_LIMITED_JOB".toList
  | .circuitOpen => "CIRCUIT_OPEN".toList
  | .jobExecutionFailed => "JOB_EXECUTION_FAILED".toList
  | .redisDispatchAnomaly => "REDIS_DISPATCH_ANOMALY".toList
  | .unknown => "UNKNOWN".toList

def Severity.toString : Severity → Text
  | .low => "LOW".toList
  | .medium => "MEDIUM".toList
  | .high => "HIGH".toList
  | .critical => "CRITICAL".toList

/-! ## `detectors.cpp` -/

/-- `capture(line, pattern, index)`. -/
def capture (line : Text) (pattern : Regex) (index : Nat) : Text :=
  match pattern.search line with
  | some found => (found.lookup index).getD []
  | none => []

/-- `captureFirst(line, pattern)`: the first group that matched. -/
def captureFirst (line : Text) (pattern : Regex) : Text :=
  match pattern.search line with
  | some found =>
      ((List.range' 1 pattern.groups.length).findSome? fun i => found.lookup i).getD []
  | none => []

def contains (line : Text) (token : String) : Bool :=
  Text.contains line token.toList

/-- `\s` in the classic locale. -/
def isSpace (c : Char) : Bool :=
  c = ' ' || (9 ≤ c.toNat && c.toNat ≤ 13)

/-- `jobId=(\d+)`. -/
def jobIdPattern : Regex :=
  .seq (.word "jobId=".toList) (.group 1 (.many1 Char.isDigit))

/-- `type=([A-Z]+)`. -/
def jobTypePattern : Regex :=
  .seq (.word "type=".toList) (.group 1 (.many1 Char.isUpper))

/-- `reason=([^,]+)`. -/
def reasonPattern : Regex :=
  .seq (.word "reason=".toList) (.group 1 (.many1 fun c => c ≠ ','))

/-- `job\s+(\d+)|Job\s+(\d+)`. -/
def jobNumberPattern : Regex :=
  .alt
    (.seq (.word "job".toList) (.seq (.many1 isSpace) (.group 1 (.many1 Char.isDigit))))
    (.seq (.word "Job".toList) (.seq (.many1 isSpace) (.group 2 (.many1 Char.isDigit))))

def baseIncident (type : IncidentType) (severity : Severity) (title : String) (line : Text) :
    Incident where
  type := type
  severity := severity
  title := title.toList
  evidence := line

/-- `detect(line)`. -/
abbrev LogDetector := Text → Option Incident

/-- `ChainedLogDetector::detectNext`. -/
def detectNext (next : Option LogDetector) (line : Text) : Option Incident :=
  match next with
  | none => none
  | some next => next line

def WatcherGapDetector.detect (next : Option LogDetector) : LogDetector := fun line =>
  if !contains line "Watcher gap detected" then detectNext next line
  else
    some (baseIncident .watcherGap .high "Watcher missed one or more scheduling windows" line)

def RateLimitDetector.detect (next : Option LogDetector) : LogDetector := fun line =>
  if !contains line "Rate limit hit" && !contains line "Rate limit exceeded" then
    detectNext next line
  else
    some { baseIncident .rateLimitedJob .medium
        "Job processing is being throttled by the rate limiter" line with
      jobId := capture line jobIdPattern 1
      jobType := capture line jobTypePattern 1 }

def CircuitOpenDetector.detect (next : Option LogDetector) : LogDetector := fun line =>
  if !contains line "Circuit OPEN" then detectNext next line
  else
    some { baseIncident .circuitOpen .critical "Circuit breaker is open for a job type" line with
      jobId := capture line jobIdPattern 1
      jobType := capture line jobTypePattern 1 }

def JobFailureDetector.detect (next : Option LogDetector) : LogDetector := fun line =>
  if !contains line "Job failed jobId=" then detectNext next line
  else
    some { baseIncident .jobExecutionFailed .high "Job execution failed in the consumer" line with
      jobId := capture line jobIdPattern 1
      attributes := [("reason".toList, capture line reasonPattern 1)] }

def RedisDispatchDetector.detect (next : Option LogDetector) : LogDetector := fun line =>
  let missing := contains line "not found in DB, removing from Redis"
  let invalidState := contains line "Skipping job" && contains line "invalid state"
  let dispatchError := contains line "Error dispatching job"
  if !missing && !invalidState && !dispatchError then detectNext next line
  else
    let number := captureFirst line jobNumberPattern
    some { baseIncident .redisDispatchAnomaly .high
        "Dispatcher could not safely move a Redis job to Kafka" line with
      jobId := if number.isEmpty then capture line jobIdPattern 1 else number }

def DetectorFactory.createDefaultChain : LogDetector :=
  WatcherGapDetector.detect <| some <|
  RateLimitDetector.detect <| some <|
  CircuitOpenDetector.detect <| some <|
  JobFailureDetector.detect <| some <|
  RedisDispatchDetector.detect none

/-! ## `healing_strategies.cpp` -/

def makePlan (name action : String) : HealingPlan where
  strategyName := name.toList
  action := action.toList
  dryRun := true

def texts (strings : List String) : List Text :=
  strings.map String.toList

structure HealingStrategy where
  supports : Incident → Bool
  createPlan : Incident → HealingPlan

def WatcherRecoveryStrategy : HealingStrategy where
  supports incident := incident.type = .watcherGap
  createPlan _ := { makePlan "WatcherRecoveryStrategy" "RECOVER_MISSED_SCHEDULE_WINDOWS" with
    steps := texts [
      "Query jobs with PENDING or SCHEDULED status whose scheduleTime is in the missed window.",
      "Reinsert missing jobs into the Redis delay queue using their scheduleTime.",
      "Query RETRY jobs whose nextRetryTime is in the missed window and reinsert them into Redis.",
      "Keep all database status transitions idempotent."]
    verificationChecks := texts [
      "Redis sorted set contains recovered job IDs.",
      "No recovered job is already COMPLETED, FAILED, or CANCELLED.",
      "Dispatcher emits Kafka publish logs for due recovered jobs."] }

def RateLimitBackoffStrategy : HealingStrategy where
  supports incident := incident.type = .rateLimitedJob
  createPlan _ := { makePlan "RateLimitBackoffStrategy" "WAIT_FOR_RETRY_WINDOW" with
    steps := texts [
      "Confirm the job is in RETRY status with nextRetryTime set.",
      "Avoid immediate republish because rate limiting is an intentional safety control.",
      "Let WatcherService requeue the job when nextRetryTime becomes due."]
    verificationChecks := texts [
      "Retry job moves from RETRY to SCHEDULED.",
      "Job eventually moves to COMPLETED or FAILED.",
      "Rate limiter warning volume drops below threshold."] }

def CircuitBreakerStrategy : HealingStrategy where
  supports incident := incident.type = .circuitOpen
  createPlan _ := { makePlan "CircuitBreakerStrategy" "PAUSE_AND_ESCALATE_JOB_TYPE" with
    steps := texts [
      "Do not force execution while the circuit is open.",
      "Group recent failures by job type and executor.",
      "Check downstream dependency health for the affected job type.",
      "Allow half-open recovery after the configured timeout."]
    verificationChecks := texts [
      "Circuit transitions to half-open after timeout.",
      "A successful execution resets failure count.",
      "No duplicate job execution is observed."] }

def JobFailureStrategy : HealingStrategy where
  supports incident := incident.type = .jobExecutionFailed
  createPlan _ := { makePlan "JobFailureStrategy" "VERIFY_RETRY_OR_FINAL_STATE" with
    steps := texts [
      "Fetch the failed job from MySQL by jobId.",
      "If retryCount is below max retry, confirm status is RETRY and nextRetryTime is set.",
      "If retryCount reached the limit, confirm status is FAILED.",
      "Do not replay EMAIL jobs automatically without idempotency confirmation."]
    verificationChecks := texts [
      "Job status is RETRY or FAILED.",
      "Retry jobs are later picked up by WatcherService.",
      "Failure reason is captured for operator review."] }

def RedisReconciliationStrategy : HealingStrategy where
  supports incident := incident.type = .redisDispatchAnomaly
  createPlan _ := { makePlan "RedisReconciliationStrategy" "RECONCILE_REDIS_DELAY_QUEUE" with
    steps := texts [
      "Fetch job state from MySQL.",
      "If job is SCHEDULED and still due, reinsert it into the Redis sorted set.",
      "If job is terminal, keep it removed from Redis.",
      "If job is QUEUED, verify Kafka publish before considering republish."]
    verificationChecks := texts [
      "Redis contains only non-terminal scheduled jobs.",
      "Kafka receives due queued jobs once.",
      "Database state remains the source of truth."] }

def fallback : HealingPlan :=
  { makePlan "FallbackStrategy" "ALERT_OPERATOR" with
    steps := texts [
      "Capture incident evidence and request manual review."]
    verificationChecks := texts [
      "Operator acknowledges the incident."] }

structure HealingPlanner where
  strategies : List HealingStrategy

def HealingPlanner.plan (planner : HealingPlanner) (incident : Incident) : HealingPlan :=
  match planner.strategies.find? fun strategy => strategy.supports incident with
  | some strategy => strategy.createPlan incident
  | none => fallback

def StrategyFactory.createDefaultPlanner : HealingPlanner where
  strategies := [WatcherRecoveryStrategy, RateLimitBackoffStrategy, CircuitBreakerStrategy,
    JobFailureStrategy, RedisReconciliationStrategy]

/-! ## `json_writer.cpp` -/

def escapeChar (ch : Char) : Text :=
  match ch with
  | '\\' => "\\\\".toList
  | '"' => "\\\"".toList
  | '\n' => "\\n".toList
  | '\r' => "\\r".toList
  | '\t' => "\\t".toList
  | _ => [ch]

def escapeJson (value : Text) : Text :=
  value.flatMap escapeChar

def writeStringArray (values : List Text) : Text :=
  '[' :: [','].intercalate (values.map fun value => '"' :: escapeJson value ++ ['"']) ++ [']']

def JsonWriter.write (incident : Incident) (plan : HealingPlan) : Text :=
  "\x7b".toList ++
  "\"incident\":\x7b".toList ++
  "\"type\":\"".toList ++ incident.type.toString ++ "\",".toList ++
  "\"severity\":\"".toList ++ incident.severity.toString ++ "\",".toList ++
  "\"title\":\"".toList ++ escapeJson incident.title ++ "\",".toList ++
  "\"jobId\":\"".toList ++ escapeJson incident.jobId ++ "\",".toList ++
  "\"jobType\":\"".toList ++ escapeJson incident.jobType ++ "\",".toList ++
  "\"evidence\":\"".toList ++ escapeJson incident.evidence ++ "\"".toList ++
  "\x7d,".toList ++
  "\"plan\":\x7b".toList ++
  "\"strategy\":\"".toList ++ escapeJson plan.strategyName ++ "\",".toList ++
  "\"action\":\"".toList ++ escapeJson plan.action ++ "\",".toList ++
  "\"dryRun\":".toList ++ (if plan.dryRun then "true".toList else "false".toList) ++
  ",".toList ++
  "\"steps\":".toList ++ writeStringArray plan.steps ++ ",".toList ++
  "\"verificationChecks\":".toList ++ writeStringArray plan.verificationChecks ++
  "\x7d".toList ++
  "\x7d".toList

/-! ## `main.cpp` -/

/-- What `processLine` writes to the standard output. -/
def processLine (line : Text) (detector : LogDetector) (planner : HealingPlanner) : Text :=
  match detector line with
  | none => []
  | some incident => JsonWriter.write incident (planner.plan incident) ++ ['\n']

/-- `runStream`: each line that `std::getline` reads is processed. -/
def runStream (input : Text) (detector : LogDetector) (planner : HealingPlanner) : Text :=
  (Text.lines (· = '\n') input).flatMap fun line => processLine line detector planner

/-- `main` without `--log-file`: the standard output for a standard input. -/
def main (input : Text) : Text :=
  runStream input DetectorFactory.createDefaultChain StrategyFactory.createDefaultPlanner

end SelfHealer

end JobQueue
