import JobQueue.Model.Service
import Mathlib.Data.List.DropRight

/-!
# `JobService`
-/

namespace JobQueue

open Decimal

/-- The body of `POST /jobs`. -/
structure JobRequest where
  payload : Option String
  time : Option String
  email : Option String
  message : Option String
  type : String
  deriving DecidableEq, Repr

/-- A request without a time, which is due at once. -/
def JobRequest.immediate (type : String) : JobRequest := ⟨none, none, none, none, type⟩

/-- A request for a time of the day. -/
def JobRequest.scheduled (type time : String) : JobRequest := ⟨none, some time, none, none, type⟩

namespace JobService

/-- `JobService.IMMEDIATE_THRESHOLD`. -/
def IMMEDIATE_THRESHOLD : Int := 60 * 1000

/-! ## Civil time in Asia/Kolkata -/

def nanosPerSecond : Int := 1000000000
def nanosPerDay : Int := 86400 * nanosPerSecond

/-- The offset of Asia/Kolkata, UTC+05:30 all year. -/
def kolkataOffset : Int := 19800 * nanosPerSecond

/-- `LocalDate.now(zone)` as a count of days since the epoch. -/
def localDate (instant : Int) : Int := (instant + kolkataOffset) / nanosPerDay

/-- The instant of `LocalDateTime.of(date, LocalTime.of(hour, minute))` in the
zone. -/
def instantOf (date : Int) (hour minute : Nat) : Int :=
  date * nanosPerDay + (hour * 3600 + minute * 60) * nanosPerSecond - kolkataOffset

/-- `text.split(":")`, which drops empty parts at the end. -/
def splitParts (text : String) : List (List Char) :=
  (text.toList.splitOn ':').rdropWhile List.isEmpty

/-- `Integer.parseInt(parts[index])`. -/
def parsePart (parts : List (List Char)) (index : Nat) : Except JavaException Int :=
  match parts[index]? with
  | none =>
      .error ⟨some ("Index " ++ longToString index ++ " out of bounds for length " ++
        longToString parts.length)⟩
  | some part =>
      match parseSigned part with
      | none => .error (.numberFormat (String.ofList part))
      | some i =>
          if -2147483648 ≤ i ∧ i ≤ 2147483647 then .ok i
          else .error (.numberFormat (String.ofList part))

/-- The range check of one field of a `LocalTime`. -/
def checkField (field : String) (bound : Nat) (i : Int) : Except JavaException Nat :=
  if 0 ≤ i ∧ i ≤ bound then .ok i.toNat
  else .error ⟨some ("Invalid value for " ++ field ++ " (valid values 0 - " ++
    longToString bound ++ "): " ++ longToString i)⟩

/-- The hour and the minute of `LocalTime.of(hour, minute)`, or what the texts of
the two are rejected with.  The pattern of `JobRequest.time` accepts no text that
is rejected here. -/
def parseTime (time : String) : Except JavaException (Nat × Nat) := do
  let parts := splitParts time
  let hour ← parsePart parts 0
  let minute ← parsePart parts 1
  let hour ← checkField "HourOfDay" 23 hour
  let minute ← checkField "MinuteOfHour" 59 minute
  pure (hour, minute)

/-- The millisecond of `dateTime`, or of the same time one day later when
`dateTime` is before `now`. -/
def nextOccurrence (dateTime now : Int) : Int :=
  if dateTime < now then (dateTime + nanosPerDay) / 1000000 else dateTime / 1000000

/-- The branch of `createJob` that turns `HH:mm` into an epoch millisecond. -/
def scheduleTimeAt (time : String) : Service Int :=
  match parseTime time with
  | .error e => .throw e
  | .ok (hour, minute) => do
      -- `LocalDate.now(zone)` and `Instant.now()` are two readings of the clock
      let today ← Service.instantNow
      let dateTime := instantOf (localDate today) hour minute
      let now ← Service.instantNow
      pure (nextOccurrence dateTime now)

/-- `request.getTime() != null && !request.getTime().isEmpty()`, else the
current time. -/
def scheduleTime (request : JobRequest) : Service Int :=
  match request.time with
  | none => Service.currentTimeMillis
  | some time => if time = "" then Service.currentTimeMillis else scheduleTimeAt time

/-- The branch of an immediate job. -/
def sendNow (saved : Job) : Service Job := do
  Service.save { saved with status := .queued }
  Service.sendJob (longToString saved.id)
  pure { saved with status := .queued }

/-- Routing of the inserted row: at once to Kafka, or left to the watcher. -/
def route (saved : Job) : Service Job := do
  let now ← Service.currentTimeMillis
  if saved.scheduleTime - now ≤ IMMEDIATE_THRESHOLD then
    sendNow saved
  else
    pure saved

/-- The columns of the new row. -/
def newJob (request : JobRequest) (time : Int) : JobData where
  type := request.type
  status := .pending
  payload := request.payload
  email := request.email
  message := request.message
  retryCount := 0
  scheduleTime := time
  nextRetryTime := none

def createJob (request : JobRequest) : Service Job := do
  let time ← scheduleTime request
  let saved ← Service.insert (newJob request time)
  route saved

/-! ## Effects -/

variable {L : Type}

/-- The state after routing the row `saved` at time `now`. -/
def routeEffect (now : Int) (saved : Job) (s : State L) : State L :=
  if saved.scheduleTime - now ≤ IMMEDIATE_THRESHOLD then
    (s.saveJob { saved with status := .queued }).sendJob (longToString saved.id)
  else
    s

/-- The state after inserting a row with schedule time `time` and routing it at
`now`. -/
def createEffect (request : JobRequest) (time now : Int) (s : State L) : State L :=
  routeEffect now { newJob request time with id := s.jobs.nextId }
    (s.insertJob (newJob request time))

variable [RateLimiter L] (env : CallEnv)

/-- Computing the schedule time leaves the stores alone. -/
theorem run_scheduleTime (request : JobRequest) (s : State L) (k : Nat) :
    ∃ result m, Prog.run env.handle (scheduleTime request) (s, k) = (result, (s, m)) := by
  unfold scheduleTime
  cases request.time with
  | none => exact ⟨_, _, rfl⟩
  | some time =>
      by_cases hempty : time = ""
      · simp only [hempty, if_true]
        exact ⟨_, _, rfl⟩
      · simp only [hempty, if_false, scheduleTimeAt]
        cases parseTime time with
        | error e => exact ⟨_, _, rfl⟩
        | ok parts => exact ⟨_, _, rfl⟩

theorem run_route (saved : Job) (s : State L) (k : Nat) :
    (Prog.run env.handle (route saved) (s, k)).2 =
      (routeEffect (env.millis k) saved s, k + 1) := by
  have hrun : Prog.run env.handle (route saved) (s, k) =
      Prog.run env.handle
        (if saved.scheduleTime - env.millis k ≤ IMMEDIATE_THRESHOLD then sendNow saved
          else pure saved) (s, k + 1) := rfl
  rw [hrun, routeEffect]
  by_cases himmediate : saved.scheduleTime - env.millis k ≤ IMMEDIATE_THRESHOLD
  · rw [if_pos himmediate, if_pos himmediate]
    rfl
  · rw [if_neg himmediate, if_neg himmediate]
    rfl

/-- A call of `createJob` either fails before it touches a store, or inserts a
row and routes it. -/
theorem call_createJob (request : JobRequest) (s : State L) :
    (Service.call (createJob request) env s).2 = s ∨
      ∃ time k, (Service.call (createJob request) env s).2 =
        createEffect request time (env.millis k) s := by
  obtain ⟨result, k, htime⟩ := run_scheduleTime env request s 0
  cases result with
  | error e =>
      left
      have hrun : Prog.run env.handle (createJob request) (s, 0) = (.error e, (s, k)) :=
        Prog.run_bind_error env.handle htime
      rw [Service.call, hrun]
  | ok time =>
      right
      refine ⟨time, k, ?_⟩
      have hrun : Prog.run env.handle (createJob request) (s, 0) =
          Prog.run env.handle (route { newJob request time with id := s.jobs.nextId })
            (s.insertJob (newJob request time), k) := by
        show Prog.run env.handle ((scheduleTime request).bind _) (s, 0) = _
        rw [Prog.run_bind_ok env.handle htime]
        rfl
      rw [Service.call, hrun]
      exact congrArg Prod.fst (run_route env _ _ k)

end JobService

end JobQueue
