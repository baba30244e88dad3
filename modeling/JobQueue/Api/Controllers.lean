import JobQueue.Lifecycle.TimeOfDay

/-!
# The HTTP API

`JobController`, `AdminController` and `GlobalExceptionHandler`.  A request is bound to the
parameters of its handler, validated or authorized, and answered by a service; what is thrown
on the way becomes an error response.  `handleGeneral` takes every exception that has no
handler of its own, so that a missing header, a wrong key, an id that is no number, a body
that cannot be read and a text that does not fit its column all end in a 500.
-/

namespace JobQueue

open Decimal

/-! ## Requests and responses -/

/-- The body of `POST /jobs` as it is read; a field that is left out is `null`. -/
structure JobRequestBody where
  payload : Option String
  time : Option String
  email : Option String
  message : Option String
  type : Option String
  deriving DecidableEq, Repr

/-- A constraint of a field that is violated. -/
structure FieldError where
  field : String
  defaultMessage : String
  deriving DecidableEq, Repr

/-- The requests the controllers map.  A body is `none` if it cannot be read, a key if the
header is missing. -/
inductive HttpRequest where
  | createJob (body : Option JobRequestBody)
  | cancel (id : String)
  | getJob (id : String)
  | getStats
  | recoverWatcher (key : Option String)
  | reconcileRedis (key : Option String)
  | requeueJob (key : Option String) (id : String)
  | resetCircuit (key : Option String) (type : String)
  | detailedHealth (key : Option String)
  deriving DecidableEq, Repr

inductive HttpStatus where
  | OK
  | BAD_REQUEST
  | INTERNAL_SERVER_ERROR
  deriving DecidableEq, Repr

def HttpStatus.value : HttpStatus → Nat
  | OK => 200
  | BAD_REQUEST => 400
  | INTERNAL_SERVER_ERROR => 500

/-- `ErrorResponse`, less its time stamp. -/
structure ErrorResponse where
  status : Nat
  error : String
  message : Option String
  fieldErrors : Option (List (String × String))
  deriving DecidableEq, Repr

/-- The state of a circuit in `getCircuitStates`. -/
structure CircuitState where
  isOpen : Bool
  failures : Nat
  lastFailureTime : Int
  deriving DecidableEq, Repr

/-- The entries of `getDetailedHealth`. -/
structure DetailedHealth where
  jobStats : List (String × Nat)
  circuitStates : List (String × CircuitState)
  overdueScheduled : Nat
  deriving DecidableEq, Repr

/-- What a handler returns; a job that is `null` is an empty body. -/
inductive Body where
  | job (job : Option Job)
  | text (text : String)
  | stats (stats : List (String × Nat))
  | result (result : AdminActionResult)
  | health (health : DetailedHealth)
  | error (response : ErrorResponse)
  deriving DecidableEq, Repr

structure Response where
  status : HttpStatus
  body : Body
  deriving DecidableEq, Repr

/-! ## Exceptions -/

/-- What keeps a handler from returning. -/
inductive Thrown where
  /-- `MethodArgumentNotValidException`. -/
  | invalid (errors : List FieldError)
  /-- `ResponseStatusException(UNAUTHORIZED, ...)`. -/
  | unauthorized
  /-- A parameter of the handler cannot be bound: body, header or path variable. -/
  | unbound
  /-- `DataIntegrityViolationException`: the database does not take the row. -/
  | notTaken
  /-- What a service throws. -/
  | service (e : JavaException)

/-- What the controllers are configured with and take from Spring. -/
structure Server where
  /-- `admin.api-key`. -/
  apiKey : Option String
  /-- The conversion of a path variable to a `Long`. -/
  toLong : String → Option Int
  /-- `e instanceof IllegalArgumentException`. -/
  isIllegalArgument : JavaException → Bool
  /-- The order in which the validator reports what it found. -/
  arrange : List FieldError → List FieldError
  perm : ∀ errors, (arrange errors).Perm errors

namespace GlobalExceptionHandler

/-- `fieldErrors.put(field, message)`. -/
def put (entries : List (String × String)) (error : FieldError) : List (String × String) :=
  (error.field, error.defaultMessage) :: entries.filter fun entry => entry.1 ≠ error.field

def handleValidationErrors (errors : List FieldError) : Response :=
  ⟨.BAD_REQUEST, .error {
    status := HttpStatus.BAD_REQUEST.value
    error := "Validation Failed"
    message := some "Request body contains invalid fields"
    fieldErrors := some (errors.foldl put []) }⟩

def handleIllegalArgument (e : JavaException) : Response :=
  ⟨.BAD_REQUEST, .error {
    status := HttpStatus.BAD_REQUEST.value
    error := "Bad Request"
    message := e.message
    fieldErrors := none }⟩

def handleGeneral : Response :=
  ⟨.INTERNAL_SERVER_ERROR, .error {
    status := HttpStatus.INTERNAL_SERVER_ERROR.value
    error := "Internal Server Error"
    message := some "An unexpected error occurred"
    fieldErrors := none }⟩

/-- The handler of an exception. -/
def handle (server : Server) : Thrown → Response
  | .invalid errors => handleValidationErrors errors
  | .service e => if server.isIllegalArgument e then handleIllegalArgument e else handleGeneral
  | .unauthorized => handleGeneral
  | .unbound => handleGeneral
  | .notTaken => handleGeneral

end GlobalExceptionHandler

/-! ## Validation -/

namespace JobRequestBody

/-- `trim().isEmpty()`, by which `@NotBlank` judges. -/
def isBlank (text : String) : Bool :=
  text.toList.all fun c => c.toNat ≤ 0x20

/-- The alternatives of the pattern of `type`. -/
def types : List String := ["EMAIL", "API", "LOG"]

/-- `@Pattern` accepts `null`. -/
def timeErrors (body : JobRequestBody) : List FieldError :=
  match body.time with
  | none => []
  | some time =>
      if JobRequest.timeMatches time then [] else [⟨"time", "Time must be in HH:mm format"⟩]

/-- `@NotBlank` and `@Pattern`; a blank text violates both. -/
def typeErrors (body : JobRequestBody) : List FieldError :=
  match body.type with
  | none => [⟨"type", "Job type is required"⟩]
  | some type =>
      (if isBlank type then [⟨"type", "Job type is required"⟩] else []) ++
        if type ∈ types then [] else [⟨"type", "Type must be one of: EMAIL, API, LOG"⟩]

def errors (body : JobRequestBody) : List FieldError :=
  body.timeErrors ++ body.typeErrors

/-- The body with a type. -/
def toRequest (body : JobRequestBody) (type : String) : JobRequest :=
  ⟨body.payload, body.time, body.email, body.message, type⟩

/-- `@Valid`. -/
def validate (server : Server) (body : JobRequestBody) : Except Thrown JobRequest :=
  if body.errors = [] then
    match body.type with
    | some type => .ok (body.toRequest type)
    | none => .error .unbound
  else .error (.invalid (server.arrange body.errors))

end JobRequestBody

/-! ## Columns -/

/-- A `String` of the entity is a `VARCHAR(255)`. -/
def COLUMN_LENGTH : Nat := 255

/-- Whether the database takes the texts of a request.  A longer text is refused unless only
blanks are past the end of its column: MySQL cuts these off.  The rows here keep them. -/
def JobRequest.fits (request : JobRequest) : Bool :=
  [request.payload, request.email, request.message, some request.type].all fun column =>
    column.all fun text => (text.toList.drop COLUMN_LENGTH).all (· = ' ')

/-! ## Statistics -/

/-- `JobStatus.values()`. -/
def JobStatus.values : List JobStatus :=
  [.pending, .scheduled, .queued, .processing, .completed, .failed, .retry, .cancelled]

/-- `repo.countByStatus(status)`. -/
def JobTable.countByStatus (table : JobTable) (status : JobStatus) : Nat :=
  table.rows.countP fun row => row.status = status

/-- The counts by status. -/
def JobTable.statusCounts (table : JobTable) : List (String × Nat) :=
  JobStatus.values.map fun status => (status.name, table.countByStatus status)

variable {L : Type}

def JobService.getStats (s : State L) : List (String × Nat) :=
  s.jobs.statusCounts ++ [("TOTAL", s.jobs.rows.length)]

/-- A call whose handler may look at the circuits: `tracked` are the keys of
`failureCountMap`. -/
structure RequestEnv extends CallEnv where
  tracked : List String

def KafkaConsumerService.getCircuitStates (env : RequestEnv) (s : State L) :
    List (String × CircuitState) :=
  env.tracked.map fun type =>
    (type, ⟨s.circuitOpen type, s.failureCount type, s.lastFailureTime type⟩)

def AdminService.getDetailedHealth (env : RequestEnv) (s : State L) : DetailedHealth where
  jobStats := s.jobs.statusCounts
  circuitStates := KafkaConsumerService.getCircuitStates env s
  overdueScheduled := (env.page (.findOverdueScheduled (env.millis 0) 10) s).length

/-! ## The controllers -/

/-- What a handler does once its parameters are bound: it calls a service, or looks at the
tables. -/
inductive Handler (L : Type) where
  | call (service : Service Body)
  | look (answer : RequestEnv → State L → Body)

namespace Server

variable (server : Server)

/-- A path variable declared as `Long`. -/
def pathVariable (text : String) : Except Thrown Int :=
  match server.toLong text with
  | some id => .ok id
  | none => .error .unbound

/-- `@RequestHeader("X-Admin-Api-Key")`. -/
def requestHeader (key : Option String) : Except Thrown String :=
  match key with
  | some key => .ok key
  | none => .error .unbound

/-- `Character.isWhitespace`. -/
def isWhitespace (c : Char) : Bool :=
  c.toNat ∈ [0x09, 0x0A, 0x0B, 0x0C, 0x0D, 0x1C, 0x1D, 0x1E, 0x1F, 0x20, 0x1680, 0x2000, 0x2001,
    0x2002, 0x2003, 0x2004, 0x2005, 0x2006, 0x2008, 0x2009, 0x200A, 0x2028, 0x2029, 0x205F,
    0x3000]

/-- `AdminController.authorize`. -/
def authorize (key : String) : Except Thrown Unit :=
  match server.apiKey with
  | none => .error .unauthorized
  | some apiKey =>
      if apiKey.toList.all isWhitespace then .error .unauthorized
      else if apiKey = key then .ok ()
      else .error .unauthorized

/-- A handler of `AdminController` authorizes when its parameters are bound. -/
def admin (key : Option String) (bound : Except Thrown (Handler L)) :
    Except Thrown (Handler L) := do
  let key ← requestHeader key
  let handler ← bound
  server.authorize key
  return handler

def handler : HttpRequest → Except Thrown (Handler L)
  | .createJob none => .error .unbound
  | .createJob (some body) => do
      let request ← body.validate server
      -- the insertion is the first thing that `createJob` does to the state
      if request.fits then
        return .call do
          let saved ← JobService.createJob request
          return .job (some saved)
      else .error .notTaken
  | .cancel id => do
      let id ← server.pathVariable id
      return .call do
        Service.cancelJob id
        return .text ("Job " ++ longToString id ++ " cancelled")
  | .getJob id => do
      let id ← server.pathVariable id
      return .look fun _ s => .job (s.jobs.findById id)
  | .getStats => .ok (.look fun _ s => .stats (JobService.getStats s))
  | .recoverWatcher key =>
      server.admin key (.ok (.call do
        let result ← AdminService.recoverWatcher
        return .result result))
  | .reconcileRedis key =>
      server.admin key (.ok (.call do
        let result ← AdminService.reconcileRedis
        return .result result))
  | .requeueJob key id =>
      server.admin key do
        let id ← server.pathVariable id
        return .call do
          let result ← AdminService.requeueJob id
          return .result result
  | .resetCircuit key type =>
      server.admin key (.ok (.call do
        let result ← AdminService.resetCircuit type
        return .result result))
  | .detailedHealth key =>
      server.admin key (.ok (.look fun env s => .health (AdminService.getDetailedHealth env s)))

/-- The response to a request, and the state after it. -/
def respond [RateLimiter L] (env : RequestEnv) (request : HttpRequest) (s : State L) :
    Response × State L :=
  match (server.handler request : Except Thrown (Handler L)) with
  | .error thrown => (GlobalExceptionHandler.handle server thrown, s)
  | .ok (.look answer) => (⟨.OK, answer env s⟩, s)
  | .ok (.call service) =>
      match service.call env.toCallEnv s with
      | (.ok body, t) => (⟨.OK, body⟩, t)
      | (.error e, t) => (GlobalExceptionHandler.handle server (.service e), t)

end Server

end JobQueue
