import JobQueue.Lib.Prog
import JobQueue.Model.State

/-!
# Service methods as programs

A service method is a program over the operations of `State`.  A *whole call*
executes its program without interruption: the environment of the call supplies
the successive clock readings, the row orders and the outcome of the executor.
-/

namespace JobQueue

/-- A service method that returns an `α` or throws. -/
abbrev Service (α : Type) := Prog Op Reply JavaException α

/-- The `NullPointerException` of unboxing a `null` column. -/
def nullPointer : JavaException := ⟨none⟩

namespace Service

@[simp] def currentTimeMillis : Service Int := .perform Op.currentTimeMillis
@[simp] def instantNow : Service Int := .perform Op.instantNow
@[simp] def findById (id : Int) : Service (Option Job) := .perform (Op.findById id)
@[simp] def query (q : JobQuery) : Service (List Job) := .perform (Op.query q)
@[simp] def insert (data : JobData) : Service Job := .perform (Op.insert data)
@[simp] def save (job : Job) : Service Unit := .perform (Op.save job)
@[simp] def scheduleJob (jobId scheduleTime : Int) : Service Unit :=
  .perform (Op.scheduleJob jobId scheduleTime)
@[simp] def getReadyJobs (now : Int) : Service (List String) := .perform (Op.getReadyJobs now)
@[simp] def removeJob (jobId : String) : Service Unit := .perform (Op.removeJob jobId)
@[simp] def getLastRun : Service (Option Int) := .perform Op.getLastRun
@[simp] def setLastRun (now : Int) : Service Unit := .perform (Op.setLastRun now)
@[simp] def cancelJob (jobId : Int) : Service Unit := .perform (Op.cancelJob jobId)
@[simp] def isCancelled (jobId : Int) : Service Bool := .perform (Op.isCancelled jobId)
@[simp] def clearCancellation (jobId : Int) : Service Unit := .perform (Op.clearCancellation jobId)
@[simp] def allow (type : String) (limitPerSec : Nat) : Service Bool :=
  .perform (Op.allow type limitPerSec)
@[simp] def isCircuitOpen (type : String) : Service Bool := .perform (Op.isCircuitOpen type)
@[simp] def setCircuitOpen (type : String) (value : Bool) : Service Unit :=
  .perform (Op.setCircuitOpen type value)
@[simp] def setFailureCount (type : String) (value : Nat) : Service Unit :=
  .perform (Op.setFailureCount type value)
@[simp] def incrementFailureCount (type : String) : Service Nat :=
  .perform (Op.incrementFailureCount type)
@[simp] def getLastFailureTime (type : String) : Service Int :=
  .perform (Op.getLastFailureTime type)
@[simp] def setLastFailureTime (type : String) (value : Int) : Service Unit :=
  .perform (Op.setLastFailureTime type value)
@[simp] def sendJob (message : String) : Service Unit := .perform (Op.sendJob message)
@[simp] def publish (incident : Incident) : Service Unit := .perform (Op.publish incident)
@[simp] def acknowledge : Service Unit := .perform Op.acknowledge
@[simp] def execute (executor : Executor) (job : Job) : Service Unit :=
  .perform (Op.execute executor job)

/-- `redisQueue.scheduleJob(id, time)` with a nullable column `time`, which is
unboxed. -/
@[simp] def scheduleJobAt (jobId : Int) : Option Int → Service Unit
  | some time => scheduleJob jobId time
  | none => .throw nullPointer

end Service

/-! ## Whole calls -/

/-- What the environment decides during one call: `clock k` is the instant the
`k`-th clock reading of the call sees. -/
structure CallEnv where
  clock : Nat → Int
  order : JobQuery → RowOrder
  outcome : Except JavaException Unit

namespace CallEnv

/-- The environment of an operation that comes after `k` clock readings. -/
def reading (env : CallEnv) (k : Nat) : Reading :=
  ⟨env.clock k, env.order, env.outcome⟩

/-- The `k`-th clock reading in milliseconds. -/
def millis (env : CallEnv) (k : Nat) : Int := (env.reading k).millis

/-- A call within one millisecond, with the rows of a query in the order of
their ids. -/
def within (millis : Int) (outcome : Except JavaException Unit) : CallEnv :=
  ⟨fun _ => millis * 1000000, fun _ => RowOrder.byId, outcome⟩

end CallEnv

/-- The operations that look at a clock, that of Redis included. -/
@[simp] def Op.readsClock : Op → Bool
  | .currentTimeMillis => true
  | .instantNow => true
  | .cancelJob _ => true
  | .isCancelled _ => true
  | .allow _ _ => true
  | _ => false

section Calls

variable {L : Type}

/-- The page a query of the call returns in state `s`. -/
def CallEnv.page (env : CallEnv) (q : JobQuery) (s : State L) : List Job :=
  s.jobs.select (env.order q) q

/-- A loop whose body returns normally and reads no clock folds the effects of
the body over the state, under any handler. -/
theorem Service.run_foldEach
    (handle : (op : Op) → State L × Nat → Except JavaException (Reply op) × State L × Nat)
    {β γ : Type} {body : β → γ → Service γ} (update : β → γ → γ)
    (effect : β → State L → State L) (xs : List β)
    (hbody : ∀ x ∈ xs, ∀ acc s k,
      Prog.run handle (body x acc) (s, k) = (.ok (update x acc), (effect x s, k)))
    (acc : γ) (s : State L) (k : Nat) :
    Prog.run handle (Prog.foldEach body xs acc) (s, k) =
      (.ok (xs.foldl (fun a x => update x a) acc),
        (xs.foldl (fun t x => effect x t) s, k)) := by
  rw [Prog.run_foldEach handle update
    (fun x store => (effect x store.1, store.2)) xs
    (fun x hx acc store => hbody x hx acc store.1 store.2)]
  congr 1
  clear hbody
  induction xs generalizing s with
  | nil => rfl
  | cons x xs ih => exact ih (effect x s)

theorem Service.run_forEach
    (handle : (op : Op) → State L × Nat → Except JavaException (Reply op) × State L × Nat)
    {β : Type} {body : β → Service Unit} (effect : β → State L → State L) (xs : List β)
    (hbody : ∀ x ∈ xs, ∀ s k,
      Prog.run handle (body x) (s, k) = (.ok (), (effect x s, k)))
    (s : State L) (k : Nat) :
    Prog.run handle (Prog.forEach body xs) (s, k) =
      (.ok (), (xs.foldl (fun t x => effect x t) s, k)) :=
  Service.run_foldEach handle (fun _ _ => ()) effect xs (fun x hx _ t m => hbody x hx t m) () s k

variable [RateLimiter L]

/-- The handler of a whole call; its store counts the clock readings so far. -/
@[simp] def CallEnv.handle (env : CallEnv) (op : Op) (store : State L × Nat) :
    Except JavaException (Reply op) × State L × Nat :=
  let result := op.exec (env.reading store.2) store.1
  (result.1, result.2, if op.readsClock then store.2 + 1 else store.2)

/-- A whole call of a service method from state `s`. -/
def Service.call {α : Type} (service : Service α) (env : CallEnv) (s : State L) :
    Except JavaException α × State L :=
  let result := Prog.run env.handle service (s, 0)
  (result.1, result.2.1)

/-- A whole call during which the operations `fault` selects throw. -/
def Service.callFailing {α : Type} (service : Service α) (fault : Op → Option JavaException)
    (env : CallEnv) (s : State L) : Except JavaException α × State L :=
  let result := Prog.run (Prog.failing env.handle fault) service (s, 0)
  (result.1, result.2.1)

end Calls

end JobQueue
