import JobQueue.Lib.Pool
import JobQueue.Model.Call

/-!
# The services as threads

Every call of a service is a thread over the shared stores; each repository
call, Redis command, Kafka operation and executor call is one step.  Starting a
consumer takes its message off the topic.  A thread may also stop between two of
its operations.
-/

namespace JobQueue

abbrev ServiceThread := Thread Op Reply JavaException Call

abbrev ServicePool (L : Type) := Pool Op Reply JavaException Call (State L)

/-- The thread has acknowledged its message. -/
def acknowledged (t : ServiceThread) : Bool :=
  t.history.any fun event =>
    match event.op with
    | .acknowledge => true
    | _ => false

section Shared

variable {L : Type}

/-- A consumer that stops loses the circuit maps it kept in memory.  Its message
is undelivered again unless it was acknowledged. -/
def stopThread (t : ServiceThread) (s : State L) : State L :=
  let restarted := { s with
    failureCount := fun _ => 0
    circuitOpen := fun _ => false
    lastFailureTime := fun _ => 0 }
  match t.tag with
  | .consume message =>
      if acknowledged t then restarted
      else { restarted with topic := restarted.topic ++ [message] }
  -- a message that came once more is in `sent`, from where it may come again
  | .redeliver _ => restarted
  | _ => s

variable [RateLimiter L]

/-- The services over their shared stores. -/
def services : Shared Op Reply JavaException Call Reading (State L) where
  program := Call.program
  perform := fun reading op s => op.exec reading s
  Enabled := Call.Enabled
  start := Call.deliver
  stop := stopThread

instance (c : Call) (s : State L) : Decidable ((services (L := L)).Enabled c s) :=
  inferInstanceAs (Decidable (c.Enabled s))

/-- A reply that some state gives. -/
def Possible (L : Type) [RateLimiter L] (op : Op) (reply : Except JavaException (Reply op)) :
    Prop :=
  ∃ (reading : Reading) (s : State L), reply = (op.exec reading s).1

@[simp] theorem forall_possible (op : Op) (Q : Except JavaException (Reply op) → Prop) :
    (∀ reply, Possible L op reply → Q reply) ↔
      ∀ (reading : Reading) (s : State L), Q (op.exec reading s).1 := by
  constructor
  · intro h reading s
    exact h _ ⟨reading, s, rfl⟩
  · rintro h _ ⟨reading, s, rfl⟩
    exact h reading s

end Shared

/-- The thread at a position performs its next operations at a millisecond, with
executors that return. -/
def proceed (position count : Nat) (millis : Int) : List (Pool.Command Call Reading) :=
  List.replicate count (.perform position ((CallEnv.within millis (.ok ())).reading 0))

end JobQueue
