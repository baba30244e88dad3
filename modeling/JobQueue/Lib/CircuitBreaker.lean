import Mathlib.Logic.Function.Basic
import Mathlib.Tactic

/-!
# Circuit breakers

A circuit breaker watches the attempts at something that may fail.  It counts
consecutive failures while it is closed, refuses every attempt for some time
after the count has reached a threshold, and then lets attempts through again
until the first of them has succeeded or failed.

A *bank* keeps one breaker for each key.  Its step relation is driven by what can
be seen from outside: a reset, or a request together with what became of it.
-/

namespace CircuitBreaker

/-- How many failures open the breaker, and for how long. -/
structure Policy where
  threshold : Nat
  timeout : Int

inductive Phase where
  | closed (failures : Nat)
  | opened (since : Int)
  | halfOpen
  deriving DecidableEq, Repr

/-- What becomes of a request that is let through; `idle` if nothing is attempted
after all. -/
inductive Attempt where
  | idle
  | succeeded
  | failed
  deriving DecidableEq, Repr

namespace Phase

variable (policy : Policy) (now : Int)

/-- The phase in which a request at `now` is handled, or `none` if it is
refused. -/
def enter : Phase → Option Phase
  | opened since => if now - since < policy.timeout then none else some halfOpen
  | closed failures => some (closed failures)
  | halfOpen => some halfOpen

/-- The phase after an attempt at `now`. -/
def settle : Phase → Attempt → Phase
  | phase, .idle => phase
  | _, .succeeded => closed 0
  | closed failures, .failed =>
      if failures + 1 < policy.threshold then closed (failures + 1) else opened now
  | halfOpen, .failed => opened now
  | opened _, .failed => opened now

/-- The phase after a request at `now` that was refused (`none`) or led to an
attempt; `none` if the breaker does not allow this. -/
def next (phase : Phase) : Option Attempt → Option Phase
  | none => if phase.enter policy now = none then some phase else none
  | some attempt => (phase.enter policy now).map fun entered => entered.settle policy now attempt

variable {policy now}

theorem next_of_refused {phase : Phase} (h : phase.enter policy now = none) :
    phase.next policy now none = some phase := if_pos h

theorem next_of_entered {phase entered : Phase} (h : phase.enter policy now = some entered)
    (attempt : Attempt) :
    phase.next policy now (some attempt) = some (entered.settle policy now attempt) := by
  rw [next, h, Option.map_some]

end Phase

/-! ## Banks -/

/-- What an observer of a bank sees. -/
inductive Signal (Key : Type) where
  | quiet
  | reset (key : Key)
  | request (key : Key) (now : Int) (attempt : Option Attempt)

/-- A signal moves the breaker of its key and no other. -/
def BankStep {Key : Type} [DecidableEq Key] (policy : Policy) (bank : Key → Phase) :
    Signal Key → (Key → Phase) → Prop
  | .quiet, bank' => bank' = bank
  | .reset key, bank' => bank' = Function.update bank key (.closed 0)
  | .request key now attempt, bank' =>
      ∃ phase, (bank key).next policy now attempt = some phase ∧
        bank' = Function.update bank key phase

end CircuitBreaker
