import JobQueue.Lib.Protocol

/-!
# Executions in two parts

`Prog.runTo` executes a program up to the first operation of a kind and returns
what is left of it.  Executing the rest at once completes the execution; what
happens to the store in between is up to the system that executes the two parts.
-/

namespace Prog

variable {Op : Type} {Reply : Op → Type} {ε α β σ : Type}

/-- Execute a program up to the first operation that `stop` selects. -/
def runTo (stop : Op → Bool) (handle : (op : Op) → σ → Except ε (Reply op) × σ) :
    Prog Op Reply ε α → σ → Prog Op Reply ε α × σ
  | .done result, s => (.done result, s)
  | .call op next, s =>
      match stop op with
      | true => (.call op next, s)
      | false => runTo stop handle (next (handle op s).1) (handle op s).2

variable (stop : Op → Bool) (handle : (op : Op) → σ → Except ε (Reply op) × σ)

@[simp] theorem runTo_done (result : Except ε α) (s : σ) :
    runTo stop handle (.done result : Prog Op Reply ε α) s = (.done result, s) := rfl

theorem runTo_call_stop {op : Op} (h : stop op = true)
    (next : Except ε (Reply op) → Prog Op Reply ε α) (s : σ) :
    runTo stop handle (.call op next) s = (.call op next, s) := by
  rw [runTo, h]

theorem runTo_call {op : Op} (h : stop op = false)
    (next : Except ε (Reply op) → Prog Op Reply ε α) (s : σ) :
    runTo stop handle (.call op next) s =
      runTo stop handle (next (handle op s).1) (handle op s).2 := by
  rw [runTo, h]

/-- The two parts make up the execution. -/
theorem run_runTo (p : Prog Op Reply ε α) (s : σ) :
    run handle (runTo stop handle p s).1 (runTo stop handle p s).2 = run handle p s := by
  induction p generalizing s with
  | done result => rfl
  | call op next ih =>
      cases hstop : stop op with
      | true => rw [runTo_call_stop stop handle hstop]
      | false =>
          rw [runTo_call stop handle hstop, run_call]
          exact ih _ _

/-- A program without operations of the kind is executed to its end. -/
theorem runTo_of_only {p : Prog Op Reply ε α} (h : p.Only fun op => stop op = false) (s : σ) :
    runTo stop handle p s = (.done (run handle p s).1, (run handle p s).2) := by
  induction p generalizing s with
  | done result => rfl
  | call op next ih =>
      rw [runTo_call stop handle h.1, run_call]
      exact ih _ (h.2 _) _

end Prog
