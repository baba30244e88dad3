import JobQueue.Lib.Prog

/-!
# Loops over programs that may throw

Programs are executed one after the other.  A loop that catches what its body throws executes
all of them; a loop that does not stops at the first one that throws, and what the programs
before it have returned is lost with it.  Both are described by what the programs come to when
each of them is executed, whatever the others come to.
-/

namespace Prog

variable {Op : Type} {Reply : Op → Type} {ε α β σ : Type}

section Run

variable (handle : (op : Op) → σ → Except ε (Reply op) × σ) (body : β → Prog Op Reply ε α)

/-- The store after all programs. -/
def after (xs : List β) (s : σ) : σ :=
  xs.foldl (fun s x => (run handle (body x) s).2) s

/-- What the programs come to. -/
def outcomes : List β → σ → List (Except ε α)
  | [], _ => []
  | x :: xs, s => (run handle (body x) s).1 :: outcomes xs (run handle (body x) s).2

/-- How many programs return before the first one throws. -/
def returned (xs : List β) (s : σ) : Nat :=
  ((outcomes handle body xs s).takeWhile Except.isOk).length

theorem after_append (xs ys : List β) (s : σ) :
    after handle body (xs ++ ys) s = after handle body ys (after handle body xs s) :=
  List.foldl_append

variable {handle body}

end Run

end Prog
