import JobQueue.Lib.Trace

/-!
# Executions that an exception cuts short

Under `Prog.faulting` chosen operations throw, some of them only after they have
had their effect.  A program that lets exceptions through and returns has not met
any of them.

`Prog.failingAfter` lets a number of the operations of a kind succeed and makes
all later ones throw.  A program that lets exceptions through performs nothing
after the first of these, so it leaves the store that this operation met in the
uninterrupted execution: every state in which a fault can leave the program is
on its fault-free trace.
-/

namespace Prog

variable {Op : Type} {Reply : Op → Type} {ε α β σ : Type}

/-- The handler that counts the operations of a kind down and makes them throw
`error` when none is left.  One that throws leaves the store alone. -/
def failingAfter (faulty : Op → Bool) (error : ε)
    (handle : (op : Op) → σ → Except ε (Reply op) × σ) (op : Op) :
    σ × Nat → Except ε (Reply op) × σ × Nat
  | (s, n) =>
      match faulty op, n with
      | true, 0 => (.error error, (s, 0))
      | true, n + 1 => ((handle op s).1, ((handle op s).2, n))
      | false, n => ((handle op s).1, ((handle op s).2, n))

/-- An exception of an operation is the end of the program. -/
def Propagates : Prog Op Reply ε α → Prop
  | .done _ => True
  | .call _ next =>
      (∀ e, next (.error e) = .done (.error e)) ∧ ∀ reply, Propagates (next reply)

@[simp] theorem propagates_done (result : Except ε α) :
    (Prog.done result : Prog Op Reply ε α).Propagates := trivial

@[simp] theorem propagates_call (op : Op) (next : Except ε (Reply op) → Prog Op Reply ε α) :
    (Prog.call op next).Propagates ↔
      (∀ e, next (.error e) = .done (.error e)) ∧ ∀ reply, (next reply).Propagates := Iff.rfl

/-- After an operation, the program continues with a value. -/
@[simp] theorem propagates_done_bind (f : α → Prog Op Reply ε β) :
    (∀ result : Except ε α, ((Prog.done result).bind f).Propagates) ↔
      ∀ a, (f a).Propagates := by
  constructor
  · intro h a
    exact h (.ok a)
  · rintro h (e | a)
    · trivial
    · exact h a

theorem Propagates.bind {p : Prog Op Reply ε α} {f : α → Prog Op Reply ε β} (h : p.Propagates)
    (hf : ∀ a, (f a).Propagates) : (p.bind f).Propagates := by
  induction p with
  | done result =>
      cases result with
      | ok a => exact hf a
      | error e => trivial
  | call op next ih =>
      obtain ⟨herror, hnext⟩ := h
      refine ⟨fun e => ?_, fun reply => ih reply (hnext reply)⟩
      show (next (.error e)).bind f = _
      rw [herror e, bind_done_error]

theorem Propagates.perform (op : Op) :
    (Prog.perform op : Prog Op Reply ε (Reply op)).Propagates :=
  ⟨fun _ => rfl, fun _ => trivial⟩

theorem Propagates.foldEach {γ : Type} {body : β → γ → Prog Op Reply ε γ}
    (h : ∀ x acc, (body x acc).Propagates) (xs : List β) (acc : γ) :
    (Prog.foldEach body xs acc).Propagates := by
  induction xs generalizing acc with
  | nil => trivial
  | cons x rest ih => exact (h x acc).bind fun acc => ih acc

variable (handle : (op : Op) → σ → Except ε (Reply op) × σ) (faulty : Op → Bool)

/-- The handler under which the operations `fault` selects throw, after their
effect if so marked. -/
def faulting (fault : Op → Option (ε × Bool)) (op : Op) (s : σ) : Except ε (Reply op) × σ :=
  match fault op with
  | none => handle op s
  | some (e, applied) => (.error e, if applied then (handle op s).2 else s)

/-- What returns in spite of faults has not met any. -/
theorem run_faulting_of_ok {fault : Op → Option (ε × Bool)} {p : Prog Op Reply ε α}
    (hp : p.Propagates) {s t : σ} {a : α} (h : run (faulting handle fault) p s = (.ok a, t)) :
    run handle p s = (.ok a, t) := by
  induction p generalizing s with
  | done result => exact h
  | call op next ih =>
      obtain ⟨herror, hnext⟩ := hp
      cases hfault : fault op with
      | none =>
          have hop : faulting handle fault op s = handle op s := by rw [faulting, hfault]
          rw [run_call, hop] at h
          exact ih _ (hnext _) h
      | some thrown =>
          have hop : (faulting handle fault op s).1 = .error thrown.1 := by rw [faulting, hfault]
          rw [run_call, hop, herror] at h
          cases (Prod.mk.inj h).1

/-- The operations of the kind in an execution, each with the store before it. -/
def points (p : Prog Op Reply ε α) (s : σ) : List (Op × σ) :=
  (trace handle p s).filter fun e => faulty e.1

/-- The store that the operation numbered `n` of the kind meets, or the last store
if there are not that many. -/
def cutAt (p : Prog Op Reply ε α) (s : σ) (n : Nat) : σ :=
  match (points handle faulty p s)[n]? with
  | some entry => entry.2
  | none => (run handle p s).2

/-- A program that lets exceptions through is cut at the operation that throws. -/
theorem run_failingAfter (error : ε) {p : Prog Op Reply ε α} (hp : p.Propagates) (s : σ)
    (n : Nat) :
    (run (failingAfter faulty error handle) p (s, n)).2.1 = cutAt handle faulty p s n := by
  induction p generalizing s n with
  | done result => rfl
  | call op next ih =>
      obtain ⟨herror, hnext⟩ := hp
      rw [run_call, cutAt, points, trace_call, List.filter_cons]
      cases hfaulty : faulty op with
      | false =>
          simp only [failingAfter, hfaulty, Bool.false_eq_true, if_false]
          exact ih _ (hnext _) _ n
      | true =>
          cases n with
          | zero =>
              simp only [failingAfter, hfaulty, herror error, run_done]
              rfl
          | succ n =>
              simp only [failingAfter, hfaulty, if_true, List.getElem?_cons_succ]
              exact ih _ (hnext _) _ n

end Prog
