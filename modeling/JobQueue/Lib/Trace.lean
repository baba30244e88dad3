import JobQueue.Lib.Prog

/-!
# What a program does on its way

`Prog.trace` lists the operations of an uninterrupted execution in order, each
with the store it meets.  Where `Prog.run` says how an execution ends, the trace
says what happened before the end: which messages were sent, and when; in which
store an exception would have left the program.
-/

namespace Prog

variable {Op : Type} {Reply : Op → Type} {ε α β σ : Type}

/-- The operations of an execution, each with the store before it. -/
def trace (handle : (op : Op) → σ → Except ε (Reply op) × σ) :
    Prog Op Reply ε α → σ → List (Op × σ)
  | .done _, _ => []
  | .call op next, s =>
      (op, s) :: trace handle (next (handle op s).1) (handle op s).2

variable (handle : (op : Op) → σ → Except ε (Reply op) × σ)

@[simp] theorem trace_done (result : Except ε α) (s : σ) :
    trace handle (.done result : Prog Op Reply ε α) s = [] := rfl

@[simp] theorem trace_call (op : Op) (next : Except ε (Reply op) → Prog Op Reply ε α) (s : σ) :
    trace handle (.call op next) s =
      (op, s) :: trace handle (next (handle op s).1) (handle op s).2 := rfl

/-- A composition does what its first program does, and then, unless this one
has thrown, what the second does. -/
theorem trace_bind (p : Prog Op Reply ε α) (f : α → Prog Op Reply ε β) (s : σ) :
    trace handle (p.bind f) s = trace handle p s ++
      match run handle p s with
      | (.ok a, t) => trace handle (f a) t
      | (.error _, _) => [] := by
  induction p generalizing s with
  | done result => cases result <;> rfl
  | call op next ih => exact congrArg _ (ih _ _)

theorem trace_bind_ok {p : Prog Op Reply ε α} {f : α → Prog Op Reply ε β} {s t : σ} {a : α}
    (hp : run handle p s = (.ok a, t)) :
    trace handle (p.bind f) s = trace handle p s ++ trace handle (f a) t := by
  rw [trace_bind, hp]

/-- A result that is thrown away does not matter for what is done. -/
theorem trace_discard (p : Prog Op Reply ε α) (s : σ) :
    trace handle (p.bind fun _ => pure PUnit.unit) s = trace handle p s := by
  rw [trace_bind]
  generalize run handle p s = result
  obtain ⟨_ | _, _⟩ := result <;> exact List.append_nil _

/-- What the operations of an execution contribute, in order. -/
def collect {Entry : Type} (entries : Op → σ → List Entry) (p : Prog Op Reply ε α) (s : σ) :
    List Entry :=
  (trace handle p s).flatMap fun e => entries e.1 e.2

section Collect

variable {Entry : Type} (entries : Op → σ → List Entry)

@[simp] theorem collect_done (result : Except ε α) (s : σ) :
    collect handle entries (.done result : Prog Op Reply ε α) s = [] := rfl

@[simp] theorem collect_call (op : Op) (next : Except ε (Reply op) → Prog Op Reply ε α) (s : σ) :
    collect handle entries (.call op next) s =
      entries op s ++ collect handle entries (next (handle op s).1) (handle op s).2 := rfl

theorem collect_bind (p : Prog Op Reply ε α) (f : α → Prog Op Reply ε β) (s : σ) :
    collect handle entries (p.bind f) s = collect handle entries p s ++
      match run handle p s with
      | (.ok a, t) => collect handle entries (f a) t
      | (.error _, _) => [] := by
  rw [collect, trace_bind, List.flatMap_append]
  generalize run handle p s = result
  obtain ⟨_ | _, _⟩ := result <;> rfl

theorem collect_bind_ok {p : Prog Op Reply ε α} {f : α → Prog Op Reply ε β} {s t : σ} {a : α}
    (hp : run handle p s = (.ok a, t)) :
    collect handle entries (p.bind f) s =
      collect handle entries p s ++ collect handle entries (f a) t := by
  rw [collect_bind, hp]

theorem collect_discard (p : Prog Op Reply ε α) (s : σ) :
    collect handle entries (p.bind fun _ => pure PUnit.unit) s = collect handle entries p s := by
  rw [collect, trace_discard]
  rfl

/-- A loop whose body returns normally contributes what the items do. -/
theorem collect_foldEach {γ : Type} {body : β → γ → Prog Op Reply ε γ} {xs : List β}
    (item : β → List Entry)
    (hrun : ∀ x ∈ xs, ∀ acc s, ∃ acc' t, run handle (body x acc) s = (.ok acc', t))
    (hitem : ∀ x ∈ xs, ∀ acc s, collect handle entries (body x acc) s = item x)
    (acc : γ) (s : σ) :
    collect handle entries (foldEach body xs acc) s = xs.flatMap item := by
  induction xs generalizing acc s with
  | nil => rfl
  | cons x rest ih =>
      obtain ⟨acc', t, hx⟩ := hrun x List.mem_cons_self acc s
      rw [foldEach, bind_eq_bind, collect_bind_ok handle entries hx,
        hitem x List.mem_cons_self, List.flatMap_cons]
      exact congrArg _ (ih (fun y hy => hrun y (List.mem_cons_of_mem x hy))
        (fun y hy => hitem y (List.mem_cons_of_mem x hy)) acc' t)

end Collect

/-- The invariant rule of executions: what every operation keeps holds wherever
an operation is performed, and at the end. -/
theorem trace_invariant (Inv : σ → Prop) (hkeep : ∀ op s, Inv s → Inv (handle op s).2)
    (p : Prog Op Reply ε α) {s : σ} (hs : Inv s) :
    (∀ entry ∈ trace handle p s, Inv entry.2) ∧ Inv (run handle p s).2 := by
  induction p generalizing s with
  | done result => exact ⟨fun _ h => (List.not_mem_nil h).elim, hs⟩
  | call op next ih =>
      obtain ⟨htrace, hrun⟩ := ih (handle op s).1 (hkeep op s hs)
      refine ⟨fun entry hentry => ?_, hrun⟩
      rcases List.mem_cons.mp hentry with rfl | hrest
      · exact hs
      · exact htrace entry hrest

/-- In an execution a program performs operations of its kind only, under any handler. -/
theorem Only.trace {K : Op → Prop} {p : Prog Op Reply ε α} (h : p.Only K) (s : σ) :
    ∀ entry ∈ trace handle p s, K entry.1 := by
  induction p generalizing s with
  | done result => exact fun _ hentry => (List.not_mem_nil hentry).elim
  | call op next ih =>
      intro entry hentry
      rcases List.mem_cons.mp hentry with rfl | hrest
      · exact h.1
      · exact ih _ (h.2 _) _ entry hrest

/-- A log that every operation extends by its own entries has been extended by
the entries of the trace. -/
theorem log_run {Entry : Type} (log : σ → List Entry) (entries : Op → σ → List Entry)
    (hlog : ∀ op s, log (handle op s).2 = log s ++ entries op s) (p : Prog Op Reply ε α) (s : σ) :
    log (run handle p s).2 = log s ++ (trace handle p s).flatMap fun e => entries e.1 e.2 := by
  induction p generalizing s with
  | done result => exact (List.append_nil _).symm
  | call op next ih =>
      rw [run_call, trace_call, ih, hlog, List.flatMap_cons, List.append_assoc]

end Prog
