import Mathlib.Tactic

/-!
# Programs over atomic operations

A program is a tree: it is finished with a result, or it performs one atomic
operation and continues with the reply.  A reply is either a value or an
exception, so the same tree carries the error paths of the code.

Nothing is said here about what an operation does.  A *handler* supplies that:
it maps an operation and a store to a reply and a new store.  `Prog.run` is the
uninterrupted execution of a program under a handler.  The same tree can be
executed one operation at a time in a pool of threads (`Pool`) or under a
handler that makes chosen operations fail, so a piece of code is written down
once for all three readings.
-/

/-- A program over the operations `Op`, where `Reply op` is the type of values
`op` returns and `ε` the type of exceptions. -/
inductive Prog (Op : Type) (Reply : Op → Type) (ε : Type) (α : Type) where
  | done (result : Except ε α)
  | call (op : Op) (next : Except ε (Reply op) → Prog Op Reply ε α)

namespace Prog

variable {Op : Type} {Reply : Op → Type} {ε α β σ : Type}

/-- Perform one operation and return its reply. -/
@[simp] def perform (op : Op) : Prog Op Reply ε (Reply op) :=
  .call op fun reply => .done reply

/-- Finish with an exception. -/
@[simp] def throw (error : ε) : Prog Op Reply ε α :=
  .done (.error error)

/-- Sequential composition; an exception of the first program skips the
second. -/
def bind : Prog Op Reply ε α → (α → Prog Op Reply ε β) → Prog Op Reply ε β
  | .done (.ok a), f => f a
  | .done (.error e), _ => .done (.error e)
  | .call op next, f => .call op fun reply => bind (next reply) f

/-- `try body catch e => handler e`. -/
def tryCatch : Prog Op Reply ε α → (ε → Prog Op Reply ε α) → Prog Op Reply ε α
  | .done (.ok a), _ => .done (.ok a)
  | .done (.error e), handler => handler e
  | .call op next, handler => .call op fun reply => tryCatch (next reply) handler

instance : Monad (Prog Op Reply ε) where
  pure a := .done (.ok a)
  bind := bind

/-- `for x in xs { body x }`, with a local variable the body updates. -/
def foldEach {γ : Type} (body : β → γ → Prog Op Reply ε γ) :
    List β → γ → Prog Op Reply ε γ
  | [], acc => pure acc
  | x :: xs, acc => do
      let acc ← body x acc
      foldEach body xs acc

/-- `for x in xs { body x }`. -/
def forEach (body : β → Prog Op Reply ε Unit) (xs : List β) : Prog Op Reply ε Unit :=
  foldEach (fun x _ => body x) xs ()

@[simp] theorem pure_eq_done (a : α) :
    (pure a : Prog Op Reply ε α) = .done (.ok a) := rfl

@[simp] theorem bind_eq_bind (p : Prog Op Reply ε α) (f : α → Prog Op Reply ε β) :
    p >>= f = p.bind f := rfl

@[simp] theorem bind_done_ok (a : α) (f : α → Prog Op Reply ε β) :
    bind (.done (.ok a)) f = f a := rfl

@[simp] theorem bind_done_error (e : ε) (f : α → Prog Op Reply ε β) :
    bind (.done (.error e)) f = .done (.error e) := rfl

@[simp] theorem bind_call (op : Op)
    (next : Except ε (Reply op) → Prog Op Reply ε α) (f : α → Prog Op Reply ε β) :
    bind (.call op next) f = .call op fun reply => (next reply).bind f := rfl

@[simp] theorem tryCatch_done_ok (a : α) (handler : ε → Prog Op Reply ε α) :
    tryCatch (.done (.ok a)) handler = .done (.ok a) := rfl

@[simp] theorem tryCatch_done_error (e : ε) (handler : ε → Prog Op Reply ε α) :
    tryCatch (.done (.error e)) handler = handler e := rfl

@[simp] theorem tryCatch_call (op : Op)
    (next : Except ε (Reply op) → Prog Op Reply ε α)
    (handler : ε → Prog Op Reply ε α) :
    tryCatch (.call op next) handler =
      .call op fun reply => (next reply).tryCatch handler := rfl

theorem bind_assoc {γ : Type} (p : Prog Op Reply ε α) (f : α → Prog Op Reply ε β)
    (g : β → Prog Op Reply ε γ) : (p.bind f).bind g = p.bind fun a => (f a).bind g := by
  induction p with
  | done result => cases result <;> rfl
  | call op next ih => exact congrArg _ (funext ih)

/-- A program without a value does not need to end with one. -/
theorem bind_unit (p : Prog Op Reply ε Unit) : (p.bind fun _ => .done (.ok ())) = p := by
  induction p with
  | done result => cases result <;> rfl
  | call op next ih => exact congrArg _ (funext ih)

/-! ## Uninterrupted execution -/

/-- Execute a program to its end.  The handler answers every operation and
updates the store. -/
def run (handle : (op : Op) → σ → Except ε (Reply op) × σ) :
    Prog Op Reply ε α → σ → Except ε α × σ
  | .done result, s => (result, s)
  | .call op next, s => run handle (next (handle op s).1) (handle op s).2

variable (handle : (op : Op) → σ → Except ε (Reply op) × σ)

@[simp] theorem run_done (result : Except ε α) (s : σ) :
    run handle (.done result) s = (result, s) := rfl

@[simp] theorem run_call (op : Op)
    (next : Except ε (Reply op) → Prog Op Reply ε α) (s : σ) :
    run handle (.call op next) s =
      run handle (next (handle op s).1) (handle op s).2 := rfl

/-- A composition runs the first program and hands its value, or its
exception, on. -/
theorem run_bind (p : Prog Op Reply ε α) (f : α → Prog Op Reply ε β) (s : σ) :
    run handle (p.bind f) s =
      match run handle p s with
      | (.ok a, t) => run handle (f a) t
      | (.error e, t) => (.error e, t) := by
  -- every operation changes the store, so the statement is about all stores
  induction p generalizing s with
  | done result => cases result <;> rfl
  | call op next ih => exact ih _ _

theorem run_bind_ok {p : Prog Op Reply ε α} {f : α → Prog Op Reply ε β}
    {s t : σ} {a : α} (hp : run handle p s = (.ok a, t)) :
    run handle (p.bind f) s = run handle (f a) t := by
  rw [run_bind, hp]

theorem run_bind_error {p : Prog Op Reply ε α} {f : α → Prog Op Reply ε β}
    {s t : σ} {e : ε} (hp : run handle p s = (.error e, t)) :
    run handle (p.bind f) s = (.error e, t) := by
  rw [run_bind, hp]

/-- A result that is thrown away does not matter for the store. -/
theorem run_discard (p : Prog Op Reply ε α) (s : σ) :
    (run handle (p.bind fun _ => pure PUnit.unit) s).2 = (run handle p s).2 := by
  rw [run_bind]
  generalize run handle p s = result
  obtain ⟨_ | _, _⟩ := result <;> rfl

theorem run_tryCatch (p : Prog Op Reply ε α) (handler : ε → Prog Op Reply ε α)
    (s : σ) :
    run handle (p.tryCatch handler) s =
      match run handle p s with
      | (.ok a, t) => (.ok a, t)
      | (.error e, t) => run handle (handler e) t := by
  induction p generalizing s with
  | done result => cases result <;> rfl
  | call op next ih => exact ih _ _

theorem run_tryCatch_ok {p : Prog Op Reply ε α} {handler : ε → Prog Op Reply ε α}
    {s t : σ} {a : α} (hp : run handle p s = (.ok a, t)) :
    run handle (p.tryCatch handler) s = (.ok a, t) := by
  rw [run_tryCatch, hp]

theorem run_tryCatch_error {p : Prog Op Reply ε α}
    {handler : ε → Prog Op Reply ε α} {s t : σ} {e : ε}
    (hp : run handle p s = (.error e, t)) :
    run handle (p.tryCatch handler) s = run handle (handler e) t := by
  rw [run_tryCatch, hp]

/-- A loop whose body returns normally folds the updates of the body over the
local variable and the effects of the body over the store. -/
theorem run_foldEach {γ : Type} {body : β → γ → Prog Op Reply ε γ}
    (update : β → γ → γ) (effect : β → σ → σ) (xs : List β)
    (hbody : ∀ x ∈ xs, ∀ acc s,
      run handle (body x acc) s = (.ok (update x acc), effect x s)) (acc : γ) (s : σ) :
    run handle (foldEach body xs acc) s =
      (.ok (xs.foldl (fun a x => update x a) acc),
        xs.foldl (fun t x => effect x t) s) := by
  induction xs generalizing acc s with
  | nil => rfl
  | cons x xs ih =>
      have hx := hbody x List.mem_cons_self acc s
      have hxs : ∀ y ∈ xs, ∀ acc s,
          run handle (body y acc) s = (.ok (update y acc), effect y s) :=
        fun y hy => hbody y (List.mem_cons_of_mem x hy)
      simp only [foldEach, bind_eq_bind, List.foldl_cons]
      rw [run_bind_ok handle hx]
      exact ih hxs (update x acc) (effect x s)

/-- A loop whose body returns normally does so, too. -/
theorem run_foldEach_ok {γ : Type} {body : β → γ → Prog Op Reply ε γ} {xs : List β}
    (hbody : ∀ x ∈ xs, ∀ acc s, ∃ acc' t, run handle (body x acc) s = (.ok acc', t)) (acc : γ)
    (s : σ) : ∃ acc' t, run handle (foldEach body xs acc) s = (.ok acc', t) := by
  induction xs generalizing acc s with
  | nil => exact ⟨acc, s, rfl⟩
  | cons x rest ih =>
      obtain ⟨acc', t, hx⟩ := hbody x List.mem_cons_self acc s
      obtain ⟨acc'', u, hrest⟩ := ih (fun y hy => hbody y (List.mem_cons_of_mem x hy)) acc' t
      exact ⟨acc'', u, (run_bind_ok handle hx).trans hrest⟩

theorem run_forEach {body : β → Prog Op Reply ε Unit} (effect : β → σ → σ)
    (xs : List β)
    (hbody : ∀ x ∈ xs, ∀ s, run handle (body x) s = (.ok (), effect x s)) (s : σ) :
    run handle (forEach body xs) s =
      (.ok (), xs.foldl (fun t x => effect x t) s) :=
  run_foldEach handle (fun _ _ => ()) effect xs (fun x hx _ t => hbody x hx t) () s

/-- The handler under which the operations `fault` selects throw and leave the
store alone. -/
def failing (fault : Op → Option ε) (op : Op) (s : σ) : Except ε (Reply op) × σ :=
  match fault op with
  | none => handle op s
  | some e => (.error e, s)

/-! ## Programs of restricted operations -/

/-- Every operation the program comes to, whatever the replies, is of the kind
`K`. -/
def Only (K : Op → Prop) : Prog Op Reply ε α → Prop
  | .done _ => True
  | .call op next => K op ∧ ∀ reply, Only K (next reply)

variable {K : Op → Prop}

@[simp] theorem only_done (result : Except ε α) :
    (Prog.done result : Prog Op Reply ε α).Only K := trivial

@[simp] theorem only_call (op : Op) (next : Except ε (Reply op) → Prog Op Reply ε α) :
    (Prog.call op next).Only K ↔ K op ∧ ∀ reply, (next reply).Only K := Iff.rfl

/-- After an operation, the program continues with a value. -/
@[simp] theorem only_done_bind (f : α → Prog Op Reply ε β) :
    (∀ result : Except ε α, ((Prog.done result).bind f).Only K) ↔ ∀ a, (f a).Only K := by
  constructor
  · intro h a
    exact h (.ok a)
  · rintro h (e | a)
    · trivial
    · exact h a

theorem Only.bind {p : Prog Op Reply ε α} {f : α → Prog Op Reply ε β} (h : p.Only K)
    (hf : ∀ a, (f a).Only K) : (p.bind f).Only K := by
  induction p with
  | done result =>
      cases result with
      | ok a => exact hf a
      | error e => trivial
  | call op next ih => exact ⟨h.1, fun reply => ih reply (h.2 reply)⟩

theorem Only.perform_bind {op : Op} {f : Reply op → Prog Op Reply ε β} (h : K op)
    (hf : ∀ a, (f a).Only K) : (Prog.perform op >>= f).Only K :=
  Only.bind (p := Prog.perform op) ⟨h, fun _ => trivial⟩ hf

theorem Only.tryCatch {p : Prog Op Reply ε α} {handler : ε → Prog Op Reply ε α}
    (h : p.Only K) (hhandler : ∀ e, (handler e).Only K) : (p.tryCatch handler).Only K := by
  induction p with
  | done result =>
      cases result with
      | ok a => trivial
      | error e => exact hhandler e
  | call op next ih => exact ⟨h.1, fun reply => ih reply (h.2 reply)⟩

theorem Only.foldEach_of_mem {body : β → γ → Prog Op Reply ε γ} {xs : List β}
    (h : ∀ x ∈ xs, ∀ acc, (body x acc).Only K) (acc : γ) :
    (Prog.foldEach body xs acc).Only K := by
  induction xs generalizing acc with
  | nil => trivial
  | cons x rest ih =>
      have hrest := ih fun y hy => h y (List.mem_cons_of_mem x hy)
      exact (h x List.mem_cons_self acc).bind fun acc => hrest acc

theorem Only.foldEach {body : β → γ → Prog Op Reply ε γ} (h : ∀ x acc, (body x acc).Only K)
    (xs : List β) (acc : γ) : (Prog.foldEach body xs acc).Only K :=
  Only.foldEach_of_mem (fun x _ acc => h x acc) acc

/-- Faults in operations that a program does not perform do not change its
execution. -/
theorem Only.run_failing {σ : Type} {handle : (op : Op) → σ → Except ε (Reply op) × σ}
    {fault : Op → Option ε} {p : Prog Op Reply ε α} (h : p.Only fun op => fault op = none)
    (s : σ) : run (failing handle fault) p s = run handle p s := by
  induction p generalizing s with
  | done result => rfl
  | call op next ih =>
      have hop : failing handle fault op s = handle op s := by rw [failing, h.1]
      rw [run_call, run_call, hop]
      exact ih _ (h.2 _) _

end Prog
