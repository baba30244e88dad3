import JobQueue.Lib.Protocol

/-!
# Programs in layers

`translate` replaces every operation of a program by a program of the layer below, and hands
the result of that on, be it a value or an exception.  What comes out obeys a protocol of the layer below
if each replacement does, so each layer is reasoned about with the operations of its own.

`retry` makes a number of attempts at a program.
-/

namespace Prog

variable {Op Op' : Type} {Reply : Op → Type} {Reply' : Op' → Type} {ε α β : Type}

/-! ## Translation -/

/-- Execute a program and continue with its result, also if this is an exception. -/
def andThen : Prog Op Reply ε α → (Except ε α → Prog Op Reply ε β) → Prog Op Reply ε β
  | .done result, f => f result
  | .call op next, f => .call op fun reply => andThen (next reply) f

/-- Replace every operation by a program. -/
def translate (impl : (op : Op) → Prog Op' Reply' ε (Reply op)) :
    Prog Op Reply ε α → Prog Op' Reply' ε α
  | .done result => .done result
  | .call op next => (impl op).andThen fun reply => translate impl (next reply)

@[simp] theorem andThen_done (result : Except ε α) (f : Except ε α → Prog Op Reply ε β) :
    (Prog.done result).andThen f = f result := rfl

@[simp] theorem translate_done (impl : (op : Op) → Prog Op' Reply' ε (Reply op))
    (result : Except ε α) : (Prog.done result).translate impl = .done result := rfl

@[simp] theorem translate_call (impl : (op : Op) → Prog Op' Reply' ε (Reply op)) (op : Op)
    (next : Except ε (Reply op) → Prog Op Reply ε α) :
    (Prog.call op next).translate impl =
      (impl op).andThen fun reply => (next reply).translate impl := rfl

variable {K : Op → Prop} {K' : Op' → Prop}

theorem Only.andThen {p : Prog Op Reply ε α} {f : Except ε α → Prog Op Reply ε β}
    (h : p.Only K) (hf : ∀ result, (f result).Only K) : (p.andThen f).Only K := by
  induction p with
  | done result => exact hf result
  | call op next ih => exact ⟨h.1, fun reply => ih reply (h.2 reply)⟩

/-- A translated program performs what the translations of its operations perform. -/
theorem Only.translate {impl : (op : Op) → Prog Op' Reply' ε (Reply op)} {p : Prog Op Reply ε α}
    (h : p.Only K) (himpl : ∀ op, K op → (impl op).Only K') : (p.translate impl).Only K' := by
  induction p with
  | done result => trivial
  | call op next ih => exact (himpl op h.1).andThen fun reply => ih reply (h.2 reply)

/-! ## Protocols of the layers -/

section Protocols

variable {Local Local' : Type} {P : Protocol Op Reply ε Local} {l : Local}

theorem Obeys.andThen {p : Prog Op Reply ε α} {f : Except ε α → Prog Op Reply ε β}
    {mid : Local → Except ε α → Prop} {post : Local → Except ε β → Prop} (h : Obeys P p l mid)
    (hf : ∀ l result, mid l result → Obeys P (f result) l post) :
    Obeys P (p.andThen f) l post := by
  induction p generalizing l with
  | done result => exact hf l result h
  | call op next ih => exact ⟨h.1, fun reply hreply => ih reply (h.2 reply hreply)⟩

/-- A translated program obeys a protocol of the layer below if every operation that the
protocol above allows is translated to a program that does, and a relation of the local states
is kept on the way. -/
theorem Obeys.translate {P' : Protocol Op' Reply' ε Local'} (R : Local → Local' → Prop)
    {impl : (op : Op) → Prog Op' Reply' ε (Reply op)}
    (himpl : ∀ l l' op, R l l' → P.allows l op → (impl op).Obeys P' l'
      fun l' reply => P.possible op reply ∧ R (P.next l op reply) l')
    {p : Prog Op Reply ε α} {post : Local → Except ε α → Prop} (h : p.Obeys P l post)
    {l' : Local'} (hR : R l l') :
    (p.translate impl).Obeys P' l' fun l' result => ∃ l, R l l' ∧ post l result := by
  induction p generalizing l l' with
  | done result => exact ⟨l, hR, h⟩
  | call op next ih =>
      refine (himpl l l' op hR h.1).andThen ?_
      rintro l'' reply ⟨hpossible, hnext⟩
      exact ih reply (h.2 reply hpossible) hnext

end Protocols

/-! ## Retries -/

/-- Attempt a program, and again up to `n` times as long as it throws; an exception of the last
attempt is wrapped. -/
def retry (wrap : ε → ε) (p : Prog Op Reply ε α) : Nat → Prog Op Reply ε α
  | 0 => p.tryCatch fun e => .done (.error (wrap e))
  | n + 1 => p.tryCatch fun _ => retry wrap p n

theorem Only.retry {wrap : ε → ε} {p : Prog Op Reply ε α} (h : p.Only K) (n : Nat) :
    (p.retry wrap n).Only K := by
  induction n with
  | zero => exact h.tryCatch fun _ => trivial
  | succ n ih => exact h.tryCatch fun _ => ih

/-- Attempts that obey a protocol from every local state of an invariant, and keep it when they
throw. -/
theorem Obeys.retry {Local : Type} {P : Protocol Op Reply ε Local} {wrap : ε → ε}
    {p : Prog Op Reply ε α} (Inv : Local → Prop) {post : Local → Except ε α → Prop}
    (hp : ∀ l, Inv l → Obeys P p l fun l result =>
      (∀ a, result = .ok a → post l (.ok a)) ∧ ((∃ e, result = .error e) → Inv l))
    (hlast : ∀ l e, Inv l → post l (.error (wrap e))) (n : Nat) {l : Local} (hl : Inv l) :
    Obeys P (p.retry wrap n) l post := by
  induction n generalizing l with
  | zero =>
      refine (hp l hl).tryCatch (fun _ a h => h.1 a rfl) ?_
      exact fun l e h => hlast l e (h.2 ⟨e, rfl⟩)
  | succ n ih =>
      refine (hp l hl).tryCatch (fun _ a h => h.1 a rfl) ?_
      exact fun l e h => ih (h.2 ⟨e, rfl⟩)

end Prog
