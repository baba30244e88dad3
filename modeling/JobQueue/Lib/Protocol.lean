import JobQueue.Lib.Prog

/-!
# Protocols and the programs that obey them

A protocol says how one thread may use the operations: in which local state
(`Local`) which operation is allowed, which replies an operation can have, and
how the local state follows the replies.  A program obeys the protocol from a
local state, with a postcondition on its end, if every operation it can come to
is allowed where it comes to it.

`Obeys` is defined by recursion on the program, so it is computed rather than
derived on straight-line code; the rules below are for compositions, exceptions
and loops.  The point of a protocol is `Pool`: what all threads obey holds
whatever the interleaving.
-/

/-- The rules of one thread. -/
structure Protocol (Op : Type) (Reply : Op → Type) (ε Local : Type) where
  possible : (op : Op) → Except ε (Reply op) → Prop
  allows : Local → Op → Prop
  next : Local → (op : Op) → Except ε (Reply op) → Local

namespace Prog

variable {Op : Type} {Reply : Op → Type} {ε Local α β γ : Type}
variable (P : Protocol Op Reply ε Local)

/-- Every operation the program comes to is allowed, and `post` holds of the
local state and the result at its end. -/
def Obeys : Prog Op Reply ε α → Local → (Local → Except ε α → Prop) → Prop
  | .done result, l, post => post l result
  | .call op next, l, post =>
      P.allows l op ∧ ∀ reply, P.possible op reply →
        Obeys (next reply) (P.next l op reply) post

variable {P} {l : Local}

@[simp] theorem obeys_done (result : Except ε α) (post : Local → Except ε α → Prop) :
    Obeys P (.done result) l post ↔ post l result := Iff.rfl

/-- The rule of consequence. -/
theorem Obeys.mono {p : Prog Op Reply ε α} {post post' : Local → Except ε α → Prop}
    (h : Obeys P p l post) (himp : ∀ l result, post l result → post' l result) :
    Obeys P p l post' := by
  induction p generalizing l with
  | done result => exact himp l result h
  | call op next ih => exact ⟨h.1, fun reply hreply => ih reply (h.2 reply hreply)⟩

/-- The rule of composition; an exception skips the second program. -/
theorem Obeys.bind {p : Prog Op Reply ε α} {f : α → Prog Op Reply ε β}
    {mid : Local → Except ε α → Prop} {post : Local → Except ε β → Prop}
    (h : Obeys P p l mid) (hok : ∀ l a, mid l (.ok a) → Obeys P (f a) l post)
    (herror : ∀ l e, mid l (.error e) → post l (.error e)) :
    Obeys P (p.bind f) l post := by
  induction p generalizing l with
  | done result =>
      cases result with
      | ok a => exact hok l a h
      | error e => exact herror l e h
  | call op next ih => exact ⟨h.1, fun reply hreply => ih reply (h.2 reply hreply)⟩

/-- The rule of `try`: an exception of the body is handed to the handler. -/
theorem Obeys.tryCatch {p : Prog Op Reply ε α} {handler : ε → Prog Op Reply ε α}
    {mid post : Local → Except ε α → Prop} (h : Obeys P p l mid)
    (hok : ∀ l a, mid l (.ok a) → post l (.ok a))
    (herror : ∀ l e, mid l (.error e) → Obeys P (handler e) l post) :
    Obeys P (p.tryCatch handler) l post := by
  induction p generalizing l with
  | done result =>
      cases result with
      | ok a => exact hok l a h
      | error e => exact herror l e h
  | call op next ih => exact ⟨h.1, fun reply hreply => ih reply (h.2 reply hreply)⟩

/-- The rule of loops.  The invariant speaks about the items still to come, and
the body keeps it for the rest.  A loop that an exception ends has no items to
come either. -/
theorem Obeys.foldEach {body : β → γ → Prog Op Reply ε γ} (Inv : List β → Local → Prop)
    (hexit : ∀ rest l, Inv rest l → Inv [] l)
    (hbody : ∀ x rest acc l, Inv (x :: rest) l → Obeys P (body x acc) l fun l _ => Inv rest l)
    {xs : List β} {acc : γ} (h : Inv xs l) :
    Obeys P (Prog.foldEach body xs acc) l fun l _ => Inv [] l := by
  induction xs generalizing acc l with
  | nil => exact h
  | cons x rest ih =>
      rw [Prog.foldEach, bind_eq_bind]
      -- after an exception the items of `rest` are never handled
      exact (hbody x rest acc l h).bind (fun l _ hinv => ih hinv)
        (fun l _ hinv => hexit rest l hinv)

theorem Obeys.forEach {body : β → Prog Op Reply ε Unit} (Inv : List β → Local → Prop)
    (hexit : ∀ rest l, Inv rest l → Inv [] l)
    (hbody : ∀ x rest l, Inv (x :: rest) l → Obeys P (body x) l fun l _ => Inv rest l)
    {xs : List β} (h : Inv xs l) :
    Obeys P (Prog.forEach body xs) l fun l _ => Inv [] l :=
  Obeys.foldEach Inv hexit (fun x rest _ l hinv => hbody x rest l hinv) h

/-! ## Two executions -/

/-- Where related stores give the same reply to an allowed operation and stay
related, so do they for an obedient program. -/
theorem Obeys.run_related {σ τ : Type} {handle : (op : Op) → σ → Except ε (Reply op) × σ}
    {handle' : (op : Op) → τ → Except ε (Reply op) × τ} (R : σ → τ → Prop)
    (hstep : ∀ l op s t, P.allows l op → R s t →
      P.possible op (handle op s).1 ∧ (handle op s).1 = (handle' op t).1 ∧
        R (handle op s).2 (handle' op t).2)
    {p : Prog Op Reply ε α} {post : Local → Except ε α → Prop} (h : Obeys P p l post)
    {s : σ} {t : τ} (hR : R s t) :
    (run handle p s).1 = (run handle' p t).1 ∧ R (run handle p s).2 (run handle' p t).2 := by
  induction p generalizing l s t with
  | done result => exact ⟨rfl, hR⟩
  | call op next ih =>
      obtain ⟨hpossible, hreply, hnext⟩ := hstep l op s t h.1 hR
      rw [run_call, run_call, ← hreply]
      exact ih _ (h.2 _ hpossible) hnext

/-! ## From one protocol to another -/

/-- A program that obeys a protocol obeys every protocol that simulates it: a
relation of the local states is kept by every allowed operation, and what is
allowed in one is allowed in the other. -/
theorem Obeys.simulate {Local' : Type} {P' : Protocol Op Reply ε Local'}
    (R : Local → Local' → Prop)
    (hpossible : ∀ op reply, P'.possible op reply → P.possible op reply)
    (hallows : ∀ l l' op, R l l' → P.allows l op → P'.allows l' op)
    (hnext : ∀ l l' op reply, R l l' → P.allows l op → P.possible op reply →
      R (P.next l op reply) (P'.next l' op reply))
    {p : Prog Op Reply ε α} {post : Local → Except ε α → Prop}
    {post' : Local' → Except ε α → Prop}
    (hpost : ∀ l l' result, R l l' → post l result → post' l' result)
    {l' : Local'} (hR : R l l') (h : Obeys P p l post) : Obeys P' p l' post' := by
  induction p generalizing l l' with
  | done result => exact hpost l l' result hR h
  | call op next ih =>
      refine ⟨hallows l l' op hR h.1, fun reply hreply => ?_⟩
      have hreply' := hpossible op reply hreply
      exact ih reply (hnext l l' op reply hR h.1 hreply') (h.2 reply hreply')

/-! ## Programs of restricted operations -/

/-- A program of operations that a set of local states always allows, and that
keep this set, obeys the protocol from there. -/
theorem Only.obeys {K : Op → Prop} {p : Prog Op Reply ε α} (Inv : Local → Prop) (h : p.Only K)
    (hK : ∀ l op, K op → Inv l → P.allows l op ∧ ∀ reply, Inv (P.next l op reply))
    (hl : Inv l) : p.Obeys P l fun l _ => Inv l := by
  induction p generalizing l with
  | done result => exact hl
  | call op next ih =>
      obtain ⟨hop, hnext⟩ := h
      obtain ⟨hallows, hkeep⟩ := hK l op hop hl
      exact ⟨hallows, fun reply _ => ih reply (hnext reply) (hkeep reply)⟩

end Prog
