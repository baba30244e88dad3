import JobQueue.Lib.Layers
import JobQueue.Lib.Pool

/-!
# Budgets

`p.Within cost n` says that the operations of `p` cost at most `n` together, whatever the
replies.  Budgets add up along a composition and are multiplied by attempts and by layers.

A pool spends no more than the budgets of the programs that were started in it, whatever the
interleaving: what the threads have left and what has been spent is what was granted.
-/

namespace Prog

variable {Op Op' : Type} {Reply : Op → Type} {Reply' : Op' → Type} {ε α β : Type}

/-- The operations cost at most `n`. -/
def Within (cost : Op → Nat) : Prog Op Reply ε α → Nat → Prop
  | .done _, _ => True
  | .call op next, n => cost op ≤ n ∧ ∀ reply, Within cost (next reply) (n - cost op)

variable {cost : Op → Nat} {p : Prog Op Reply ε α} {m n : Nat}

@[simp] theorem within_done (result : Except ε α) :
    (Prog.done result : Prog Op Reply ε α).Within cost n := trivial

theorem Within.mono (h : p.Within cost m) (hle : m ≤ n) : p.Within cost n := by
  induction p generalizing m n with
  | done result => trivial
  | call op next ih =>
      exact ⟨h.1.trans hle, fun reply => ih reply (h.2 reply) (Nat.sub_le_sub_right hle _)⟩

/-- A program that continues with its result, whatever it is. -/
theorem Within.andThen {f : Except ε α → Prog Op Reply ε β} (h : p.Within cost m)
    (hf : ∀ result, (f result).Within cost n) : (p.andThen f).Within cost (m + n) := by
  induction p generalizing m with
  | done result => exact (hf result).mono (Nat.le_add_left n m)
  | call op next ih =>
      obtain ⟨hop, hnext⟩ := h
      refine ⟨hop.trans (Nat.le_add_right m n), fun reply => ?_⟩
      rw [Nat.sub_add_comm hop]
      exact ih reply (hnext reply)

theorem bind_eq_andThen (p : Prog Op Reply ε α) (f : α → Prog Op Reply ε β) :
    p.bind f = p.andThen fun
      | .ok a => f a
      | .error e => .done (.error e) := by
  induction p with
  | done result => cases result <;> rfl
  | call op next ih => exact congrArg _ (funext ih)

theorem tryCatch_eq_andThen (p : Prog Op Reply ε α) (handler : ε → Prog Op Reply ε α) :
    p.tryCatch handler = p.andThen fun
      | .ok a => .done (.ok a)
      | .error e => handler e := by
  induction p with
  | done result => cases result <;> rfl
  | call op next ih => exact congrArg _ (funext ih)

theorem Within.bind {f : α → Prog Op Reply ε β} (h : p.Within cost m)
    (hf : ∀ a, (f a).Within cost n) : (p.bind f).Within cost (m + n) := by
  rw [bind_eq_andThen]
  refine h.andThen ?_
  rintro (e | a)
  · trivial
  · exact hf a

theorem Within.tryCatch {handler : ε → Prog Op Reply ε α} (h : p.Within cost m)
    (hhandler : ∀ e, (handler e).Within cost n) : (p.tryCatch handler).Within cost (m + n) := by
  rw [tryCatch_eq_andThen]
  refine h.andThen ?_
  rintro (e | a)
  · exact hhandler e
  · trivial

/-- Every attempt may cost as much as the program. -/
theorem Within.retry {wrap : ε → ε} (h : p.Within cost n) (attempts : Nat) :
    (p.retry wrap attempts).Within cost ((attempts + 1) * n) := by
  induction attempts with
  | zero =>
      have hlast : (p.tryCatch fun e => .done (.error (wrap e))).Within cost (n + 0) :=
        h.tryCatch fun _ => trivial
      rw [zero_add, one_mul]
      exact hlast
  | succ attempts ih =>
      have hfirst : (p.tryCatch fun _ => p.retry wrap attempts).Within cost
          (n + (attempts + 1) * n) := h.tryCatch fun _ => ih
      exact hfirst.mono (by ring_nf; omega)

/-- A layer costs what its operations are said to cost in the layer above. -/
theorem Within.translate {cost' : Op' → Nat} {impl : (op : Op) → Prog Op' Reply' ε (Reply op)}
    (h : p.Within cost n) (himpl : ∀ op, (impl op).Within cost' (cost op)) :
    (p.translate impl).Within cost' n := by
  induction p generalizing n with
  | done result => trivial
  | call op next ih =>
      have hcall := (himpl op).andThen fun reply => ih reply (h.2 reply)
      rw [Nat.add_sub_cancel' h.1] at hcall
      exact hcall

end Prog

/-! ## Pools -/

namespace Pool

variable {Op : Type} {Reply : Op → Type} {ε Tag Env σ : Type}

/-- The threads have budgets that add up to `N`. -/
def Within (cost : Op → Nat) (p : Pool Op Reply ε Tag σ) (N : Nat) : Prop :=
  ∃ budgets : List Nat, List.Forall₂ (fun t n => t.prog.Within cost n) p.threads budgets ∧
    budgets.sum = N

/-- What a step spends. -/
def Label.spent (cost : Op → Nat) : Label Op Reply ε Tag Env → Nat
  | .perform _ op _ => cost op
  | .start _ | .stop _ => 0

/-- What a step is granted if every program that starts gets the budget `n`. -/
def Label.granted (n : Nat) : Label Op Reply ε Tag Env → Nat
  | .start _ => n
  | .perform _ _ _ | .stop _ => 0

variable {cost : Op → Nat} {S : Shared Op Reply ε Tag Env σ} {p q : Pool Op Reply ε Tag σ}
  {label : Label Op Reply ε Tag Env} {n N : Nat}

theorem Label.granted_eq (n : Nat) (label : Label Op Reply ε Tag Env) :
    label.granted n = n * label.granted 1 := by
  cases label <;> simp [Label.granted]

theorem within_empty (s : σ) : (⟨s, []⟩ : Pool Op Reply ε Tag σ).Within cost 0 :=
  ⟨[], .nil, rfl⟩

/-- A budget for the threads of a list is one for each of its parts. -/
theorem forall₂_cut {α β : Type} {R : α → β → Prop} {before after : List α} {a : α}
    {list : List β} (h : List.Forall₂ R (before ++ a :: after) list) :
    ∃ first b last, list = first ++ b :: last ∧ List.Forall₂ R before first ∧ R a b ∧
      List.Forall₂ R after last := by
  induction before generalizing list with
  | nil =>
      cases h with
      | cons hab hafter => exact ⟨[], _, _, rfl, .nil, hab, hafter⟩
  | cons head rest ih =>
      cases h with
      | cons hhead hrest =>
          obtain ⟨first, b, last, rfl, hfirst, hab, hlast⟩ := ih hrest
          exact ⟨_ :: first, b, last, rfl, .cons hhead hfirst, hab, hlast⟩

/-- A step spends from the budgets of the threads, and what is left covers the threads after
it. -/
theorem Within.step (hprograms : ∀ tag, (S.program tag).Within cost n)
    (hstep : Step S p label q) (h : p.Within cost N) :
    ∃ M, q.Within cost M ∧ label.spent cost + M ≤ N + label.granted n := by
  obtain ⟨budgets, hbudgets, rfl⟩ := h
  cases hstep with
  | start tag henabled =>
      refine ⟨_, ⟨budgets ++ [n], ?_, rfl⟩, by simp [Label.spent, Label.granted]⟩
      exact List.rel_append hbudgets (.cons (hprograms tag) .nil)
  | @perform s before after t op next env hprog =>
      obtain ⟨first, budget, last, rfl, hfirst, hthread, hlast⟩ := forall₂_cut hbudgets
      rw [hprog] at hthread
      obtain ⟨hop, hnext⟩ := hthread
      refine ⟨_, ⟨first ++ (budget - cost op) :: last, ?_, rfl⟩, ?_⟩
      · exact List.rel_append hfirst (.cons (hnext _) hlast)
      · simp only [Label.spent, Label.granted, List.sum_append, List.sum_cons]
        omega
  | @stop s before after t =>
      obtain ⟨first, budget, last, rfl, hfirst, -, hlast⟩ := forall₂_cut hbudgets
      refine ⟨_, ⟨first ++ last, List.rel_append hfirst hlast, rfl⟩, ?_⟩
      simp only [Label.spent, Label.granted, List.sum_append, List.sum_cons]
      omega

end Pool
