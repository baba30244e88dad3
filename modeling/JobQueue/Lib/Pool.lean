import JobQueue.Lib.Protocol
import JobQueue.Lib.Transition

/-!
# Pools of threads

Any number of threads execute programs over one store, one operation at a time
and in any order.  A thread knows the call it executes, the replies it got so
far and what is left of its program.  A thread may also stop, that is, vanish
between two of its operations.

Which calls start, which operations find the store in a state they expect and
which threads stop is said by a `Discipline`.  The rule `Pool.invariant` reduces
an invariant of all disciplined interleavings to three facts about the store and
the local states of a protocol: starting, performing one allowed operation and
stopping keep it.
-/

/-- One operation and its reply. -/
structure Event (Op : Type) (Reply : Op → Type) (ε : Type) where
  op : Op
  reply : Except ε (Reply op)

structure Thread (Op : Type) (Reply : Op → Type) (ε Tag : Type) where
  tag : Tag
  history : List (Event Op Reply ε)
  prog : Prog Op Reply ε Unit

/-- What the threads have in common: the program of each call, the meaning of
the operations, when a call may start, and what starting and stopping do to the
store. -/
structure Shared (Op : Type) (Reply : Op → Type) (ε Tag Env σ : Type) where
  program : Tag → Prog Op Reply ε Unit
  perform : Env → (op : Op) → σ → Except ε (Reply op) × σ
  Enabled : Tag → σ → Prop
  start : Tag → σ → σ
  stop : Thread Op Reply ε Tag → σ → σ

structure Pool (Op : Type) (Reply : Op → Type) (ε Tag σ : Type) where
  store : σ
  threads : List (Thread Op Reply ε Tag)

variable {Op : Type} {Reply : Op → Type} {ε Tag Env σ Local : Type}

namespace Thread

/-- The thread after the reply to its next operation. -/
def advance (t : Thread Op Reply ε Tag) (op : Op) (reply : Except ε (Reply op))
    (next : Except ε (Reply op) → Prog Op Reply ε Unit) : Thread Op Reply ε Tag :=
  ⟨t.tag, t.history ++ [⟨op, reply⟩], next reply⟩

/-- The local state of the protocol after the history of the thread. -/
def loc (P : Protocol Op Reply ε Local) (init : Tag → Local) (t : Thread Op Reply ε Tag) :
    Local :=
  t.history.foldl (fun l event => P.next l event.op event.reply) (init t.tag)

@[simp] theorem loc_advance (P : Protocol Op Reply ε Local) (init : Tag → Local)
    (t : Thread Op Reply ε Tag) (op : Op) (reply : Except ε (Reply op))
    (next : Except ε (Reply op) → Prog Op Reply ε Unit) :
    (t.advance op reply next).loc P init = P.next (t.loc P init) op reply := by
  simp [loc, advance, List.foldl_append]

end Thread

namespace Pool

/-- What happens in a pool. -/
inductive Label (Op : Type) (Reply : Op → Type) (ε Tag Env : Type) where
  | start (tag : Tag)
  | perform (t : Thread Op Reply ε Tag) (op : Op) (env : Env)
  | stop (t : Thread Op Reply ε Tag)

/-- One step of one thread. -/
inductive Step (S : Shared Op Reply ε Tag Env σ) :
    Pool Op Reply ε Tag σ → Label Op Reply ε Tag Env → Pool Op Reply ε Tag σ → Prop
  | start {s : σ} {threads : List (Thread Op Reply ε Tag)} (tag : Tag) :
      S.Enabled tag s →
      Step S ⟨s, threads⟩ (.start tag) ⟨S.start tag s, threads ++ [⟨tag, [], S.program tag⟩]⟩
  | perform {s : σ} {before after : List (Thread Op Reply ε Tag)}
      {t : Thread Op Reply ε Tag} {op : Op}
      {next : Except ε (Reply op) → Prog Op Reply ε Unit} (env : Env) :
      t.prog = .call op next →
      Step S ⟨s, before ++ t :: after⟩ (.perform t op env)
        ⟨(S.perform env op s).2,
          before ++ t.advance op (S.perform env op s).1 next :: after⟩
  | stop {s : σ} {before after : List (Thread Op Reply ε Tag)} (t : Thread Op Reply ε Tag) :
      Step S ⟨s, before ++ t :: after⟩ (.stop t) ⟨S.stop t s, before ++ after⟩

/-- A thread of a pool was there before the step, has just been started, or has just performed
its operation. -/
theorem thread_cases {S : Shared Op Reply ε Tag Env σ} {p q : Pool Op Reply ε Tag σ}
    {label : Label Op Reply ε Tag Env} {t : Thread Op Reply ε Tag} (hstep : Step S p label q)
    (ht : t ∈ q.threads) :
    t ∈ p.threads ∨ (∃ tag, label = .start tag ∧ t = ⟨tag, [], S.program tag⟩) ∨
      ∃ u ∈ p.threads, ∃ (op : Op) (next : Except ε (Reply op) → Prog Op Reply ε Unit)
        (env : Env), u.prog = .call op next ∧ label = .perform u op env ∧
          t = u.advance op (S.perform env op p.store).1 next := by
  cases hstep with
  | start tag henabled =>
      refine (List.mem_append.mp ht).imp_right fun hnew => .inl ⟨tag, rfl, ?_⟩
      exact List.mem_singleton.mp hnew
  | @perform s before after u op next env hprog =>
      rw [List.mem_append, List.mem_cons] at ht
      rcases ht with ht | rfl | ht
      · exact .inl (by simp [ht])
      · exact .inr (.inr ⟨u, by simp, op, next, env, hprog, rfl, rfl⟩)
      · exact .inl (by simp [ht])
  | @stop s before after u =>
      left
      rcases List.mem_append.mp ht with ht | ht <;> simp [ht]

end Pool

/-! ## Disciplined pools -/

/-- The steps a pool is restricted to: the calls that start, the operations a
thread performs in its local state on the store, the threads that stop. -/
structure Discipline (P : Protocol Op Reply ε Local) (Tag σ : Type) where
  init : Tag → Local
  final : Local → Prop
  starts : Tag → Prop
  performs : σ → Local → Op → Prop
  stops : Local → Prop

namespace Pool

variable {P : Protocol Op Reply ε Local} (S : Shared Op Reply ε Tag Env σ)
  (D : Discipline P Tag σ)

/-- The local states of the threads. -/
def locals (p : Pool Op Reply ε Tag σ) : List Local :=
  p.threads.map fun t => t.loc P D.init

/-- The discipline permits the step. -/
def Permits (p : Pool Op Reply ε Tag σ) : Label Op Reply ε Tag Env → Prop
  | .start tag => D.starts tag
  | .perform t op _ => D.performs p.store (t.loc P D.init) op
  | .stop t => D.stops (t.loc P D.init)

def DisciplinedStep (p : Pool Op Reply ε Tag σ) (label : Label Op Reply ε Tag Env)
    (q : Pool Op Reply ε Tag σ) : Prop :=
  Step S p label q ∧ Permits D p label

/-- The rest of the thread's program obeys the protocol. -/
def Follows (t : Thread Op Reply ε Tag) : Prop :=
  Prog.Obeys P t.prog (t.loc P D.init) fun l _ => D.final l

variable {S D}

/-- Threads whose programs obey a protocol keep obeying it. -/
theorem obeys_step {init : Tag → Local} {post : Local → Except ε Unit → Prop}
    {p q : Pool Op Reply ε Tag σ} {label : Label Op Reply ε Tag Env}
    (hprograms : ∀ tag, label = .start tag →
      Prog.Obeys P (S.program tag) (init tag) post)
    (hpossible : ∀ env op s, P.possible op (S.perform env op s).1)
    (hstep : Step S p label q)
    (h : ∀ t ∈ p.threads, Prog.Obeys P t.prog (t.loc P init) post) :
    ∀ t ∈ q.threads, Prog.Obeys P t.prog (t.loc P init) post := by
  intro t ht
  rcases thread_cases hstep ht with hold | ⟨tag, htag, rfl⟩ | ⟨u, hu, op, next, env, hprog, -, rfl⟩
  · exact h t hold
  · exact hprograms tag htag
  · -- the moving thread has a new rest, and it obeys after every possible reply
    have hobeys := h u hu
    rw [hprog] at hobeys
    rw [Thread.loc_advance]
    exact hobeys.2 _ (hpossible env op p.store)

theorem follows_step {p q : Pool Op Reply ε Tag σ} {label : Label Op Reply ε Tag Env}
    (hprograms : ∀ tag, D.starts tag →
      Prog.Obeys P (S.program tag) (D.init tag) fun l _ => D.final l)
    (hpossible : ∀ env op s, P.possible op (S.perform env op s).1)
    (hstep : DisciplinedStep S D p label q) (h : ∀ t ∈ p.threads, Follows D t) :
    ∀ t ∈ q.threads, Follows D t := by
  obtain ⟨hstep, hpermits⟩ := hstep
  refine obeys_step (fun tag htag => hprograms tag ?_) hpossible hstep h
  subst htag
  exact hpermits

/-- The invariant rule of disciplined interleavings, from a pool whose threads follow the
protocol. -/
theorem invariant_from (Inv : σ → List Local → Prop) {p q : Pool Op Reply ε Tag σ}
    {labels : List (Label Op Reply ε Tag Env)}
    (hrun : Run (DisciplinedStep S D) p labels q)
    (hprograms : ∀ tag, D.starts tag →
      Prog.Obeys P (S.program tag) (D.init tag) fun l _ => D.final l)
    (hpossible : ∀ env op s, P.possible op (S.perform env op s).1)
    (hstart : ∀ tag s ls, D.starts tag → S.Enabled tag s → Inv s ls →
      Inv (S.start tag s) (ls ++ [D.init tag]))
    (hperform : ∀ env op s before l after, P.allows l op → D.performs s l op →
      Inv s (before ++ l :: after) →
      Inv (S.perform env op s).2 (before ++ P.next l op (S.perform env op s).1 :: after))
    (hstop : ∀ t s before after, D.stops (t.loc P D.init) →
      Inv s (before ++ t.loc P D.init :: after) → Inv (S.stop t s) (before ++ after))
    (hp : Inv p.store (locals D p)) (hthreads : ∀ t ∈ p.threads, Follows D t) :
    Inv q.store (locals D q) ∧ ∀ t ∈ q.threads, Follows D t := by
  -- a thread may perform its next operation because it follows the protocol, so
  -- both halves are carried through the run together
  refine hrun.invariant
    (fun q => Inv q.store (locals D q) ∧ ∀ t ∈ q.threads, Follows D t) ?_ ⟨hp, hthreads⟩
  rintro p label q - ⟨hinv, hfollows⟩ hstep
  refine ⟨?_, follows_step hprograms hpossible hstep hfollows⟩
  obtain ⟨hstep, hpermits⟩ := hstep
  cases hstep with
  | start tag henabled =>
      rw [locals, List.map_append]
      exact hstart tag _ _ hpermits henabled hinv
  | @perform s before after t op next env hprog =>
      have hobeys : Follows D t := hfollows t (by simp)
      rw [Follows, hprog] at hobeys
      rw [locals, List.map_append, List.map_cons] at hinv ⊢
      rw [Thread.loc_advance]
      exact hperform env op s _ _ _ hobeys.1 hpermits hinv
  | @stop s before after t =>
      rw [locals, List.map_append, List.map_cons] at hinv
      rw [locals, List.map_append]
      exact hstop t s _ _ hpermits hinv

/-- The invariant rule of disciplined interleavings. -/
theorem invariant (Inv : σ → List Local → Prop) {p q : Pool Op Reply ε Tag σ}
    {labels : List (Label Op Reply ε Tag Env)}
    (hrun : Run (DisciplinedStep S D) p labels q)
    (hprograms : ∀ tag, D.starts tag →
      Prog.Obeys P (S.program tag) (D.init tag) fun l _ => D.final l)
    (hpossible : ∀ env op s, P.possible op (S.perform env op s).1)
    (hstart : ∀ tag s ls, D.starts tag → S.Enabled tag s → Inv s ls →
      Inv (S.start tag s) (ls ++ [D.init tag]))
    (hperform : ∀ env op s before l after, P.allows l op → D.performs s l op →
      Inv s (before ++ l :: after) →
      Inv (S.perform env op s).2 (before ++ P.next l op (S.perform env op s).1 :: after))
    (hstop : ∀ t s before after, D.stops (t.loc P D.init) →
      Inv s (before ++ t.loc P D.init :: after) → Inv (S.stop t s) (before ++ after))
    (hthreads : p.threads = []) (hp : Inv p.store []) :
    Inv q.store (locals D q) ∧ ∀ t ∈ q.threads, Follows D t := by
  refine invariant_from Inv hrun hprograms hpossible hstart hperform hstop ?_ ?_
  · rw [locals, hthreads]
    exact hp
  · rw [hthreads]
    simp

end Pool

/-! ## What threads remember -/

/-- The rules of threads that go by all they have seen since their call. -/
def Protocol.remembering (allows : Tag → List (Event Op Reply ε) → Op → Prop) :
    Protocol Op Reply ε (Tag × List (Event Op Reply ε)) where
  possible _ _ := True
  allows l op := allows l.1 l.2 op
  next l op reply := (l.1, l.2 ++ [⟨op, reply⟩])

/-- Such a thread knows its call and its history. -/
theorem Thread.loc_remembering (allows : Tag → List (Event Op Reply ε) → Op → Prop)
    (t : Thread Op Reply ε Tag) :
    t.loc (Protocol.remembering allows) (fun tag => (tag, [])) = (t.tag, t.history) := by
  obtain ⟨tag, history, prog⟩ := t
  show history.foldl _ (tag, []) = (tag, history)
  induction history using List.reverseRecOn with
  | nil => rfl
  | append_singleton history event ih =>
      rw [List.foldl_append, ih]
      rfl

namespace Pool

variable {S : Shared Op Reply ε Tag Env σ} {p q : Pool Op Reply ε Tag σ}
  {label : Label Op Reply ε Tag Env} {t : Thread Op Reply ε Tag}

/-- A thread was there before with its call, or it has just been started. -/
theorem tag_cases (hstep : Step S p label q) (ht : t ∈ q.threads) :
    (∃ u ∈ p.threads, u.tag = t.tag) ∨ label = .start t.tag := by
  rcases thread_cases hstep ht with hold | ⟨tag, rfl, rfl⟩ | ⟨u, hu, op, next, env, -, -, rfl⟩
  · exact .inl ⟨t, hold, rfl⟩
  · exact .inr rfl
  · exact .inl ⟨u, hu, rfl⟩

/-- What a thread remembers it remembered before, or it is what has just been performed. -/
theorem event_cases (hstep : Step S p label q) (ht : t ∈ q.threads)
    {event : Event Op Reply ε} (hevent : event ∈ t.history) :
    (∃ u ∈ p.threads, u.tag = t.tag ∧ event ∈ u.history) ∨
      ∃ u env, label = .perform u event.op env ∧ u.tag = t.tag ∧
        event.reply = (S.perform env event.op p.store).1 := by
  rcases thread_cases hstep ht with hold | ⟨tag, -, rfl⟩ | ⟨u, hu, op, next, env, -, rfl, rfl⟩
  · exact .inl ⟨t, hold, rfl, hevent⟩
  · -- a thread that starts remembers nothing
    exact absurd hevent List.not_mem_nil
  · rcases List.mem_append.mp hevent with hold | hnew
    · exact .inl ⟨u, hu, rfl, hold⟩
    · obtain rfl := List.mem_singleton.mp hnew
      exact .inr ⟨u, env, rfl, rfl, rfl⟩

end Pool

/-! ## Schedules

A schedule drives a pool without choices: it names the threads by their
position.  Whether every step is of a given kind is checked on the way.
-/

namespace Pool

inductive Command (Tag Env : Type) where
  | start (tag : Tag)
  | perform (position : Nat) (env : Env)
  | stop (position : Nat)

/-- Execute one command; `none` if it is not possible. -/
def command (S : Shared Op Reply ε Tag Env σ) [∀ tag s, Decidable (S.Enabled tag s)]
    (p : Pool Op Reply ε Tag σ) :
    Command Tag Env → Option (Label Op Reply ε Tag Env × Pool Op Reply ε Tag σ)
  | .start tag =>
      if S.Enabled tag p.store then
        some (.start tag, ⟨S.start tag p.store, p.threads ++ [⟨tag, [], S.program tag⟩]⟩)
      else none
  | .perform position env =>
      match p.threads.drop position with
      | [] => none
      | t :: after =>
          match t.prog with
          | .done _ => none
          | .call op next =>
              let result := S.perform env op p.store
              some (.perform t op env,
                ⟨result.2, p.threads.take position ++ t.advance op result.1 next :: after⟩)
  | .stop position =>
      match p.threads.drop position with
      | [] => none
      | t :: after =>
          some (.stop t, ⟨S.stop t p.store, p.threads.take position ++ after⟩)

/-- Execute commands one after the other, as long as their steps are of the kind
`K`. -/
def schedule (S : Shared Op Reply ε Tag Env σ) [∀ tag s, Decidable (S.Enabled tag s)]
    (K : Pool Op Reply ε Tag σ → Label Op Reply ε Tag Env → Prop)
    [∀ p label, Decidable (K p label)] :
    List (Command Tag Env) → Pool Op Reply ε Tag σ → Option (Pool Op Reply ε Tag σ)
  | [], p => some p
  | c :: rest, p =>
      match command S p c with
      | none => none
      | some (label, q) => if K p label then schedule S K rest q else none

/-- The steps of the commands. -/
def steps (S : Shared Op Reply ε Tag Env σ) [∀ tag s, Decidable (S.Enabled tag s)] :
    List (Command Tag Env) → Pool Op Reply ε Tag σ → List (Label Op Reply ε Tag Env)
  | [], _ => []
  | c :: rest, p =>
      match command S p c with
      | none => []
      | some (label, q) => label :: steps S rest q

variable {S : Shared Op Reply ε Tag Env σ} [∀ tag s, Decidable (S.Enabled tag s)]

/-- A command is a step. -/
theorem step_of_command {p q : Pool Op Reply ε Tag σ} {c : Command Tag Env}
    {label : Label Op Reply ε Tag Env} (h : command S p c = some (label, q)) :
    Step S p label q := by
  obtain ⟨s, threads⟩ := p
  cases c with
  | start tag =>
      simp only [command] at h
      split_ifs at h with henabled
      cases h
      exact .start tag henabled
  | perform position env =>
      simp only [command] at h
      -- the command splits the threads at its position, as the step does
      have hsplit := List.take_append_drop position threads
      split at h
      · cases h
      · rename_i t after hdrop
        split at h
        · cases h
        · rename_i op next hprog
          cases h
          rw [hdrop] at hsplit
          have hstep : Step S ⟨s, threads.take position ++ t :: after⟩ _ _ :=
            .perform env hprog
          rw [hsplit] at hstep
          exact hstep
  | stop position =>
      simp only [command] at h
      have hsplit := List.take_append_drop position threads
      split at h
      · cases h
      · rename_i t after hdrop
        cases h
        rw [hdrop] at hsplit
        have hstep : Step S ⟨s, threads.take position ++ t :: after⟩ _ _ := .stop t
        rw [hsplit] at hstep
        exact hstep

/-- Only the commands start calls. -/
theorem start_of_command {p q : Pool Op Reply ε Tag σ} {c : Command Tag Env} {tag : Tag}
    (h : command S p c = some (.start tag, q)) : c = .start tag := by
  cases c with
  | start tag' =>
      simp only [command] at h
      split_ifs at h
      cases h
      rfl
  | perform position env =>
      simp only [command] at h
      split at h
      · cases h
      · split at h <;> cases h
  | stop position =>
      simp only [command] at h
      split at h <;> cases h

/-- A schedule that goes through is the run of its steps. -/
theorem run_steps {K : Pool Op Reply ε Tag σ → Label Op Reply ε Tag Env → Prop}
    [∀ p label, Decidable (K p label)] {p q : Pool Op Reply ε Tag σ}
    {commands : List (Command Tag Env)} (h : schedule S K commands p = some q) :
    Run (fun p label q => Step S p label q ∧ K p label) p (steps S commands p) q := by
  induction commands generalizing p with
  | nil =>
      obtain rfl := Option.some.inj h
      exact .nil p
  | cons c rest ih =>
      rw [schedule] at h
      split at h
      · cases h
      · rename_i label mid hcommand
        split_ifs at h with hkind
        rw [steps, hcommand]
        exact .cons ⟨step_of_command hcommand, hkind⟩ (ih h)

theorem start_of_mem_steps {tag : Tag} {commands : List (Command Tag Env)}
    {p : Pool Op Reply ε Tag σ} (h : .start tag ∈ steps S commands p) :
    .start tag ∈ commands := by
  induction commands generalizing p with
  | nil => exact (List.not_mem_nil h).elim
  | cons c rest ih =>
      rw [steps] at h
      split at h
      · exact (List.not_mem_nil h).elim
      · rename_i label mid hcommand
        rcases List.mem_cons.mp h with rfl | hmem
        · exact start_of_command hcommand ▸ List.mem_cons_self
        · exact List.mem_cons_of_mem _ (ih hmem)

/-- What a schedule leads to is read off its end. -/
theorem exists_run_of_schedule {α : Type} {f : Pool Op Reply ε Tag σ → α} {a : α}
    {K : Pool Op Reply ε Tag σ → Label Op Reply ε Tag Env → Prop}
    [∀ p label, Decidable (K p label)] {p : Pool Op Reply ε Tag σ}
    {commands : List (Command Tag Env)} (h : (schedule S K commands p).map f = some a) :
    ∃ labels q, Run (fun p label q => Step S p label q ∧ K p label) p labels q ∧ f q = a := by
  obtain ⟨q, hq, hf⟩ := Option.map_eq_some_iff.mp h
  exact ⟨_, q, run_steps hq, hf⟩

end Pool
