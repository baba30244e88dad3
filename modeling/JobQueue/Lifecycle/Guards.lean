import JobQueue.Lifecycle.Carrier
import JobQueue.Lifecycle.Unseen
import JobQueue.Limiter.OverAdmission

/-!
# What stands before an attempt

The guards of `consume` read the limiter and the circuit of a type.  Only `consume`
itself asks the limiter, so along a run the key of a type stands for a log of
admitted requests; a pause of a window empties it, and a pause of the timeout closes
an open circuit.
-/

namespace JobQueue

open Call KafkaConsumerService

section Frames

variable {L : Type}

/-- What the guards of a consumer read, cancellation apart. -/
def State.guards (s : State L) : L × (String → Bool) × (String → Int) :=
  (s.limiter, s.circuitOpen, s.lastFailureTime)

theorem unseen_guards : Unseen (State.guards (L := L)) := by
  refine ⟨⟨?_, ?_⟩, ?_, ?_, ?_, ?_, ?_, ?_⟩ <;> intros <;> rfl

theorem unseen_limiter : Unseen (fun s : State L => s.limiter) := by
  refine ⟨⟨?_, ?_⟩, ?_, ?_, ?_, ?_, ?_, ?_⟩ <;> intros <;> rfl

end Frames

/-! ## The limiter along a run -/

section Frames

variable {L : Type} (s : State L)

@[simp] theorem limiter_saveJob (job : Job) : (s.saveJob job).limiter = s.limiter := rfl

@[simp] theorem limiter_publish (incident : Incident) :
    (s.publish incident).limiter = s.limiter := rfl

@[simp] theorem limiter_setFailureCount (type : String) (value : Nat) :
    (s.setFailureCount type value).limiter = s.limiter := rfl

@[simp] theorem limiter_setCircuitOpen (type : String) (value : Bool) :
    (s.setCircuitOpen type value).limiter = s.limiter := rfl

@[simp] theorem limiter_setLastFailureTime (type : String) (value : Int) :
    (s.setLastFailureTime type value).limiter = s.limiter := rfl

@[simp] theorem limiter_runExecutor (outcome : Except JavaException Unit) (job : Job) :
    (runExecutor outcome job s).limiter = s.limiter := by
  unfold runExecutor
  split <;> rfl

theorem limiter_catchEffect (now : Int) (job : Job) (e : JavaException) :
    (catchEffect now job e s).limiter = s.limiter := by
  unfold catchEffect countFailureEffect
  dsimp only
  split_ifs <;> simp

theorem limiter_executeEffect (now : Int) (outcome : Except JavaException Unit) (job : Job) :
    (executeEffect now outcome job s).limiter = s.limiter := by
  unfold executeEffect
  split
  · simp
  · rw [limiter_catchEffect, limiter_runExecutor]

end Frames

section Limiter

variable {L : Type} [RateLimiter L] (env : CallEnv) (s : State L)

/-- A delivery asks the limiter once, or not at all. -/
theorem limiter_consumeJobEffect (job : Job) (t : State L) :
    (consumeJobEffect env job t).limiter = t.limiter ∨
      (consumeJobEffect env job t).limiter = (askLimiter env job t).limiter := by
  unfold consumeJobEffect
  cases verdict env job t with
  | cancelled => exact .inl rfl
  | rateLimited | circuitOpen => exact .inr rfl
  | admitted =>
      right
      have hhalf : (halfOpenEffect job (askLimiter env job t)).limiter =
          (askLimiter env job t).limiter := by
        unfold halfOpenEffect
        split_ifs <;> rfl
      dsimp only
      unfold attemptEffect
      split_ifs
      · rw [limiter_executeEffect, hhalf]
      · exact hhalf

theorem limiter_consumeEffect (message : String) (t : State L) :
    (consumeEffect env message t).limiter = t.limiter ∨ ∃ type,
      (consumeEffect env message t).limiter =
        (RateLimiter.allow type LIMIT_PER_SEC (env.millis 2) t.limiter).2 := by
  unfold consumeEffect
  split
  · exact .inl rfl
  · split
    · exact .inl rfl
    · rename_i job _
      exact (limiter_consumeJobEffect env job t).imp_right fun h => ⟨job.type, h⟩

/-- Only a delivery asks the limiter. -/
theorem limiter_exec (c : Call) :
    (c.exec env s).limiter = s.limiter ∨ ∃ type,
      (c.exec env s).limiter =
        (RateLimiter.allow type LIMIT_PER_SEC (env.millis 2) s.limiter).2 := by
  cases c with
  | resetCircuit type => exact .inl (by rw [exec_resetCircuit]; rfl)
  | consume message =>
      rw [exec_consume]
      exact limiter_consumeEffect env message _
  | redeliver message =>
      rw [exec_redeliver]
      exact limiter_consumeEffect env message s
  | createJob | cancelJob | watch | triggerRecovery | reconcileRedis | dispatch | requeueJob =>
      refine .inl (unseen_limiter.exec ?_ env s)
      trivial

end Limiter

/-! ## The limiter of the repository -/

/-- Every key stands for a log of admitted requests. -/
structure LuaLimiter.StandsAt (limiter : LuaLimiter) (now : Int) : Prop where
  key : ∀ type, ∃ log, (limiter.key type).Stands now log

namespace LuaLimiter.StandsAt

variable {limiter : LuaLimiter} {now now' : Int}

theorem empty (now : Int) : LuaLimiter.empty.StandsAt now where
  key _ := ⟨[], by constructor <;> simp [LuaLimiter.empty, RateKey.empty]⟩

theorem later (h : limiter.StandsAt now) (hle : now ≤ now') : limiter.StandsAt now' := by
  constructor
  intro type
  obtain ⟨log, hlog⟩ := h.key type
  refine ⟨log, hlog.member, fun a ha hlow => hlog.recent a ha (by omega), hlog.deadline, ?_⟩
  intro a ha
  exact ⟨(hlog.past a ha).1, (hlog.past a ha).2.trans hle⟩

theorem allow (h : limiter.StandsAt now) (hle : now ≤ now') (hnonneg : 0 ≤ now')
    (type : String) (limit : Nat) :
    (LuaLimiter.allow type limit now' limiter).2.StandsAt now' := by
  constructor
  intro other
  by_cases hother : other = type
  · subst hother
    obtain ⟨log, hlog⟩ := h.key other
    exact ⟨_, (allow_spec other limit hlog hle hnonneg).2⟩
  · rw [allow_key_of_ne hother]
    exact (h.later hle).key other

/-- After a pause of a window a request is admitted. -/
theorem admits (h : limiter.StandsAt now) (hpause : now + RATE_WINDOW ≤ now')
    (hnonneg : 0 ≤ now') (type : String) {limit : Nat} (hlimit : 0 < limit) :
    (LuaLimiter.allow type limit now' limiter).1 = true := by
  have hwindow : RATE_WINDOW = 1000 := rfl
  obtain ⟨log, hlog⟩ := h.key type
  have hanswer := (allow_spec type limit hlog (show now ≤ now' by omega) hnonneg).1
  have hnone : SlidingWindow.recent RATE_WINDOW now' log = [] := by
    rw [SlidingWindow.recent, List.filter_eq_nil_iff]
    intro a ha
    have hpast := (hlog.past a ha).2
    simp only [decide_eq_true_eq]
    omega
  rw [hanswer, SlidingWindow.distinct, hnone, List.dedup_nil, List.length_nil]
  exact decide_eq_true hlimit

end LuaLimiter.StandsAt

/-- The limiter of the repository stands for its admissions in every reachable
state. -/
theorem standsAt_of_run {start : Int} (hstart : 0 ≤ start) {labels : List (Call × CallEnv)}
    {s : Timed LuaLimiter} (hrun : Run TimedStep ⟨State.empty LuaLimiter.empty, start⟩ labels s) :
    0 ≤ s.now ∧ s.state.limiter.StandsAt s.now := by
  refine hrun.invariant (fun s => 0 ≤ s.now ∧ s.state.limiter.StandsAt s.now) ?_
    ⟨hstart, .empty start⟩
  rintro s label t - ⟨hnow, hstands⟩ hstep
  refine ⟨hnow.trans hstep.now_le, ?_⟩
  rw [hstep.regular.2.2]
  rcases limiter_exec label.2 s.state label.1 with h | ⟨type, h⟩
  · rw [h]
    exact hstands.later hstep.now_le
  · rw [h]
    have hafter := hstep.after 2
    exact (hstands.allow hafter (hnow.trans hafter) type LIMIT_PER_SEC).later (hstep.before 2)

end JobQueue
