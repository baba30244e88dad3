import JobQueue.Lifecycle.RetryPage
import JobQueue.Lifecycle.TimeOfDay

/-!
# The times of a job

A job has up to three times: its schedule time, its retry time and its score.  The
scheduling passes copy the first two into the third, so a new time comes from a
creation or from a delivery that puts the job back.  As long as the clock shows no
time before the epoch, no job has a negative time, and each is found by the queries
and the range of the dispatcher, which begin at 0.
-/

namespace JobQueue

open Call KafkaConsumerService
open JobService hiding createJob

/-! ## Moves -/

/-- All times of the job satisfy `P`. -/
structure JobView.AllTimes (P : Int → Prop) (v : JobView) : Prop where
  scheduleTime : ∀ job, v.row = some job → P job.scheduleTime
  retryTime : ∀ time, v.retryTime? = some time → P time
  score : ∀ score, v.score = some score → P score

/-- The move gives the job a time it had not before. -/
def Move.Introduces : Move → Int → Prop
  | create data, time => time = data.scheduleTime
  | consume _ (.defer later), time => time = later
  | consume _ (.fail now), time => ∃ retryCount, time = now + backoff (retryCount + 1)
  | _, _ => False

namespace JobView.AllTimes

variable {P : Int → Prop} {v : JobView} {id : Int}

theorem mono {Q : Int → Prop} (h : v.AllTimes P) (himp : ∀ time, P time → Q time) :
    v.AllTimes Q :=
  ⟨fun job hrow => himp _ (h.scheduleTime job hrow),
    fun time htime => himp _ (h.retryTime time htime),
    fun score hscore => himp _ (h.score score hscore)⟩

/-- A new row with the times of the old one. -/
theorem of_row (h : v.AllTimes P) {w : JobView}
    (hrow : ∀ row, w.row = some row → ∃ job, v.row = some job ∧
      row.scheduleTime = job.scheduleTime ∧
      ∀ time, row.nextRetryTime = some time → job.nextRetryTime = some time ∨ P time)
    (hscore : ∀ score, w.score = some score → P score) : w.AllTimes P where
  scheduleTime row h' := by
    obtain ⟨job, hjob, htime, -⟩ := hrow row h'
    rw [htime]
    exact h.scheduleTime job hjob
  retryTime time htime := by
    obtain ⟨row, h', hrowTime⟩ := Option.bind_eq_some_iff.mp htime
    obtain ⟨job, hjob, -, hretry⟩ := hrow row h'
    rcases hretry time hrowTime with hold | hnew
    · exact h.retryTime time ((JobView.retryTime?_of_row hjob).trans hold)
    · exact hnew
  score := hscore

/-- A change of the status. -/
theorem withStatus (h : v.AllTimes P) (status : JobStatus) :
    (v.withStatus status).AllTimes P := by
  refine h.of_row (fun row hrow => ?_) h.score
  obtain ⟨job, hjob, rfl⟩ := Option.map_eq_some_iff.mp hrow
  exact ⟨job, hjob, rfl, fun time htime => .inl htime⟩

theorem consume (h : v.AllTimes P) {delivery : Delivery} {outcome : Outcome}
    (hnew : ∀ time, (Move.consume delivery outcome).Introduces time → P time) :
    ((Move.consume delivery outcome).apply id v).AllTimes P := by
  cases outcome with
  | honour now | complete | ignore =>
      refine h.of_row (fun row hrow => ?_) h.score
      first
        | exact ⟨row, hrow, rfl, fun time htime => .inl htime⟩
        | obtain ⟨job, hjob, rfl⟩ := Option.map_eq_some_iff.mp hrow
          exact ⟨job, hjob, rfl, fun time htime => .inl htime⟩
  | defer later =>
      refine h.of_row (fun row hrow => ?_) h.score
      obtain ⟨job, hjob, rfl⟩ := Option.map_eq_some_iff.mp hrow
      refine ⟨job, hjob, rfl, fun time htime => .inr (hnew time ?_)⟩
      exact (Option.some.inj htime).symm
  | fail now =>
      refine h.of_row (fun row hrow => ?_) h.score
      obtain ⟨job, hjob, rfl⟩ := Option.map_eq_some_iff.mp hrow
      by_cases hexhausted : MAX_RETRY ≤ job.retryCount
      · refine ⟨job, hjob, ?_, fun time htime => .inl ?_⟩
        · rw [failedRow, if_pos hexhausted]
        · rwa [failedRow, if_pos hexhausted] at htime
      · refine ⟨job, hjob, ?_, fun time htime => .inr (hnew time ⟨job.retryCount, ?_⟩)⟩
        · rw [failedRow, if_neg hexhausted]
          rfl
        · rw [failedRow, if_neg hexhausted] at htime
          exact (Option.some.inj htime).symm

/-- A move keeps what holds of all times of the job and of the one it brings. -/
theorem move (m : Move) (henabled : m.Enabled v) (hnew : ∀ time, m.Introduces time → P time)
    (h : v.AllTimes P) : (m.apply id v).AllTimes P := by
  cases m with
  | create data =>
      obtain ⟨-, -, hnone⟩ := henabled
      refine ⟨fun row hrow => ?_, fun time htime => ?_, h.score⟩
      · obtain rfl := Option.some.inj hrow
        exact hnew _ rfl
      · have htime' : data.nextRetryTime = some time := htime
        rw [hnone] at htime'
        cases htime'
  | requestCancel deadline => exact ⟨h.scheduleTime, h.retryTime, h.score⟩
  | sendNow | requeue =>
      have hqueued := h.withStatus .queued
      exact ⟨hqueued.scheduleTime, hqueued.retryTime, hqueued.score⟩
  | schedule =>
      have hscheduled := h.withStatus .scheduled
      refine ⟨hscheduled.scheduleTime, hscheduled.retryTime, fun score hscore => ?_⟩
      obtain ⟨job, hrow, rfl⟩ := Option.map_eq_some_iff.mp hscore
      exact h.scheduleTime job hrow
  | scheduleRetry =>
      have hscheduled := h.withStatus .scheduled
      exact ⟨hscheduled.scheduleTime, hscheduled.retryTime, fun score hscore =>
        h.retryTime score hscore⟩
  | reinsert now =>
      refine ⟨h.scheduleTime, h.retryTime, fun score hscore => ?_⟩
      obtain ⟨job, hrow, rfl⟩ := Option.map_eq_some_iff.mp hscore
      exact h.scheduleTime job hrow
  | dispatch now =>
      have hqueued := h.withStatus .queued
      exact ⟨hqueued.scheduleTime, hqueued.retryTime, nofun⟩
  | drop now => exact ⟨h.scheduleTime, h.retryTime, nofun⟩
  | consume delivery outcome => exact h.consume hnew

end JobView.AllTimes

/-! ## Creations -/

section Creation

variable {L : Type} [RateLimiter L] {env : CallEnv}

/-- The time of the day a request names comes up at or after the reading of the
clock. -/
theorem nonneg_nextOccurrence {today now : Int} (htoday : 0 ≤ today) (hle : today ≤ now)
    (hour minute : Nat) : 0 ≤ nextOccurrence (instantOf (localDate today) hour minute) now := by
  simp only [nextOccurrence, instantOf, localDate, nanosPerDay, nanosPerSecond, kolkataOffset]
  split_ifs <;> omega

/-- `createJob` computes no schedule time before the epoch. -/
theorem nonneg_scheduleTime (hclock : Monotone env.clock) (hstart : 0 ≤ env.clock 0)
    (request : JobRequest) (s : State L) {time : Int} {store : State L × Nat}
    (hrun : Prog.run env.handle (scheduleTime request) (s, 0) = (.ok time, store)) :
    0 ≤ time := by
  have hnow : 0 ≤ env.millis 0 := by
    simp only [CallEnv.millis, CallEnv.reading, Reading.millis]
    omega
  have hcurrent : Prog.run env.handle Service.currentTimeMillis (s, 0) =
      (.ok (env.millis 0), (s, 1)) := rfl
  unfold scheduleTime at hrun
  cases htime : request.time with
  | none =>
      simp only [htime] at hrun
      rw [hcurrent] at hrun
      rwa [← Except.ok.inj (Prod.mk.inj hrun).1]
  | some text =>
      simp only [htime] at hrun
      by_cases hempty : text = ""
      · rw [if_pos hempty, hcurrent] at hrun
        rwa [← Except.ok.inj (Prod.mk.inj hrun).1]
      · rw [if_neg hempty, scheduleTimeAt] at hrun
        cases hparse : parseTime text with
        | error e =>
            rw [hparse] at hrun
            cases (Prod.mk.inj hrun).1
        | ok parts =>
            rw [hparse] at hrun
            have hvalue : nextOccurrence (instantOf (localDate (env.clock 0)) parts.1 parts.2)
                (env.clock 1) = time := Except.ok.inj (Prod.mk.inj hrun).1
            rw [← hvalue]
            exact nonneg_nextOccurrence hstart (hclock (Nat.zero_le 1)) parts.1 parts.2

theorem exec_createJob_nonneg (hclock : Monotone env.clock) (hstart : 0 ≤ env.clock 0)
    (request : JobRequest) (s : State L) :
    (createJob request).exec env s = s ∨ ∃ time k, 0 ≤ time ∧
      (createJob request).exec env s = createEffect request time (env.millis k) s := by
  obtain ⟨result, k, htime⟩ := run_scheduleTime env request s 0
  have hexec : (createJob request).exec env s =
      (Prog.run env.handle (JobService.createJob request) (s, 0)).2.1 := by
    rw [Call.exec, Call.program, Call.call_discard]
    rfl
  rw [hexec]
  cases result with
  | error e =>
      left
      show (Prog.run env.handle ((scheduleTime request).bind _) (s, 0)).2.1 = s
      rw [Prog.run_bind_error env.handle htime]
  | ok time =>
      refine .inr ⟨time, k, nonneg_scheduleTime hclock hstart request s htime, ?_⟩
      show (Prog.run env.handle ((scheduleTime request).bind _) (s, 0)).2.1 = _
      rw [Prog.run_bind_ok env.handle htime]
      exact congrArg Prod.fst (run_route env _ _ k)

end Creation

/-! ## Runs -/

section Runs

variable {L : Type} [RateLimiter L]

/-- The moves a call makes from the epoch on bring no negative time. -/
theorem nonneg_of_introduces {c : Call} {env : CallEnv} {s : State L} {id : Int} {m : Move}
    (hnow : ∀ k, 0 ≤ env.millis k) (hcreate : ∀ request, c ≠ createJob request)
    (hallowed : c.Allows env s id m) {time : Int} (h : m.Introduces time) : 0 ≤ time := by
  cases m with
  | create data =>
      obtain ⟨request, -, rfl, -⟩ := hallowed
      exact absurd rfl (hcreate request)
  | consume delivery outcome =>
      obtain ⟨-, houtcome⟩ := hallowed
      cases outcome with
      | defer later =>
          obtain ⟨k, hk⟩ := deliveryOutcome_time.1 later houtcome.symm
          have hpast := hnow k
          obtain rfl : time = later := h
          omega
      | fail now =>
          obtain rfl := deliveryOutcome_time.2 now houtcome.symm
          obtain ⟨retryCount, rfl⟩ := h
          have hbackoff := two_seconds_le_backoff retryCount
          have hpast := hnow 1
          omega
      | honour | ignore | complete => exact h.elim
  | _ => exact h.elim

/-- A call after the epoch keeps all times of every job non-negative. -/
theorem allTimes_exec {c : Call} {env : CallEnv} {s : State L} {id : Int}
    (henabled : c.Enabled s) (hclock : Monotone env.clock) (hnow : ∀ k, 0 ≤ env.millis k)
    (h : (s.view id).AllTimes fun time => 0 ≤ time) :
    ((c.exec env s).view id).AllTimes fun time => 0 ≤ time := by
  by_cases hcreate : ∃ request, c = createJob request
  · obtain ⟨request, rfl⟩ := hcreate
    have hstart : 0 ≤ env.clock 0 := by
      have hmillis := hnow 0
      simp only [CallEnv.millis, CallEnv.reading, Reading.millis] at hmillis
      omega
    rcases exec_createJob_nonneg hclock hstart request s with hsame | ⟨time, k, htime, heffect⟩
    · rw [hsame]
      exact h
    · rw [heffect]
      have hlife : Life (fun m => m = .create (newJob request time) ∨ m = .sendNow) id (s.view id)
          ((createEffect request time (env.millis k) s).view id) :=
        life_createEffect s id request time (env.millis k) (fun _ => .inl rfl)
          (fun _ _ => .inr rfl)
      refine hlife.invariant (fun v => v.AllTimes fun time => 0 ≤ time) ?_ h
      rintro m v (rfl | rfl) hm hv
      · refine hv.move _ hm fun other hother => ?_
        obtain rfl : other = time := hother
        exact htime
      · exact hv.move _ hm fun other hother => hother.elim
  · have hnot : ∀ request, c ≠ createJob request := fun request heq => hcreate ⟨request, heq⟩
    refine (life_exec env s id c henabled).invariant
      (fun v => v.AllTimes fun time => 0 ≤ time) ?_ h
    intro m v hallowed hm hv
    exact hv.move m hm fun time htime => nonneg_of_introduces hnow hnot hallowed htime

/-- No time of a job lies before the epoch if the clock does not. -/
theorem allTimes_nonneg_of_run {limiter : L} {start : Int} (hstart : 0 ≤ start)
    {labels : List (Call × CallEnv)} {s : Timed L}
    (hrun : Run TimedStep ⟨State.empty limiter, start⟩ labels s) (id : Int) :
    0 ≤ s.now ∧ (s.state.view id).AllTimes fun time => 0 ≤ time := by
  refine hrun.invariant
    (fun s => 0 ≤ s.now ∧ (s.state.view id).AllTimes fun time => 0 ≤ time) ?_ ⟨hstart, ?_⟩
  · rintro s label t - ⟨hnow, htimes⟩ hstep
    refine ⟨hnow.trans hstep.now_le, ?_⟩
    rw [hstep.regular.2.2]
    exact allTimes_exec hstep.regular.2.1 hstep.clock (fun k => hnow.trans (hstep.after k)) htimes
  · constructor <;> simp [State.view_empty, JobView.retryTime?]

end Runs

end JobQueue
