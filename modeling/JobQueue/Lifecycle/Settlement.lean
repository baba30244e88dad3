import JobQueue.Lifecycle.Progress

/-!
# A fair run settles a job

The consumer counts a failed execution in `retryCount` and nothing else, so along a
run without duplicates the deliveries of a job that is not finished are its failed
attempts and its deferrals.  There are at most `MAX_RETRY` of the former.
-/

namespace JobQueue

open Call KafkaConsumerService

variable {L : Type} [RateLimiter L] {id : Int}

/-! ## Deliveries -/

/-- The call delivers a message of the job and is stopped by the rate limit or an
open circuit. -/
def Deferred (id : Int) (s : State L) (label : Call × CallEnv) : Prop :=
  label.1.Consumes id ∧ ∃ job, s.jobs.findById id = some job ∧
    (verdict label.2 job s = .rateLimited ∨ verdict label.2 job s = .circuitOpen)

instance (id : Int) (s : State L) : DecidablePred (Deferred id s) := fun label =>
  match hrow : s.jobs.findById id with
  | none => isFalse (by simp [Deferred, hrow])
  | some job =>
      decidable_of_iff (label.1.Consumes id ∧
        (verdict label.2 job s = .rateLimited ∨ verdict label.2 job s = .circuitOpen))
        (by simp [Deferred, hrow])

/-- How often a sequence of calls defers the job. -/
def deferrals (id : Int) : List (Call × CallEnv) → State L → Nat
  | [], _ => 0
  | label :: rest, s =>
      (if Deferred id s label then 1 else 0) + deferrals id rest (label.1.exec label.2 s)

section Steps

variable {s t : State L} {label : Call × CallEnv} {job : Job}

/-- A call that does not attempt the job keeps its count. -/
theorem retryCount_of_unattempted (hstep : RegularStep s label t)
    (hnone : label.1.Consumes id → Deferred id s label) (hrow : (s.view id).row = some job) :
    ∃ row, (t.view id).row = some row ∧ row.retryCount = job.retryCount := by
  have hdefers : Call.Defers id s label := by
    intro hconsumes other hother
    obtain ⟨-, job', hjob', hverdict⟩ := hnone hconsumes
    obtain rfl := Option.some.inj (hother.symm.trans hjob')
    exact hverdict
  obtain ⟨hcount, -⟩ := sameAccount_step hstep.2 hdefers hrow
  rw [hrow] at hcount
  exact Option.map_eq_some_iff.mp hcount

/-- A delivery that is not deferred settles the job or uses up an attempt. -/
theorem attempted_step (hstep : RegularStep s label t) (hconsumes : label.1.Consumes id)
    (hnot : ¬ Deferred id s label) (hcarried : Carried (s.view id))
    (hrow : (s.view id).row = some job) :
    Settled (t.view id) ∨ ∃ row, (t.view id).row = some row ∧
      row.retryCount = job.retryCount + 1 ∧ job.retryCount < MAX_RETRY := by
  obtain ⟨hregular, henabled, rfl⟩ := hstep
  obtain ⟨c, env⟩ := label
  cases c with
  | consume message =>
      have hcarries : carries id message = true := decide_eq_true hconsumes
      have hmem : message ∈ s.topic := henabled
      obtain ⟨hqueued, -⟩ := hcarried.queued_of_inFlight (s.inFlight_pos id hmem hcarries)
      -- a message on its way keeps its job QUEUED, so the attempt is made
      have hstatus : job.status = .queued := by
        simpa [JobView.status?_of_row hrow] using hqueued
      rw [view_exec_consume env s id hmem hcarries]
      have hfind : s.jobs.findById id = some job := hrow
      have hcancelled : Settled ((Move.consume .first (.honour (env.millis 0))).apply id
          (s.view id)) :=
        ⟨.cancelled, by simp [Move.apply, Outcome.apply, JobView.status?, JobView.withStatus, hrow],
          .inr (.inl rfl)⟩
      have hcompleted : Settled ((Move.consume .first .complete).apply id (s.view id)) :=
        ⟨.completed, by simp [Move.apply, Outcome.apply, JobView.status?, JobView.withStatus, hrow],
          .inl rfl⟩
      rw [deliveryOutcome, hfind]
      dsimp only
      unfold consumeOutcome
      cases hverdict : verdict env job s with
      | cancelled => exact .inl hcancelled
      | rateLimited => exact absurd ⟨hconsumes, job, hfind, .inl hverdict⟩ hnot
      | circuitOpen => exact absurd ⟨hconsumes, job, hfind, .inr hverdict⟩ hnot
      | admitted =>
          simp only [hstatus, if_true]
          unfold executeOutcome
          split
          · exact .inl hcompleted
          · have hfailed : ((Move.consume .first (.fail (env.millis 1))).apply id (s.view id)).row =
                some (failedRow job (env.millis 1)) := by
              simp [Move.apply, Outcome.apply, hrow]
            by_cases hexhausted : MAX_RETRY ≤ job.retryCount
            · refine .inl ⟨.failed, ?_, .inr (.inr rfl)⟩
              rw [JobView.status?_of_row hfailed, failedRow, if_pos hexhausted]
            · refine .inr ⟨_, hfailed, ?_, not_le.mp hexhausted⟩
              rw [failedRow, if_neg hexhausted]
  | redeliver message => exact hregular.elim
  | _ => exact hconsumes.elim

end Steps

section Runs

/-- Along a run without duplicates, every delivery of a job that is not finished at
its end was counted in `retryCount` or deferred. -/
theorem deliveries_of_run {s t : State L} {labels : List (Call × CallEnv)}
    (hrun : Run RegularStep s labels t) (hcarried : Carried (s.view id)) {job : Job}
    (hrow : (s.view id).row = some job) :
    Settled (t.view id) ∨ ∃ row, (t.view id).row = some row ∧
      (labels.countP fun label => label.1.Consumes id) + job.retryCount =
        row.retryCount + deferrals id labels s ∧
      row.retryCount ≤ max MAX_RETRY job.retryCount := by
  induction hrun generalizing job with
  | nil s => exact .inr ⟨job, hrow, by simp [deferrals], le_max_right _ _⟩
  | @cons s u t label rest hfirst hrest ih =>
      have hcarriedU := hcarried.step hfirst id
      have hu : u = label.1.exec label.2 s := hfirst.2.2
      rw [List.countP_cons, deferrals, ← hu]
      by_cases hattempt : label.1.Consumes id ∧ ¬ Deferred id s label
      · rcases attempted_step hfirst hattempt.1 hattempt.2 hcarried hrow with
          hsettled | ⟨row, hrow', hcount, hfew⟩
        · exact .inl (hsettled.run hrest hcarriedU)
        · rcases ih hcarriedU hrow' with hsettled | ⟨last, hlast, hsum, hbound⟩
          · exact .inl hsettled
          · refine .inr ⟨last, hlast, ?_, ?_⟩
            · simp only [hattempt.1, hattempt.2, decide_true, if_true, if_false]
              omega
            · omega
      · have hnone : label.1.Consumes id → Deferred id s label := fun hconsumes => by
          by_contra hnot
          exact hattempt ⟨hconsumes, hnot⟩
        have hiff : label.1.Consumes id ↔ Deferred id s label := ⟨hnone, fun h => h.1⟩
        obtain ⟨row, hrow', hcount⟩ := retryCount_of_unattempted hfirst hnone hrow
        rcases ih hcarriedU hrow' with hsettled | ⟨last, hlast, hsum, hbound⟩
        · exact .inl hsettled
        · refine .inr ⟨last, hlast, ?_, by omega⟩
          simp only [hiff, decide_eq_true_eq]
          split_ifs <;> omega

/-- Every fair block before the job is finished has a delivery of it. -/
theorem length_le_deliveries {s t : Timed L} {blocks : List (List (Call × CallEnv))}
    (hblocks : Run (FairBlock id) s blocks t) (hcarried : Carried (s.state.view id)) :
    Settled (t.state.view id) ∨
      blocks.length ≤ blocks.flatten.countP fun label => label.1.Consumes id := by
  induction hblocks with
  | nil s => exact .inr le_rfl
  | @cons s u t labels rest hfirst hrest ih =>
      have hcarriedU := hcarried.run (run_of_timed hfirst.run)
      have hrun := run_of_timed (hrest.flatten fun _ _ _ h => h.run)
      rcases hfirst.delivered_or_settled hcarried with hsettled | hdelivered
      · exact .inl (hsettled.run hrun hcarriedU)
      · refine (ih hcarriedU).imp_right fun hlength => ?_
        have hpos : 0 < labels.countP fun label => label.1.Consumes id := by
          obtain ⟨label, hmem, hconsumes⟩ := hdelivered
          exact List.countP_pos_iff.mpr ⟨label, hmem, decide_eq_true hconsumes⟩
        rw [List.length_cons, List.flatten_cons, List.countP_append]
        omega

/-- Every job is settled.  After any run without duplicates, a job that exists is
COMPLETED, CANCELLED or FAILED as soon as the run has gone on for as many fair blocks
as the job has attempts left and deferrals on the way, and one more, whatever the
executors, the limiter and all other calls do in between. -/
theorem fair_run_settles {limiter : L} {start : Int} {before : List (Call × CallEnv)}
    {s t : Timed L} (hbefore : Run TimedStep ⟨State.empty limiter, start⟩ before s) {job : Job}
    (hrow : s.state.jobs.findById id = some job) {blocks : List (List (Call × CallEnv))}
    (hblocks : Run (FairBlock id) s blocks t)
    (henough : MAX_RETRY - job.retryCount + 1 + deferrals id blocks.flatten s.state ≤
      blocks.length) :
    ∃ row, t.state.jobs.findById id = some row ∧
      (row.status = .completed ∨ row.status = .cancelled ∨ row.status = .failed) := by
  have hcarried := carried_of_run (run_of_timed hbefore) id
  have hrun := run_of_timed (hblocks.flatten fun _ _ _ h => h.run)
  have hsettled : Settled (t.state.view id) := by
    rcases length_le_deliveries hblocks hcarried with hsettled | hlength
    · exact hsettled
    · rcases deliveries_of_run hrun hcarried hrow with hsettled | ⟨row, -, hsum, hbound⟩
      · exact hsettled
      · omega
  obtain ⟨status, hstatus, hterminal⟩ := hsettled
  obtain ⟨row, hrow', rfl⟩ := JobView.exists_row hstatus
  exact ⟨row, hrow', hterminal⟩

end Runs

/-- A job whose executor failed once waits for its second attempt. -/
def waitingForRetry : Timed LuaLimiter :=
  ⟨execAll oneRetry (State.empty LuaLimiter.empty), 16201000⟩

/-- The services come by after the retry time, and the executor returns. -/
def secondAttempt : List (Call × CallEnv) :=
  [(.dispatch, .within 16203500 (.ok ())), (.watch, .within 16204000 (.ok ())),
    (.dispatch, .within 16205000 (.ok ())), (.consume "1", .within 16206000 (.ok ()))]

def afterSecondAttempt : Timed LuaLimiter :=
  ⟨execAll secondAttempt waitingForRetry.state, 16206000⟩

/-- A dispatch that finds nothing to do. -/
def idleBlock : List (Call × CallEnv) := [(.dispatch, .within 16206000 (.ok ()))]

theorem fairBlock_secondAttempt : FairBlock 1 waitingForRetry secondAttempt afterSecondAttempt := by
  have hpiece : ∀ (c : Call) (time : Int) (s : Timed LuaLimiter), c.Regular →
      c.Enabled s.state → s.now ≤ time →
      Run TimedStep s [(c, .within time (.ok ()))] ⟨c.exec (.within time (.ok ())) s.state, time⟩ :=
    fun c time s hregular henabled hle => .single (timedStep_within hregular henabled hle)
  refine .intro (hpiece .dispatch 16203500 _ trivial trivial (by decide)) ?_
    (hpiece .watch 16204000 _ trivial trivial (by decide)) (by decide)
    (hpiece .dispatch 16205000 _ trivial trivial (by decide)) ⟨_, List.mem_singleton_self _, rfl⟩
    (hpiece (.consume "1") 16206000 _ trivial (by decide) (by decide))
    (fun _ => ⟨_, List.mem_singleton_self _, by decide⟩)
  refine ⟨⟨⟨"API", .retry, none, none, none, 1, 16200000, some 16203000⟩, 1⟩, by decide, by decide,
    nofun, fun _ => ⟨16203000, rfl, by decide, by decide⟩, nofun⟩

theorem fairBlock_idle : FairBlock 1 afterSecondAttempt idleBlock afterSecondAttempt := by
  have hready : afterSecondAttempt.state.scheduledJobs.getReadyJobs 16206000 = [] := by decide
  have hsame : Call.dispatch.exec (.within 16206000 (.ok ())) afterSecondAttempt.state =
      afterSecondAttempt.state := by
    rw [exec_dispatch, millis_within, RedisDispatcherService.dispatchEffect, hready]
    rfl
  have hstep : TimedStep afterSecondAttempt (.dispatch, .within 16206000 (.ok ()))
      ⟨Call.dispatch.exec (.within 16206000 (.ok ())) afterSecondAttempt.state, 16206000⟩ :=
    timedStep_within trivial trivial le_rfl
  rw [hsame] at hstep
  refine .intro (.nil _) ?_ (.nil _) (by decide) (.single hstep)
    ⟨_, List.mem_singleton_self _, rfl⟩ (.nil _) (fun h => by revert h; decide)
  refine ⟨⟨⟨"API", .completed, none, none, none, 1, 16200000, some 16203000⟩, 1⟩, by decide,
    by decide, ?_, ?_, ?_⟩
  all_goals
    intro h
    cases h

/-- The second attempt completes the job, long before its attempts are used up. -/
theorem fair_run_settles_secondAttempt :
    ∃ row, afterSecondAttempt.state.jobs.findById 1 = some row ∧
      (row.status = .completed ∨ row.status = .cancelled ∨ row.status = .failed) := by
  have hbefore : Run TimedStep ⟨State.empty LuaLimiter.empty, 0⟩ oneRetry waitingForRetry :=
    timedRun_execAll (by decide) (by decide)
      ⟨_, _, rfl, by decide, _, _, rfl, by decide, _, _, rfl, by decide, _, _, rfl, by decide,
        trivial⟩
  have hrow : waitingForRetry.state.jobs.findById 1 =
      some ⟨⟨"API", .retry, none, none, none, 1, 16200000, some 16203000⟩, 1⟩ := by decide
  have hidle := fairBlock_idle
  have hblocks : Run (FairBlock 1) waitingForRetry
      [secondAttempt, idleBlock, idleBlock, idleBlock, idleBlock] afterSecondAttempt :=
    .cons fairBlock_secondAttempt (.cons hidle (.cons hidle (.cons hidle (.single hidle))))
  exact fair_run_settles hbefore hrow hblocks (by decide)

end JobQueue
