import JobQueue.Lib.Fault
import JobQueue.Lib.Protocol
import JobQueue.Lifecycle.Refinement

/-!
# Faults in a dispatcher tick

Any step of any iteration may throw, before or after it has had its effect.  The exception is
caught in the iteration, and all that an iteration reads or writes belongs to the job of its
member.  So what a tick does to one job depends on the faults in the iteration for this job
only, and it is what an undisturbed tick does if there are none.
-/

namespace JobQueue

open Decimal RedisDispatcherService

/-! ## Faults -/

/-- The steps of an iteration at which an exception may come. -/
inductive DispatchStep where
  | findById
  | save
  | sendJob
  | removeJob
  deriving DecidableEq

/-- An exception at a step, which has had its effect or not. -/
structure StepFault where
  step : DispatchStep
  error : JavaException
  applied : Bool

/-- At which step the iteration for a member throws, if at all. -/
abbrev FaultAssignment := String → Option StepFault

/-- The step that an operation is, and the member it is for. -/
def stepOf : Op → Option (DispatchStep × String)
  | .findById id => some (.findById, longToString id)
  | .save job => some (.save, longToString job.id)
  | .sendJob message => some (.sendJob, message)
  | .removeJob jobId => some (.removeJob, jobId)
  | _ => none

/-- The operations that throw under an assignment. -/
def FaultAssignment.faults (assigned : FaultAssignment) (op : Op) : Option (JavaException × Bool) :=
  match stepOf op with
  | none => none
  | some (step, member) =>
      match assigned member with
      | none => none
      | some fault => if fault.step = step then some (fault.error, fault.applied) else none

/-- An operation of the iteration for the job `id`. -/
def Concerns (id : Int) (op : Op) : Prop :=
  ∃ step, stepOf op = some (step, longToString id)

/-! ## One operation -/

section Operation

variable {L : Type} [RateLimiter L] {id : Int} {op : Op}

/-- The reply to an operation of an iteration and its effect on the job are told by what the
state says about the job. -/
theorem exec_of_concerns (hop : Concerns id op) (reading reading' : Reading) {s t : State L}
    (h : s.view id = t.view id) :
    (op.exec reading s).1 = (op.exec reading' t).1 ∧
      (op.exec reading s).2.view id = (op.exec reading' t).2.view id := by
  obtain ⟨step, hstep⟩ := hop
  cases op with
  | findById jobId =>
      obtain ⟨-, hid⟩ := Prod.mk.inj (Option.some.inj hstep)
      obtain rfl := longToString_injective hid
      exact ⟨congrArg Except.ok (congrArg JobView.row h), h⟩
  | save job =>
      obtain ⟨-, hid⟩ := Prod.mk.inj (Option.some.inj hstep)
      obtain rfl := longToString_injective hid
      refine ⟨rfl, ?_⟩
      show (s.saveJob job).view job.id = (t.saveJob job).view job.id
      rw [State.view_saveJob, State.view_saveJob, h]
  | sendJob message =>
      obtain ⟨-, rfl⟩ := Prod.mk.inj (Option.some.inj hstep)
      refine ⟨rfl, ?_⟩
      show (s.sendJob _).view id = (t.sendJob _).view id
      rw [State.view_sendJob, State.view_sendJob, h]
  | removeJob jobId =>
      obtain ⟨-, rfl⟩ := Prod.mk.inj (Option.some.inj hstep)
      refine ⟨rfl, ?_⟩
      show (s.removeJob _).view id = (t.removeJob _).view id
      rw [State.view_removeJob, State.view_removeJob, h]
  | _ => cases hstep

/-- It leaves the other jobs alone. -/
theorem view_exec_of_concerns (hop : Concerns id op) (reading : Reading) (s : State L)
    {other : Int} (hother : other ≠ id) : (op.exec reading s).2.view other = s.view other := by
  obtain ⟨step, hstep⟩ := hop
  cases op with
  | findById jobId => rfl
  | save job =>
      obtain ⟨-, hid⟩ := Prod.mk.inj (Option.some.inj hstep)
      obtain rfl := longToString_injective hid
      exact (State.view_saveJob s other job).trans (if_neg hother)
  | sendJob message =>
      obtain ⟨-, rfl⟩ := Prod.mk.inj (Option.some.inj hstep)
      exact (State.view_sendJob s other id).trans (if_neg hother)
  | removeJob jobId =>
      obtain ⟨-, rfl⟩ := Prod.mk.inj (Option.some.inj hstep)
      exact (State.view_removeJob s other id).trans (if_neg hother)
  | _ => cases hstep

end Operation

/-! ## One iteration -/

/-- The operations of the iteration for the job `id`; the database gives the row that was
asked for. -/
def iteration (id : Int) : Protocol Op Reply JavaException Unit where
  possible
    | .findById jobId, .ok (some job) => job.id = jobId
    | _, _ => True
  allows _ op := Concerns id op
  next _ _ _ := ()

theorem process_obeys (id : Int) :
    (process (longToString id)).Obeys (iteration id) () fun _ _ => True := by
  unfold process
  rw [parseLong_longToString]
  refine ⟨⟨.findById, rfl⟩, fun reply hreply => ?_⟩
  rcases reply with e | _ | job
  · trivial
  · exact ⟨⟨.removeJob, rfl⟩, fun reply _ => by trivial⟩
  · obtain rfl : job.id = id := hreply
    show Prog.Obeys _ (if job.status ≠ .scheduled then _ else _) _ _
    split_ifs
    · exact ⟨⟨.removeJob, rfl⟩, fun reply _ => by trivial⟩
    · refine ⟨⟨.save, rfl⟩, fun reply _ => ?_⟩
      rcases reply with e | _
      · trivial
      · refine ⟨⟨.sendJob, rfl⟩, fun reply _ => ?_⟩
        rcases reply with e | _
        · trivial
        · exact ⟨⟨.removeJob, rfl⟩, fun reply _ => by trivial⟩

theorem propagates_process (jobIdStr : String) : (process jobIdStr).Propagates := by
  unfold process
  cases parseLong jobIdStr with
  | none => trivial
  | some jobId =>
      refine (Prog.Propagates.perform _).bind fun row => ?_
      cases row with
      | none => exact Prog.Propagates.perform _
      | some job =>
          dsimp only
          split_ifs
          · exact Prog.Propagates.perform _
          · exact (Prog.Propagates.perform _).bind fun _ =>
              (Prog.Propagates.perform _).bind fun _ => Prog.Propagates.perform _

section Iteration

variable {L : Type} [RateLimiter L]

/-- The operations during a dispatch in which the assigned steps throw. -/
def FaultAssignment.handle (assigned : FaultAssignment) (env : CallEnv) :
    (op : Op) → State L × Nat → Except JavaException (Reply op) × State L × Nat :=
  Prog.faulting env.handle assigned.faults

variable {assigned assigned' : FaultAssignment} {env env' : CallEnv} {id : Int}

/-- The faults of an iteration are those assigned to its member. -/
theorem faults_of_concerns {op : Op} (hop : Concerns id op)
    (h : assigned (longToString id) = assigned' (longToString id)) :
    assigned.faults op = assigned'.faults op := by
  obtain ⟨step, hstep⟩ := hop
  rw [FaultAssignment.faults, FaultAssignment.faults, hstep]
  dsimp only
  rw [h]

theorem possible_handle (assigned : FaultAssignment) (env : CallEnv) (id : Int) (op : Op)
    (s : State L × Nat) : (iteration id).possible op (assigned.handle env op s).1 := by
  unfold FaultAssignment.handle Prog.faulting
  cases assigned.faults op with
  | some thrown => cases op <;> trivial
  | none =>
      cases op with
      | findById jobId =>
          show (iteration id).possible (.findById jobId) (.ok (s.1.jobs.findById jobId))
          cases hrow : s.1.jobs.findById jobId with
          | none => trivial
          | some job => exact JobTable.id_of_findById hrow
      | _ => trivial

/-- How the iteration for a job ends, and what it does to the job, is told by what the state
says about the job and by the fault assigned to its member. -/
theorem process_of_view_eq (h : assigned (longToString id) = assigned' (longToString id))
    {s t : State L × Nat} (hview : s.1.view id = t.1.view id) :
    (Prog.run (assigned.handle env) (process (longToString id)) s).1 =
        (Prog.run (assigned'.handle env') (process (longToString id)) t).1 ∧
      (Prog.run (assigned.handle env) (process (longToString id)) s).2.1.view id =
        (Prog.run (assigned'.handle env') (process (longToString id)) t).2.1.view id := by
  refine (process_obeys id).run_related
    (fun s t : State L × Nat => s.1.view id = t.1.view id) ?_ hview
  intro _ op s t hop hview
  obtain ⟨hreply, hnext⟩ :=
    exec_of_concerns hop (env.reading s.2) (env'.reading t.2) hview
  refine ⟨possible_handle assigned env id op s, ?_⟩
  unfold FaultAssignment.handle Prog.faulting
  rw [faults_of_concerns hop h]
  cases assigned'.faults op with
  | none => exact ⟨hreply, hnext⟩
  | some thrown =>
      obtain ⟨e, _ | _⟩ := thrown
      · exact ⟨rfl, hview⟩
      · exact ⟨rfl, hnext⟩

/-- The iteration for a job leaves the other jobs alone. -/
theorem view_process_of_ne (s : State L × Nat) {other : Int} (hother : other ≠ id) :
    (Prog.run (assigned.handle env) (process (longToString id)) s).2.1.view other =
      s.1.view other := by
  have hstep : ∀ (l : Unit) op (t u : State L × Nat), Concerns id op →
      t = u ∧ t.1.view other = s.1.view other →
      (iteration id).possible op (assigned.handle env op t).1 ∧
        (assigned.handle env op t).1 = (assigned.handle env op u).1 ∧
        (assigned.handle env op t).2 = (assigned.handle env op u).2 ∧
          (assigned.handle env op t).2.1.view other = s.1.view other := by
    rintro _ op t _ hop ⟨rfl, hview⟩
    refine ⟨possible_handle assigned env id op t, rfl, rfl, ?_⟩
    have hnext := view_exec_of_concerns hop (env.reading t.2) t.1 hother
    unfold FaultAssignment.handle Prog.faulting
    cases assigned.faults op with
    | none => exact hnext.trans hview
    | some thrown =>
        obtain ⟨e, _ | _⟩ := thrown
        · exact hview
        · exact hnext.trans hview
  exact ((process_obeys id).run_related
    (fun t u : State L × Nat => t = u ∧ t.1.view other = s.1.view other) hstep ⟨rfl, rfl⟩).2.2

/-- An iteration that does not throw does what it does without faults. -/
theorem view_process_of_ok {s t : State L × Nat} (now : Int)
    (h : Prog.run (assigned.handle env) (process (longToString id)) s = (.ok (), t)) :
    t.1.view id = (dispatchMove now (s.1.view id)).apply id (s.1.view id) := by
  have hplain := Prog.run_faulting_of_ok env.handle (propagates_process _) h
  have hone := run_dispatchOne env (longToString id) s.1 s.2
  rw [dispatchOne, Prog.run_tryCatch_ok _ hplain] at hone
  obtain ⟨-, rfl⟩ := Prod.mk.inj hone
  exact view_dispatchOneEffect_self id now s.1

end Iteration

/-! ## The tick -/

section Tick

variable {L : Type} [RateLimiter L] (assigned : FaultAssignment) (env : CallEnv)

/-- A call of `dispatch` in which the assigned steps throw. -/
def dispatchFaulting (s : State L) : Except JavaException Unit × State L :=
  let result := Prog.run (assigned.handle env) dispatch (s, 0)
  (result.1, result.2.1)

/-- The processing of a member throws in the tick, in the state to which the members before it
have led. -/
def Threw (s : State L) (member : String) : Prop :=
  ∃ before after t e,
    s.scheduledJobs.getReadyJobs (env.millis 0) = before ++ member :: after ∧
      Prog.run (assigned.handle env) (Prog.forEach dispatchOne before) (s, 1) = (.ok (), t) ∧
      (Prog.run (assigned.handle env) (process member) t).1 = .error e

/-- The stores after the iteration for a member. -/
def iterate (member : String) (s : State L × Nat) : State L × Nat :=
  (Prog.run (assigned.handle env) (process member) s).2

theorem run_dispatchOne_faulting (member : String) (s : State L × Nat) :
    Prog.run (assigned.handle env) (dispatchOne member) s =
      (.ok (), iterate assigned env member s) := by
  rw [dispatchOne, Prog.run_tryCatch, iterate]
  generalize Prog.run (assigned.handle env) (process member) s = ending
  obtain ⟨_ | _, _⟩ := ending <;> rfl

theorem run_forEach_faulting (members : List String) (s : State L × Nat) :
    Prog.run (assigned.handle env) (Prog.forEach dispatchOne members) s =
      (.ok (), members.foldl (fun t member => iterate assigned env member t) s) :=
  Prog.run_forEach _ (iterate assigned env) members
    (fun member _ t => run_dispatchOne_faulting assigned env member t) s

/-- The clock and the range of ready members do not fail. -/
theorem dispatchFaulting_eq (s : State L) :
    dispatchFaulting assigned env s =
      (.ok (), ((s.scheduledJobs.getReadyJobs (env.millis 0)).foldl
        (fun t member => iterate assigned env member t) (s, 1)).1) := by
  have hrun : Prog.run (assigned.handle env) dispatch (s, 0) =
      Prog.run (assigned.handle env)
        (Prog.forEach dispatchOne (s.scheduledJobs.getReadyJobs (env.millis 0))) (s, 1) := rfl
  rw [dispatchFaulting, hrun, run_forEach_faulting]

variable {assigned env} {s : State L} {id : Int}

theorem view_iterate_of_ne {member : String} {now : Int}
    (hmember : member ∈ s.scheduledJobs.getReadyJobs now) (hne : member ≠ longToString id)
    (t : State L × Nat) : (iterate assigned env member t).1.view id = t.1.view id := by
  obtain ⟨jobId, rfl, -⟩ := mem_getReadyJobs s now hmember
  exact view_process_of_ne t fun h => hne (by rw [h])

/-- A job comes to its turn as it was before the tick. -/
theorem threw_iff (hready : (s.view id).Ready (env.millis 0)) :
    Threw assigned env s (longToString id) ↔
      ∃ e, (Prog.run (assigned.handle env) (process (longToString id)) (s, 1)).1 = .error e := by
  have hmem := (longToString_mem_getReadyJobs s id _).mpr hready
  have hturn : ∀ before after t,
      s.scheduledJobs.getReadyJobs (env.millis 0) = before ++ longToString id :: after →
      Prog.run (assigned.handle env) (Prog.forEach dispatchOne before) (s, 1) = (.ok (), t) →
      (Prog.run (assigned.handle env) (process (longToString id)) t).1 =
        (Prog.run (assigned.handle env) (process (longToString id)) (s, 1)).1 := by
    intro before after t hsplit hrun
    rw [run_forEach_faulting] at hrun
    obtain ⟨-, rfl⟩ := Prod.mk.inj hrun
    refine (process_of_view_eq rfl ?_).1
    apply observe_foldl_of_unseen (fun t : State L × Nat => t.1.view id)
    intro member hmember u
    have hnodup : (before ++ longToString id :: after).Nodup :=
      hsplit ▸ SortedSet.nodup_rangeByScore _ _ _
    have hlisted : member ∈ s.scheduledJobs.getReadyJobs (env.millis 0) :=
      hsplit ▸ List.mem_append_left _ hmember
    refine view_iterate_of_ne hlisted ?_ u
    rintro rfl
    exact (List.nodup_append.mp hnodup).2.2 _ hmember _ List.mem_cons_self rfl
  constructor
  · rintro ⟨before, after, t, e, hsplit, hrun, hthrows⟩
    exact ⟨e, (hturn before after t hsplit hrun).symm.trans hthrows⟩
  · rintro ⟨e, hthrows⟩
    obtain ⟨before, after, hsplit⟩ := List.append_of_mem hmem
    have hrun := run_forEach_faulting assigned env before (s, 1)
    exact ⟨before, after, _, e, hsplit, hrun, (hturn before after _ hsplit hrun).trans hthrows⟩

theorem ready_of_threw (h : Threw assigned env s (longToString id)) :
    (s.view id).Ready (env.millis 0) := by
  obtain ⟨before, after, t, e, hsplit, -⟩ := h
  rw [← longToString_mem_getReadyJobs, hsplit]
  exact List.mem_append_right _ List.mem_cons_self

/-- A tick does to a ready job what the iteration for it does. -/
theorem view_dispatchFaulting_of_ready (hready : (s.view id).Ready (env.millis 0)) :
    ((dispatchFaulting assigned env s).2.view id) =
      (iterate assigned env (longToString id) (s, 1)).1.view id := by
  have hmem := (longToString_mem_getReadyJobs s id _).mpr hready
  obtain ⟨t, ht, hfold⟩ := observe_foldl_of_mem (fun t : State L × Nat => t.1.view id)
    (iterate assigned env) hmem (SortedSet.nodup_rangeByScore _ _ _)
    (fun member hmember hne u => view_iterate_of_ne hmember hne u) (s, 1)
  rw [dispatchFaulting_eq]
  exact hfold.trans (process_of_view_eq rfl ht).2

theorem view_dispatchFaulting_of_not_ready (hready : ¬ (s.view id).Ready (env.millis 0)) :
    (dispatchFaulting assigned env s).2.view id = s.view id := by
  rw [dispatchFaulting_eq]
  apply observe_foldl_of_unseen (fun t : State L × Nat => t.1.view id)
  intro member hmember t
  refine view_iterate_of_ne hmember ?_ t
  rintro rfl
  exact hready ((longToString_mem_getReadyJobs s id _).mp hmember)

/-- A ready job whose processing does not throw gets what an undisturbed tick gives it. -/
theorem view_dispatchFaulting_of_not_threw (hready : (s.view id).Ready (env.millis 0))
    (h : ¬ Threw assigned env s (longToString id)) :
    (dispatchFaulting assigned env s).2.view id =
      (dispatchMove (env.millis 0) (s.view id)).apply id (s.view id) := by
  rw [threw_iff hready] at h
  rw [view_dispatchFaulting_of_ready hready]
  cases hrun : Prog.run (assigned.handle env) (process (longToString id)) (s, 1) with
  | mk ending t =>
      cases ending with
      | error e => exact absurd ⟨e, congrArg Prod.fst hrun⟩ h
      | ok value =>
          rw [iterate, hrun]
          exact view_process_of_ok (env.millis 0) hrun

/-- A tick returns.  A ready job whose processing does not throw leaves the queue and, if it is
SCHEDULED, becomes QUEUED with one message; any other job is left alone.  Whether the processing
of a job throws, and what becomes of the job, depends on no fault in the processing of others. -/
theorem dispatch_isolates_faults (assigned assigned' : FaultAssignment) (env : CallEnv)
    (s : State L) (id : Int) :
    (dispatchFaulting assigned env s).1 = .ok () ∧
    ((s.view id).Ready (env.millis 0) → ¬ Threw assigned env s (longToString id) →
      (dispatchFaulting assigned env s).2.view id =
        if (s.view id).status? = some .scheduled then
          { ((s.view id).withStatus .queued).withMessage with score := none }
        else { s.view id with score := none }) ∧
    (¬ (s.view id).Ready (env.millis 0) →
      (dispatchFaulting assigned env s).2.view id = s.view id) ∧
    (assigned (longToString id) = assigned' (longToString id) →
      (dispatchFaulting assigned env s).2.view id = (dispatchFaulting assigned' env s).2.view id ∧
        (Threw assigned env s (longToString id) ↔ Threw assigned' env s (longToString id))) := by
  refine ⟨by rw [dispatchFaulting_eq], ?_, view_dispatchFaulting_of_not_ready, ?_⟩
  · intro hready hreturns
    rw [view_dispatchFaulting_of_not_threw hready hreturns, dispatchMove]
    split_ifs <;> rfl
  · intro hsame
    by_cases hready : (s.view id).Ready (env.millis 0)
    · have hself : (s, 1).1.view id = (s, 1).1.view id := rfl
      obtain ⟨hending, hview⟩ := process_of_view_eq hsame hself
      rw [view_dispatchFaulting_of_ready hready, view_dispatchFaulting_of_ready hready,
        threw_iff hready, threw_iff hready, hending]
      exact ⟨hview, Iff.rfl⟩
    · rw [view_dispatchFaulting_of_not_ready hready, view_dispatchFaulting_of_not_ready hready]
      exact ⟨rfl, iff_of_false (fun h => hready (ready_of_threw h))
        (fun h => hready (ready_of_threw h))⟩

end Tick

/-! ## A send that throws -/

/-- The send for job 1 throws. -/
def brokerRejects : FaultAssignment := fun member =>
  if member = "1" then some ⟨.sendJob, ⟨some "broker unavailable"⟩, false⟩ else none

/-- Two jobs are due at 10:00. -/
def twoDueJobs : State LuaLimiter :=
  Call.execAll
    [(.createJob (.scheduled "LOG" "10:00"), .within 1000 (.ok ())),
      (.createJob (.scheduled "API" "10:00"), .within 2000 (.ok ())),
      (.watch, .within 16190000 (.ok ()))] (State.empty LuaLimiter.empty)

/-- The processing of job 1 throws, and job 2 is dispatched all the same. -/
theorem dispatch_isolates_faults_twoDueJobs :
    Threw brokerRejects (.within 16200000 (.ok ())) twoDueJobs "1" ∧
      ((dispatchFaulting brokerRejects (.within 16200000 (.ok ())) twoDueJobs).2.view 2) =
        { ((twoDueJobs.view 2).withStatus .queued).withMessage with score := none } := by
  have hready : ∀ id : Int, id = 1 ∨ id = 2 → (twoDueJobs.view id).Ready 16200000 := by
    rintro id (rfl | rfl) <;> exact ⟨16200000, by decide, by decide, by decide⟩
  have hthrew : Threw brokerRejects (.within 16200000 (.ok ())) twoDueJobs (longToString 1) :=
    (threw_iff (hready 1 (.inl rfl))).mpr ⟨_, rfl⟩
  have hreturns :
      ¬ Threw brokerRejects (.within 16200000 (.ok ())) twoDueJobs (longToString 2) := by
    rw [threw_iff (hready 2 (.inr rfl))]
    rintro ⟨e, h⟩
    cases h
  refine ⟨hthrew, ?_⟩
  rw [(dispatch_isolates_faults brokerRejects brokerRejects (.within 16200000 (.ok ()))
    twoDueJobs 2).2.1 (hready 2 (.inr rfl)) hreturns]
  exact if_pos (by decide)

end JobQueue
