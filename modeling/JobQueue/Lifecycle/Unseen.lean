import JobQueue.Model.Call

/-!
# What planning does not touch

Every call but a delivery and the reset of a circuit writes rows, the delay queue, messages
and flags, the heartbeat and the report of a gap, and nothing else.  What is seen of the state
without these is the same after the call.  A recovery writes rows and the delay queue only.
-/

namespace JobQueue

open WatcherService AdminService RedisDispatcherService
open JobService hiding createJob

/-- The calls that execute nothing and leave the circuits alone. -/
def Call.Plans : Call → Prop
  | .consume _ | .redeliver _ | .resetCircuit _ => False
  | .createJob _ | .cancelJob _ | .watch | .triggerRecovery | .reconcileRedis | .dispatch
  | .requeueJob _ => True

/-- What `f` sees does not depend on rows and the delay queue. -/
structure UnseenRows {L α : Type} (f : State L → α) : Prop where
  saveJob : ∀ s job, f (s.saveJob job) = f s
  scheduleJob : ∀ s id time, f (s.scheduleJob id time) = f s

/-- What `f` sees does not depend on what planning writes. -/
structure Unseen {L α : Type} (f : State L → α) : Prop extends UnseenRows f where
  insertJob : ∀ s data, f (s.insertJob data) = f s
  removeJob : ∀ s member, f (s.removeJob member) = f s
  sendJob : ∀ s message, f (s.sendJob message) = f s
  setCancelled : ∀ s id deadline, f (s.setCancelled id deadline) = f s
  setLastRun : ∀ (s : State L) now, f { s with lastRun := some now } = f s
  publish : ∀ s now last, f (s.publish (gapIncident now last)) = f s

/-- A loop whose iterations are unseen. -/
theorem unseen_foldl {L α β : Type} {f : State L → α} {effect : β → State L → State L}
    (hkeep : ∀ x s, f (effect x s) = f s) (xs : List β) (s : State L) :
    f (xs.foldl (fun t x => effect x t) s) = f s :=
  observe_foldl_of_unseen f effect xs (fun x _ s => hkeep x s) s

namespace UnseenRows

variable {L α : Type} {f : State L → α} (h : UnseenRows f)

include h

theorem schedulePendingEffect (job : Job) (s : State L) :
    f (schedulePendingEffect job s) = f s := by
  unfold WatcherService.schedulePendingEffect
  split_ifs
  · rw [h.scheduleJob, h.saveJob]
  · rfl

theorem scheduleRetryEffect (job : Job) (s : State L) : f (scheduleRetryEffect job s) = f s := by
  unfold WatcherService.scheduleRetryEffect
  split_ifs
  · rw [h.scheduleJob, h.saveJob]
  · rfl

theorem recoverRowEffect (job : Job) (s : State L) : f (recoverRowEffect job s) = f s := by
  unfold WatcherService.recoverRowEffect
  split_ifs
  · rw [h.saveJob, h.scheduleJob]
  · rw [h.scheduleJob]
  · rfl

theorem recoverRetryRowEffect (job : Job) (s : State L) :
    f (recoverRetryRowEffect job s) = f s := by
  unfold WatcherService.recoverRetryRowEffect
  split_ifs
  · rw [h.saveJob, h.scheduleJob]
  · rfl

theorem reinsertOverdueEffect (job : Job) (s : State L) :
    f (reinsertOverdueEffect job s) = f s := by
  unfold AdminService.reinsertOverdueEffect
  split_ifs
  · rw [h.scheduleJob]
  · rfl

variable (env : CallEnv) (now : Int) (s : State L)

theorem recoverEffect : f (recoverEffect env now s) = f s := by
  unfold WatcherService.recoverEffect
  dsimp only
  rw [unseen_foldl h.recoverRetryRowEffect, unseen_foldl h.recoverRowEffect]

theorem windowEffect : f (windowEffect env now s) = f s := by
  unfold WatcherService.windowEffect
  dsimp only
  rw [unseen_foldl h.scheduleRetryEffect, unseen_foldl h.schedulePendingEffect]

theorem reconcileEffect : f (reconcileEffect env now s) = f s := by
  unfold AdminService.reconcileEffect
  dsimp only
  rw [unseen_foldl h.scheduleRetryEffect, unseen_foldl h.reinsertOverdueEffect]

end UnseenRows

namespace Unseen

section Effects

variable {L α : Type} {f : State L → α} (h : Unseen f)

include h

theorem dispatchOneEffect (member : String) (s : State L) :
    f (dispatchOneEffect member s) = f s := by
  unfold RedisDispatcherService.dispatchOneEffect
  split
  · rfl
  · split
    · rw [h.removeJob]
    · split_ifs
      · rw [h.removeJob, h.sendJob, h.saveJob]
      · rw [h.removeJob]

variable (env : CallEnv) (now : Int) (s : State L)

theorem watchEffect : f (watchEffect env now s) = f s := by
  unfold WatcherService.watchEffect gapEffect
  rw [h.windowEffect]
  split_ifs
  · rw [h.recoverEffect, h.publish, h.setLastRun]
  · rw [h.setLastRun]

theorem dispatchEffect : f (dispatchEffect now s) = f s :=
  unseen_foldl h.dispatchOneEffect _ s

theorem createEffect (request : JobRequest) (time : Int) :
    f (createEffect request time now s) = f s := by
  unfold JobService.createEffect routeEffect
  split_ifs
  · rw [h.sendJob, h.saveJob, h.insertJob]
  · rw [h.insertJob]

theorem requeueEffect (id : Int) : f (requeueEffect id s) = f s := by
  unfold AdminService.requeueEffect
  split
  · rfl
  · split_ifs
    · rfl
    · rw [h.sendJob, h.saveJob]

end Effects

/-- A call that plans is unseen. -/
theorem exec {L α : Type} [RateLimiter L] {f : State L → α} (h : Unseen f) {c : Call}
    (hc : c.Plans) (env : CallEnv) (s : State L) : f (c.exec env s) = f s := by
  cases c with
  | createJob request =>
      rcases Call.exec_createJob env s request with hexec | ⟨time, k, hexec⟩
      · rw [hexec]
      · rw [hexec, h.createEffect]
  | cancelJob id => rw [Call.exec_cancelJob, h.setCancelled]
  | watch => rw [Call.exec_watch, h.watchEffect]
  | triggerRecovery => rw [Call.exec_triggerRecovery, h.recoverEffect]
  | reconcileRedis => rw [Call.exec_reconcileRedis, h.reconcileEffect]
  | dispatch => rw [Call.exec_dispatch, h.dispatchEffect]
  | requeueJob id => rw [Call.exec_requeueJob, h.requeueEffect]
  | consume | redeliver | resetCircuit => exact hc.elim

end Unseen

end JobQueue
