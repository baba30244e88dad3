import JobQueue.Lib.Budget
import JobQueue.Lifecycle.Unseen
import JobQueue.Loop.Safety

/-!
# What the agents leave behind

Pipelines send requests, and what the application does for them is to plan jobs anew: it
schedules rows that wait and puts overdue ones back into the delay queue.  Nothing else is
touched; so no pipeline publishes an incident that would start another one, and a pipeline
sends at most six requests, three of them for its remedy.
-/

namespace JobQueue

open AiAgent

/-! ## Planning anew -/

/-- The moves of a job that is planned anew. -/
def Move.Plans : Move → Prop
  | schedule | scheduleRetry | reinsert _ => True
  | create _ | sendNow | requestCancel _ | dispatch _ | drop _ | requeue | consume _ _ => False

/-- Rows and the delay queue have changed by such moves, and nothing else has. -/
structure Replans {L : Type} (s t : State L) : Prop where
  rest : { t with jobs := s.jobs, scheduledJobs := s.scheduledJobs } = s
  lives : ∀ id, Life Move.Plans id (s.view id) (t.view id)

namespace Replans

variable {L : Type} {s t u : State L}

theorem refl (s : State L) : Replans s s := ⟨rfl, fun _ => .refl⟩

theorem trans (h : Replans s t) (h' : Replans t u) : Replans s u where
  rest := by
    have hlast : { u with jobs := s.jobs, scheduledJobs := s.scheduledJobs } =
        { t with jobs := s.jobs, scheduledJobs := s.scheduledJobs } :=
      congrArg (fun v : State L =>
        { v with jobs := s.jobs, scheduledJobs := s.scheduledJobs }) h'.rest
    exact hlast.trans h.rest
  lives id := (h.lives id).trans (h'.lives id)

end Replans

/-- A remedy plans jobs anew. -/
theorem replans_remedy {L : Type} [RateLimiter L] {c : Call}
    (hc : c = .triggerRecovery ∨ c = .reconcileRedis) (env : CallEnv) (s : State L) :
    Replans s (c.exec env s) where
  rest := by
    have hrest : UnseenRows fun v : State L =>
        { v with jobs := s.jobs, scheduledJobs := s.scheduledJobs } :=
      ⟨fun _ _ => rfl, fun _ _ _ => rfl⟩
    rcases hc with rfl | rfl
    · rw [Call.exec_triggerRecovery]
      exact hrest.recoverEffect env _ s
    · rw [Call.exec_reconcileRedis]
      exact hrest.reconcileEffect env _ s
  lives id := by
    have henabled : c.Enabled s := by rcases hc with rfl | rfl <;> trivial
    refine (Call.life_exec env s id c henabled).mono fun m hallows => ?_
    cases m with
    | schedule | scheduleRetry | reinsert => trivial
    | create =>
        obtain ⟨_, _, rfl, -⟩ := hallows
        rcases hc with h | h <;> cases h
    | sendNow =>
        obtain ⟨_, rfl, -⟩ := hallows
        rcases hc with h | h <;> cases h
    | requestCancel | dispatch | drop =>
        obtain ⟨rfl, -⟩ := hallows
        rcases hc with h | h <;> cases h
    | requeue =>
        obtain rfl : c = _ := hallows
        rcases hc with h | h <;> cases h
    | consume delivery outcome =>
        obtain ⟨hdelivers, -⟩ := hallows
        cases delivery <;>
        · obtain ⟨message, rfl, -⟩ := hdelivers
          rcases hc with h | h <;> cases h

/-! ## What a pipeline may spend -/

namespace AiAgent

/-- The exchanges that a method may need. -/
def AdminCall.attempts : AdminCall → Nat
  | get_job _ => 1
  | get_detailed_health | recover_watcher | reconcile_redis | requeue_job _ | reset_circuit _ =>
      JobQueueClient.RETRIES + 1

section Costs

variable (weight : AdminCall → Nat)

/-- What an operation costs if every request has a weight. -/
def AgentOp.cost : AgentOp → Nat
  | admin call => call.attempts * weight call
  | record _ => 0

def NetOp.cost : NetOp → Nat
  | exchange call => weight call
  | record _ => 0

variable {weight} in
/-- No method makes more than three attempts. -/
theorem cost_le_three {call : AdminCall} (h : weight call ≤ 1) :
    (AgentOp.admin call).cost weight ≤ 3 := by
  have hattempts : call.attempts ≤ 3 := by
    cases call <;> simp [AdminCall.attempts, JobQueueClient.RETRIES]
  calc (AgentOp.admin call).cost weight = call.attempts * weight call := rfl
    _ ≤ 3 * 1 := Nat.mul_le_mul hattempts h

theorem within_exchange (call : AdminCall) :
    (Net.exchange call).Within (NetOp.cost weight) (weight call) :=
  ⟨le_rfl, fun _ => trivial⟩

theorem within_retrying (call : AdminCall) :
    (JobQueueClient.retrying call).Within (NetOp.cost weight)
      ((JobQueueClient.RETRIES + 1) * weight call) := by
  have hattempt : (JobQueueClient.attempt call).Within (NetOp.cost weight) (weight call) :=
    (within_exchange weight call).bind (n := 0) fun _ => trivial
  exact hattempt.retry JobQueueClient.RETRIES

theorem within_program (op : AgentOp) :
    op.program.Within (NetOp.cost weight) (op.cost weight) := by
  cases op with
  | record result => exact ⟨le_rfl, fun _ => trivial⟩
  | admin call =>
      cases call with
      | get_job job_id =>
          show (JobQueueClient.get_job job_id).Within _ (1 * weight (.get_job job_id))
          rw [one_mul]
          refine (within_exchange weight (.get_job job_id)).bind (n := 0) fun response => ?_
          split_ifs
          · trivial
          · cases JobQueueClient.read response <;> trivial
      | get_detailed_health => exact within_retrying weight .get_detailed_health
      | recover_watcher => exact within_retrying weight .recover_watcher
      | reconcile_redis => exact within_retrying weight .reconcile_redis
      | requeue_job job_id => exact within_retrying weight (.requeue_job job_id)
      | reset_circuit job_type => exact within_retrying weight (.reset_circuit job_type)

variable {weight} {n : Nat}

/-- An execution is one method. -/
theorem within_execute (hweight : ∀ call : AdminCall, call.Remedial →
      (AgentOp.admin call).cost weight ≤ n) (python : Python) {settings : Settings}
    {action : CodePoints} {confidence : Confidence} {plan : PlannedAction}
    (hplan : Planned settings action confidence plan) :
    (ExecutorAgent.execute python settings plan).Within (AgentOp.cost weight) n := by
  rcases execute_cases python hplan with ⟨execution, hexecution⟩ | ⟨call, outcome, hcall, hmethod⟩
  · rw [hexecution]
    trivial
  · rw [hmethod]
    exact ⟨hweight call hcall, fun _ => trivial⟩

/-- A pipeline asks for the health of the system and executes its plan. -/
theorem within_processIncident (hweight : ∀ call : AdminCall, call.Remedial →
      (AgentOp.admin call).cost weight ≤ n) (agent : AgentOrchestrator)
    (incident : IncidentPayload) :
    (agent.processIncident incident).Within (AgentOp.cost weight)
      ((AgentOp.admin .get_detailed_health).cost weight + n) := by
  rw [agent.processIncident_eq]
  cases agent.self_healer.enrichIncident (agent.stamp incident) with
  | error e => trivial
  | ok enriched =>
      refine ⟨Nat.le_add_right _ _, fun health => ?_⟩
      rw [Nat.add_sub_cancel_left]
      dsimp only
      cases analyzeWithRules agent.python enriched health.toOption with
      | error e => trivial
      | ok analysis =>
          refine (within_execute hweight agent.python
            (agent.planned_planFor enriched analysis)).bind (n := 0) fun execution => ?_
          exact ⟨le_rfl, fun reply => by cases reply <;> trivial⟩

end Costs

end AiAgent

namespace Deployment

variable {deployment : Deployment} {L : Type} [RateLimiter L]

/-- A `GET` has no effect. -/
theorem effectOf_get {request : HttpRequest} (hget : request.IsGet) :
    (deployment.server.effectOf request).join = none := by
  cases request with
  | getJob id =>
      rw [Server.effectOf]
      cases deployment.server.toLong id <;> rfl
  | getStats => rfl
  | detailedHealth key =>
      rw [Server.effectOf]
      split_ifs <;> rfl
  | createJob | cancel | recoverWatcher | reconcileRedis | requeueJob | resetCircuit =>
      exact hget.elim

/-- What the application does for a pipeline. -/
theorem replans_answer {call : AdminCall} (hremedial : call.Remedial) (env : RequestEnv)
    (s : State L) : Replans s (deployment.answer env call s).2 := by
  have hrequest : ∀ request, (∀ c, (deployment.server.effectOf request).join = some c →
      c = .triggerRecovery ∨ c = .reconcileRedis) →
      Replans s (deployment.server.respond env request s).2 := by
    intro request heffect
    rw [(Server.respond_effect deployment.server env request s).2]
    cases hjoin : (deployment.server.effectOf request).join with
    | none => exact .refl s
    | some c => exact replans_remedy (heffect c hjoin) _ s
  have hkey : ∀ c d : Call, (if deployment.server.Authorized (some deployment.admin_api_key)
      then some (some c) else none : Option (Option Call)).join = some d → d = c := by
    intro c d h
    split_ifs at h
    · exact (Option.some.inj h).symm
    · cases h
  cases call with
  | get_detailed_health =>
      refine hrequest (.detailedHealth _) fun c h => ?_
      have hget : (HttpRequest.detailedHealth (some deployment.admin_api_key)).IsGet := trivial
      rw [effectOf_get hget] at h
      cases h
  | get_job job_id =>
      rw [answer]
      cases hjob : deployment.requestOf (.get_job job_id) with
      | none => exact .refl s
      | some request =>
          refine hrequest request fun c h => ?_
          rw [effectOf_get (deployment.isGet job_id request hjob)] at h
          cases h
  | recover_watcher => exact hrequest (.recoverWatcher _) fun c h => .inl (hkey _ c h)
  | reconcile_redis => exact hrequest (.reconcileRedis _) fun c h => .inr (hkey _ c h)
  | requeue_job | reset_circuit => exact hremedial.elim

/-- A step of a pipeline plans jobs anew. -/
theorem replans_step {p q : LoopPool L} {label : PipelineLabel} (hremedial : Remedial p)
    (hstep : Pool.Step deployment.pipelines p label q) : Replans p.store.1 q.store.1 := by
  cases hstep with
  | start call henabled => exact .refl _
  | stop t => exact .refl _
  | @perform store before after t op next exchange hprog =>
      obtain ⟨s, history⟩ := store
      have hthread := hremedial t (by simp)
      rw [hprog] at hthread
      cases op with
      | record result => exact .refl _
      | exchange call =>
          show Replans s (deployment.perform exchange (.exchange call) (s, history)).2.1
          unfold perform
          cases exchange.fate with
          | answered | unanswered => exact replans_answer hthread.1 exchange.env s
          | lost => exact .refl s

/-- In every state of the loop, whatever the pipelines do until the application serves somebody
else, they only plan jobs anew: messages, executions, incidents, circuits, flags and the rate
limit stay as they are, and what a job goes through is to be scheduled or put back into the
delay queue. -/
theorem pipelines_replan {s : State L} {history : List AgentRunResult} {p q : LoopPool L}
    {past : List (PipelineLabel ⊕ (Activity × RequestEnv))} {labels : List PipelineLabel}
    (hpast : Run deployment.LoopStep ⟨(s, history), []⟩ past p)
    (hrun : Run (Pool.Step deployment.pipelines) p labels q) : Replans p.store.1 q.store.1 := by
  have hremedial : Remedial p := by
    refine hpast.invariant Remedial ?_ fun t ht => (List.not_mem_nil ht).elim
    rintro p label q - hp hstep
    cases hstep with
    | pipeline hstep => exact hp.step hstep
    | application => exact hp
  refine (hrun.invariant (fun q => Remedial q ∧ Replans p.store.1 q.store.1) ?_
    ⟨hremedial, .refl _⟩).2
  rintro p label q - ⟨hp, hreplans⟩ hstep
  exact ⟨hp.step hstep, hreplans.trans (replans_step hp hstep)⟩

/-- The watcher is recovered twice, and no job is executed for it. -/
theorem pipelines_replan_repeatedRecovery : ∃ p,
    Run (Pool.Step localhost.pipelines) ⟨(Server.createdAndConsumed, []), []⟩
      repeatedRecoverySteps p ∧
      Replans Server.createdAndConsumed p.store.1 := by
  obtain ⟨p, hrun, -⟩ := run_repeatedRecovery
  have hnone : Run localhost.LoopStep ⟨(Server.createdAndConsumed, []), []⟩ []
      ⟨(Server.createdAndConsumed, []), []⟩ := .nil _
  exact ⟨p, hrun, pipelines_replan hnone hrun⟩

/-! ## What the loop spends -/

/-- What the requests of the pipelines weigh together. -/
def requests (weight : AdminCall → Nat)
    (labels : List (PipelineLabel ⊕ (Activity × RequestEnv))) : Nat :=
  (labels.map (Sum.elim (Pool.Label.spent (NetOp.cost weight)) fun _ => 0)).sum

/-- The pipelines that were started. -/
def started (labels : List (PipelineLabel ⊕ (Activity × RequestEnv))) : Nat :=
  (labels.map (Sum.elim (Pool.Label.granted 1) fun _ => 0)).sum

theorem within_pipeline {weight : AdminCall → Nat} {n : Nat}
    (hweight : ∀ call : AdminCall, call.Remedial → (AgentOp.admin call).cost weight ≤ n)
    (call : PipelineCall) :
    (deployment.pipelines (L := L).program call).Within (NetOp.cost weight)
      ((AgentOp.admin .get_detailed_health).cost weight + n) := by
  have hprogram := (within_processIncident hweight call.agent call.incident).bind (n := 0)
    (f := fun _ => (.done (.ok ()) : Agent Unit)) fun _ => trivial
  exact hprogram.translate (within_program weight)

/-- Each pipeline that is started spends its budget at most, in every interleaving. -/
theorem requests_le {weight : AdminCall → Nat} {n : Nat}
    (hweight : ∀ call : AdminCall, call.Remedial → (AgentOp.admin call).cost weight ≤ n)
    {s : State L} {history : List AgentRunResult}
    {labels : List (PipelineLabel ⊕ (Activity × RequestEnv))} {p : LoopPool L}
    (hrun : Run deployment.LoopStep ⟨(s, history), []⟩ labels p) :
    requests weight labels ≤
      ((AgentOp.admin .get_detailed_health).cost weight + n) * started labels := by
  generalize hbudget : (AgentOp.admin .get_detailed_health).cost weight + n = budget
  -- what is left to the threads counts as spent
  have hcovered : ∃ N, p.Within (NetOp.cost weight) N ∧
      requests weight labels + N ≤ budget * started labels := by
    refine hrun.invariant_past (fun past p => ∃ N, p.Within (NetOp.cost weight) N ∧
      requests weight past + N ≤ budget * started past) ?_ ⟨0, Pool.within_empty _, le_rfl⟩
    rintro past p label q - ⟨N, hwithin, hle⟩ hstep
    have hspent : requests weight (past ++ [label]) =
        requests weight past + requests weight [label] := by
      simp [requests]
    have hstarted : started (past ++ [label]) = started past + started [label] := by
      simp [started]
    rw [hspent, hstarted, mul_add]
    cases hstep with
    | application hserves => exact ⟨N, hwithin, hle⟩
    | @pipeline _ _ label hstep =>
        obtain ⟨M, hafter, hcost⟩ :=
          hwithin.step (fun call => hbudget ▸ within_pipeline hweight call) hstep
        rw [Pool.Label.granted_eq] at hcost
        have hone : requests weight [.inl label] = label.spent (NetOp.cost weight) := by
          simp [requests]
        have hnew : started [.inl label] = label.granted 1 := by
          simp [started]
        rw [hone, hnew]
        exact ⟨M, hafter, by omega⟩
  obtain ⟨N, -, hle⟩ := hcovered
  exact (Nat.le_add_right _ N).trans hle

/-- Retries included, the pipelines of a run send at most six requests for each that was
started, and at most three that change anything. -/
theorem requests_bounded {s : State L} {history : List AgentRunResult}
    {labels : List (PipelineLabel ⊕ (Activity × RequestEnv))} {p : LoopPool L}
    (hrun : Run deployment.LoopStep ⟨(s, history), []⟩ labels p) :
    requests (fun _ => 1) labels ≤ 6 * started labels ∧
      requests (fun call => if call.mutates then 1 else 0) labels ≤ 3 * started labels := by
  constructor
  · exact requests_le (fun call _ => cost_le_three le_rfl) hrun
  · refine requests_le (fun call _ => cost_le_three ?_) hrun
    split_ifs <;> omega

/-- The watcher is asked twice, after three requests for the health. -/
theorem requests_bounded_repeatedRecovery : ∃ labels p,
    Run localhost.LoopStep ⟨(Server.createdAndConsumed, []), []⟩ labels p ∧
      started labels = 1 ∧ requests (fun _ => 1) labels = 5 ∧
      requests (fun call => if call.mutates then 1 else 0) labels = 2 ∧
      requests (fun _ => 1) labels ≤ 6 * started labels ∧
      requests (fun call => if call.mutates then 1 else 0) labels ≤ 3 * started labels := by
  obtain ⟨p, hpipeline, -⟩ := run_repeatedRecovery
  have hrun : Run localhost.LoopStep ⟨(Server.createdAndConsumed, []), []⟩
      (repeatedRecoverySteps.map .inl) p :=
    Run.map id Sum.inl hpipeline fun _ _ _ hstep => .pipeline hstep
  exact ⟨_, p, hrun, by decide +kernel, by decide +kernel, by decide +kernel,
    requests_bounded hrun⟩

end Deployment

end JobQueue
