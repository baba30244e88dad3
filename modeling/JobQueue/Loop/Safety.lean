import JobQueue.Agent.SafetyGate
import JobQueue.Loop.Deployment

/-!
# The loop is safe

A pipeline recovers the watcher, reconciles the delay queue and looks things up, and nothing
else; so to the application it is one more client whose requests make no duplicates.  How
often a request is repeated, where a response is lost and in which order the pipelines get
their turns does not matter for what holds under any traffic that the application serves one
request after another.
-/

namespace JobQueue

namespace AiAgent

open Json

/-! ## What a pipeline may do -/

/-- The methods that a pipeline may call. -/
def AdminCall.Remedial : AdminCall → Prop
  | requeue_job _ | reset_circuit _ => False
  | get_detailed_health | get_job _ | recover_watcher | reconcile_redis => True

def AgentOp.Remedial : AgentOp → Prop
  | admin call => call.Remedial
  | record _ => True

theorem remedial_of_remedy {action : CodePoints} {call : AdminCall}
    (h : remedy action = some call) : call.Remedial := by
  rcases remedy_eq_some_iff.mp h with ⟨-, rfl⟩ | ⟨-, rfl⟩ <;> trivial

/-- The execution of a plan that follows its policy is over at once, or it is one method: a
remedy, or the look-up of a job. -/
theorem execute_cases (python : Python) {settings : Settings} {action : CodePoints}
    {confidence : Confidence} {plan : PlannedAction}
    (hplan : Planned settings action confidence plan) :
    (∃ execution, ExecutorAgent.execute python settings plan = .done (.ok execution)) ∨
      ∃ (call : AdminCall) (outcome : Except PyError call.Reply → Except PyError ExecutionResult),
        call.Remedial ∧ ExecutorAgent.execute python settings plan =
          .call (AgentOp.admin call) fun reply => .done (outcome reply) := by
  by_cases hquiet : settings.dry_run = true ∨
      (plan.action ≠ VERIFY_RETRY_OR_FINAL_STATE ∧ plan.auto_execute = false)
  · obtain ⟨execution, hexecution, -⟩ := execute_of_quiet python hquiet
    exact .inl ⟨execution, hexecution⟩
  · rw [not_or, not_and, Bool.not_eq_true, Bool.not_eq_false] at hquiet
    obtain ⟨hdry, hother⟩ := hquiet
    by_cases hverify : plan.action = VERIFY_RETRY_OR_FINAL_STATE
    · rw [execute_of_verify python hdry hverify]
      have hspec := verifyJobState_spec python plan
      cases hjob : jobToVerify python plan with
      | none =>
          rw [hjob] at hspec
          obtain ⟨execution, hexecution, -⟩ := hspec
          exact .inl ⟨execution, hexecution⟩
      | some job_id =>
          rw [hjob] at hspec
          obtain ⟨outcome, houtcome, -⟩ := hspec
          exact .inr ⟨.get_job job_id, _, trivial, houtcome⟩
    · have hauto := hother hverify
      obtain ⟨⟨call, hremedy⟩, -, -⟩ := hplan.of_auto hauto
      exact .inr ⟨call, _, remedial_of_remedy hremedy,
        execute_remedy python hplan hdry hauto hremedy⟩

theorem remedial_execute (python : Python) {settings : Settings} {action : CodePoints}
    {confidence : Confidence} {plan : PlannedAction}
    (hplan : Planned settings action confidence plan) :
    (ExecutorAgent.execute python settings plan).Only AgentOp.Remedial := by
  rcases execute_cases python hplan with ⟨execution, hexecution⟩ | ⟨call, outcome, hcall, hmethod⟩
  · rw [hexecution]
    trivial
  · rw [hmethod]
    exact ⟨hcall, fun _ => trivial⟩

/-- Whatever the incident, the settings and the replies, a pipeline calls nothing else. -/
theorem remedial_processIncident (agent : AgentOrchestrator) (incident : IncidentPayload) :
    (agent.processIncident incident).Only AgentOp.Remedial := by
  rw [agent.processIncident_eq]
  cases agent.self_healer.enrichIncident (agent.stamp incident) with
  | error e => trivial
  | ok enriched =>
      refine ⟨trivial, fun health => ?_⟩
      dsimp only
      cases analyzeWithRules agent.python enriched health.toOption with
      | error e => trivial
      | ok analysis =>
          refine (remedial_execute agent.python (agent.planned_planFor enriched analysis)).bind
            fun execution => ?_
          exact ⟨trivial, fun reply => by cases reply <;> trivial⟩

/-- So it is over the network. -/
def NetOp.Remedial : NetOp → Prop
  | exchange call => call.Remedial
  | record _ => True

theorem remedial_exchange {call : AdminCall} (h : call.Remedial) :
    (Net.exchange call).Only NetOp.Remedial :=
  ⟨h, fun _ => trivial⟩

theorem remedial_retrying {call : AdminCall} (h : call.Remedial) :
    (JobQueueClient.retrying call).Only NetOp.Remedial := by
  have hattempt : (JobQueueClient.attempt call).Only NetOp.Remedial :=
    (remedial_exchange h).bind fun _ => trivial
  exact hattempt.retry JobQueueClient.RETRIES

theorem remedial_method (call : AdminCall) (h : call.Remedial) :
    (JobQueueClient.method call).Only NetOp.Remedial := by
  cases call with
  | get_job job_id =>
      have hexchange : (Net.exchange (.get_job job_id)).Only NetOp.Remedial :=
        remedial_exchange h
      refine hexchange.bind fun response => ?_
      split_ifs
      · trivial
      · exact Prog.Only.bind (p := Prog.done _) trivial fun _ => trivial
  | get_detailed_health => exact remedial_retrying h
  | recover_watcher => exact remedial_retrying h
  | reconcile_redis => exact remedial_retrying h
  | requeue_job => cases h
  | reset_circuit => cases h

theorem remedial_program (op : AgentOp) (h : op.Remedial) :
    op.program.Only NetOp.Remedial := by
  cases op with
  | record result => exact ⟨trivial, fun _ => trivial⟩
  | admin call => exact remedial_method call h

end AiAgent

open AiAgent

/-! ## The application sees traffic -/

namespace Deployment

variable {deployment : Deployment} {L : Type}

/-- Every pipeline has only remedial operations left. -/
def Remedial (p : LoopPool L) : Prop :=
  ∀ t ∈ p.threads, t.prog.Only NetOp.Remedial

theorem Remedial.step [RateLimiter L] {p q : LoopPool L} {label : PipelineLabel}
    (hstep : Pool.Step deployment.pipelines p label q) (h : Remedial p) : Remedial q := by
  intro t ht
  rcases Pool.thread_cases hstep ht with
    hold | ⟨call, -, rfl⟩ | ⟨u, hu, op, next, exchange, hprog, -, rfl⟩
  · exact h t hold
  · have hprogram : ((call.agent.processIncident call.incident).bind fun _ =>
        .done (.ok ()) : Agent Unit).Only AgentOp.Remedial :=
      (remedial_processIncident call.agent call.incident).bind fun _ => trivial
    exact hprogram.translate remedial_program
  · have hrest := h u hu
    rw [hprog] at hrest
    exact hrest.2 _

/-- The request that an exchange brings to the application, if it arrives. -/
def arrives (deployment : Deployment) (exchange : Exchange) (call : AdminCall) :
    Option (Activity × RequestEnv) :=
  if exchange.fate = .lost then none
  else (deployment.requestOf call).map fun request => (.request request, exchange.env)

/-- What the application has to do in a step of the loop. -/
def activityOf (deployment : Deployment) :
    PipelineLabel ⊕ (Activity × RequestEnv) → Option (Activity × RequestEnv)
  | .inl (.perform _ (.exchange call) exchange) => deployment.arrives exchange call
  | .inl _ => none
  | .inr label => some label

theorem noDuplicate_of_arrives {exchange : Exchange} {call : AdminCall}
    {label : Activity × RequestEnv} (hremedial : call.Remedial)
    (h : deployment.arrives exchange call = some label) :
    deployment.server.NoDuplicate label := by
  unfold arrives at h
  split_ifs at h
  obtain ⟨request, hrequest, rfl⟩ := Option.map_eq_some_iff.mp h
  cases call with
  | get_detailed_health | recover_watcher | reconcile_redis =>
      obtain rfl := Option.some.inj hrequest
      trivial
  | get_job job_id =>
      have hget := deployment.isGet job_id request hrequest
      cases request with
      | requeueJob => exact hget.elim
      | createJob | cancel | getJob | getStats | recoverWatcher | reconcileRedis | resetCircuit
      | detailedHealth => trivial
  | requeue_job | reset_circuit => exact hremedial.elim

section Projection

variable [RateLimiter L]

variable (deployment) in
/-- The application after an exchange. -/
theorem serves_of_perform (exchange : Exchange) (call : AdminCall)
    (store : State L × List AgentRunResult) :
    let after := (deployment.perform exchange (.exchange call) store).2.1
    (deployment.arrives exchange call = none → after = store.1) ∧
      ∀ label, deployment.arrives exchange call = some label →
        deployment.server.Serves store.1 label after := by
  intro after
  unfold arrives
  cases hfate : exchange.fate with
  | lost =>
      have hafter : after = store.1 := by simp only [after, perform, hfate]
      exact ⟨fun _ => hafter, by simp⟩
  | answered | unanswered =>
      have hafter : after = (deployment.answer exchange.env call store.1).2 := by
        simp only [after, perform, hfate]
      rw [hafter, answer]
      simp only [reduceCtorEq, if_false]
      cases deployment.requestOf call with
      | none => exact ⟨fun _ => rfl, nofun⟩
      | some request =>
          refine ⟨nofun, fun label hlabel => ?_⟩
          obtain rfl := Option.some.inj hlabel
          rfl

/-- A step that asks nothing of the application and leaves it alone. -/
theorem hidden_of_activityOf {label : PipelineLabel ⊕ (Activity × RequestEnv)} {s t : State L}
    (hlabel : deployment.activityOf label = none) (hstate : t = s) :
    (deployment.activityOf label = none → t = s) ∧
      ∀ activity, deployment.activityOf label = some activity →
        deployment.server.NoDuplicate activity ∧ deployment.server.Serves s activity t := by
  refine ⟨fun _ => hstate, fun activity hactivity => ?_⟩
  rw [hlabel] at hactivity
  cases hactivity

/-- To the application, a step of the loop is a step under traffic that makes no duplicate,
or no step. -/
theorem serves_of_loopStep {p q : LoopPool L} {label : PipelineLabel ⊕ (Activity × RequestEnv)}
    (hstep : deployment.LoopStep p label q) (hremedial : Remedial p)
    (honce : ∀ activity, label = .inr activity → deployment.server.NoDuplicate activity) :
    Remedial q ∧ (deployment.activityOf label = none → q.store.1 = p.store.1) ∧
      ∀ activity, deployment.activityOf label = some activity →
        deployment.server.NoDuplicate activity ∧
          deployment.server.Serves p.store.1 activity q.store.1 := by
  cases hstep with
  | @application s t history threads activity hserves =>
      refine ⟨hremedial, nofun, fun other hother => ?_⟩
      obtain rfl := Option.some.inj hother
      exact ⟨honce _ rfl, hserves⟩
  | pipeline hstep =>
      refine ⟨hremedial.step hstep, ?_⟩
      cases hstep with
      | start call henabled =>
          exact hidden_of_activityOf rfl rfl
      | stop t =>
          exact hidden_of_activityOf rfl rfl
      | @perform store before after t op next exchange hprog =>
          cases op with
          | record result =>
              exact hidden_of_activityOf rfl rfl
          | exchange call =>
              have hthread := hremedial t (by simp)
              rw [hprog] at hthread
              obtain ⟨hhidden, hseen⟩ := serves_of_perform deployment exchange call store
              exact ⟨hhidden, fun activity harrives =>
                ⟨noDuplicate_of_arrives hthread.1 harrives, hseen activity harrives⟩⟩

/-- To the application, a run of the loop is a run under traffic that makes no duplicate. -/
theorem validatedRun_of_loopRun {s : State L}
    {labels : List (PipelineLabel ⊕ (Activity × RequestEnv))} {p : LoopPool L}
    (hrun : Run deployment.LoopStep ⟨(s, []), []⟩ labels p)
    (honce : ∀ activity, .inr activity ∈ labels → deployment.server.NoDuplicate activity) :
    ∃ calls, Run ValidatedStep s calls p.store.1 := by
  have htraffic : Run (fun s activity t => deployment.server.NoDuplicate activity ∧
      deployment.server.Serves s activity t) s
      (labels.filterMap deployment.activityOf) p.store.1 := by
    refine (hrun.project (fun p => p.store.1) deployment.activityOf Remedial ?_ ?_).1
    · rintro p label q hmem hremedial hstep
      exact serves_of_loopStep hstep hremedial fun activity heq => honce activity (heq ▸ hmem)
    · exact fun t ht => (List.not_mem_nil ht).elim
  have hserves := htraffic.mono fun _ _ _ h => h.2
  have hnoDuplicate := htraffic.forall_label fun _ _ _ h => h.1
  exact ⟨_, Server.validatedRun_callOf hserves hnoDuplicate⟩

/-- Any number of pipelines, started at any time by any incidents, interrupted and repeated
by any network, leave every job intact, next to any other traffic that makes no duplicates
itself, as long as the application serves requests and runs calls one after another. -/
theorem loop_safe {limiter : L} {labels : List (PipelineLabel ⊕ (Activity × RequestEnv))}
    {p : LoopPool L}
    (hrun : Run deployment.LoopStep ⟨(State.empty limiter, []), []⟩ labels p)
    (honce : ∀ activity, .inr activity ∈ labels → deployment.server.NoDuplicate activity)
    {id : Int} {job : Job} (hrow : p.store.1.jobs.findById id = some job) :
    Server.Intact p.store.1 id job := by
  obtain ⟨calls, hcalls⟩ := validatedRun_of_loopRun hrun honce
  exact Server.intact_of_validated hcalls hrow

end Projection

/-! ## A repeated remedy -/

/-- The application and an agent with its key; an id is read as it is written. -/
def localhost : Deployment where
  server := .plain
  admin_api_key := "change-me-in-production"
  getJob job_id := some (.getJob (String.ofList (job_id.map Char.ofNat)))
  isGet := by
    rintro job_id request h
    obtain rfl := Option.some.inj h
    trivial
  requeueJob _ := none
  resetCircuit _ := none

/-- Without pipelines there is only the application. -/
theorem run_application [RateLimiter L] {s t : State L} {labels : List (Activity × RequestEnv)}
    (hrun : Run deployment.server.Serves s labels t) :
    Run deployment.LoopStep ⟨(s, []), []⟩ (labels.map .inr) ⟨(t, []), []⟩ := by
  refine Run.map (fun s => (⟨(s, []), []⟩ : LoopPool L)) Sum.inr hrun fun _ _ _ hserves => ?_
  exact .application hserves

/-- A pipeline for a gap.  It gets no answer about the health, and the watcher is recovered
twice, since the first response is lost. -/
def repeatedRecovery : List (Pool.Command PipelineCall Exchange) :=
  [.start ⟨bareAgent {}, watcherGap⟩,
    .perform 0 ⟨Server.within 2000, .lost⟩,
    .perform 0 ⟨Server.within 2001, .unanswered⟩,
    .perform 0 ⟨Server.within 2002, .lost⟩,
    .perform 0 ⟨Server.within 3000, .unanswered⟩,
    .perform 0 ⟨Server.within 4000, .answered⟩,
    .perform 0 ⟨Server.within 5000, .answered⟩]

instance (call : PipelineCall) (store : State L × List AgentRunResult) [RateLimiter L] :
    Decidable (localhost.pipelines.Enabled call store) :=
  inferInstanceAs (Decidable True)

def repeatedRecoverySteps : List PipelineLabel :=
  Pool.steps localhost.pipelines repeatedRecovery ⟨(Server.createdAndConsumed, []), []⟩

/-- The application has the job of before, and the history has the run. -/
theorem run_repeatedRecovery : ∃ p,
    Run (Pool.Step localhost.pipelines) ⟨(Server.createdAndConsumed, []), []⟩
      repeatedRecoverySteps p ∧
      (p.store.1.jobs.findById 1, p.store.2.map fun run => run.execution.success) =
        (some ⟨⟨"LOG", .completed, none, none, none, 0, 1000, none⟩, 1⟩, [true]) := by
  have hschedule : (Pool.schedule localhost.pipelines (fun _ _ => True) repeatedRecovery
      ⟨(Server.createdAndConsumed, []), []⟩).map (fun p =>
        (p.store.1.jobs.findById 1, p.store.2.map fun run => run.execution.success)) =
      some (some ⟨⟨"LOG", .completed, none, none, none, 0, 1000, none⟩, 1⟩, [true]) := by
    decide +kernel
  obtain ⟨p, hschedule, hp⟩ := Option.map_eq_some_iff.mp hschedule
  exact ⟨p, (Pool.run_steps hschedule).mono fun _ _ _ h => h.1, hp⟩

theorem loop_safe_repeatedRecovery : ∃ labels p,
    Run localhost.LoopStep ⟨(State.empty LuaLimiter.empty, []), []⟩ labels p ∧
      p.store.2.length = 1 ∧ (p.store.1.view 1).executions.length = 1 := by
  obtain ⟨p, hpipeline, hp⟩ := run_repeatedRecovery
  obtain ⟨hrow, hhistory⟩ := Prod.mk.inj hp
  have hbefore : Run localhost.LoopStep ⟨(State.empty LuaLimiter.empty, []), []⟩
      (Server.unauthorizedRequeue.map .inr) ⟨(Server.createdAndConsumed, []), []⟩ :=
    run_application Server.run_unauthorizedRequeue
  have hafter : Run localhost.LoopStep ⟨(Server.createdAndConsumed, []), []⟩
      (repeatedRecoverySteps.map .inl) p :=
    Run.map id Sum.inl hpipeline fun _ _ _ hstep => .pipeline hstep
  refine ⟨_, p, hbefore.append hafter, ?_, ?_⟩
  · simpa using congrArg List.length hhistory
  · refine (loop_safe (hbefore.append hafter) ?_ hrow).executions
    intro activity hactivity
    have hmem : activity ∈ Server.unauthorizedRequeue := by simpa using hactivity
    exact Server.noDuplicate_unauthorizedRequeue activity hmem

end Deployment

end JobQueue
