import JobQueue.Agent.Escalation
import JobQueue.Loop.Backing

/-!
# What a pipeline reports

A remedy that is carried out always succeeds, and the application says so.  So what is reported
of a remedy does not depend on the jobs: it is a success if the key is right and one of the
attempts has been answered, and an escalation otherwise, even if every attempt has been carried
out and only the responses were lost.  What is reported of a job is how it was when it was
looked up.  Nothing else fails.
-/

namespace JobQueue

namespace AiAgent

open Json

/-! ## Reading the result of an action -/

theorem readStrings_wire (details : List String) :
    readStrings (details.map wire) = some (details.map str) := by
  induction details with
  | nil => rfl
  | cons detail details ih =>
      rw [List.map_cons, readStrings, ih]
      rfl

/-- The details of an action can always be read. -/
theorem exists_detailsOf_wire (python : Python) (plan : PlannedAction)
    (outcome : AdminActionResult) :
    ∃ details, ExecutorAgent.detailsOf python outcome.wire plan = .ok details := by
  unfold ExecutorAgent.detailsOf
  have hget : get outcome.wire "details" =
      some (if outcome.success then .array (outcome.details.map wire) else .null) := rfl
  rw [hget]
  cases outcome.success with
  | false => exact ⟨_, rfl⟩
  | true =>
      simp only [if_true]
      split_ifs
      · rw [readStrings_wire]
        exact ⟨_, rfl⟩
      · exact ⟨_, rfl⟩

/-- An action that has succeeded is a success of the plan, where `true` is read as such. -/
theorem success_executed_wire {python : Python} (hbool : python.bool (.bool true) = some true)
    (plan : PlannedAction) {outcome : AdminActionResult} (hsuccess : outcome.success = true) :
    (executed python plan (.ok outcome.wire)).success = true := by
  obtain ⟨details, hdetails⟩ := exists_detailsOf_wire python plan outcome
  have hget : get outcome.wire "success" = some (.bool true) := by
    show some (Json.bool outcome.success) = _
    rw [hsuccess]
  have hmessage : get outcome.wire "message" = some (.string (str outcome.message)) := rfl
  have hresult : ExecutorAgent.resultOf python plan outcome.wire =
      .ok { action := plan.action, success := true, message := str outcome.message, details } := by
    unfold ExecutorAgent.resultOf
    rw [hdetails, hget, hmessage]
    dsimp only
    rw [hbool]
    rfl
  have hreply : (Except.ok outcome.wire).bind (ExecutorAgent.resultOf python plan) =
      .ok { action := plan.action, success := true, message := str outcome.message, details } :=
    hresult
  unfold executed
  rw [hreply]

/-- A plan that is not executed is escalated by its name. -/
theorem escalated_of_quiet {agent : AgentOrchestrator} {enriched : IncidentPayload}
    {analysis : AnalysisResult} {execution : ExecutionResult}
    (h : (agent.planFor enriched analysis).auto_execute = false) :
    (agent.concluded enriched analysis execution).escalated =
      decide ((agent.planFor enriched analysis).action ∈
        [ALERT_OPERATOR, PAUSE_AND_ESCALATE_JOB_TYPE]) := by
  unfold AgentOrchestrator.concluded
  dsimp only
  rw [h]
  rfl

end AiAgent

open AiAgent

namespace Deployment

variable {deployment : Deployment} {L : Type} [RateLimiter L]

/-- The response to a request for an admin action that returns. -/
theorem respond_action {env : RequestEnv} {request : HttpRequest} {key : Option String}
    {service : Service AdminActionResult} {s : State L} {outcome : AdminActionResult}
    (hhandler : (deployment.server.handler request : Except Thrown (Handler L)) =
      deployment.server.admin key (.ok (.call do
        let result ← service
        return .result result)))
    (hauthorized : deployment.server.Authorized key = true)
    (houtcome : (service.call env.toCallEnv s).1 = .ok outcome) :
    JobQueueClient.read (deployment.server.respond env request s).1.wire = .ok outcome.wire := by
  have hcall : (Service.call (do
      let result ← service
      return Body.result result) env.toCallEnv s).1 = .ok (.result outcome) := by
    rw [Service.call_map, houtcome]
    rfl
  rw [Server.respond, hhandler, Server.admin_of_authorized hauthorized]
  dsimp only
  split
  · rename_i body t hbody
    rw [hbody] at hcall
    obtain rfl := Except.ok.inj hcall
    rfl
  · rename_i e t herror
    rw [herror] at hcall
    cases hcall

/-- With the right key the response to a remedy is that it has succeeded. -/
theorem reads_remedy {env : RequestEnv} {call : AdminCall} {c : Call} {s : State L}
    (hasks : call.asks = some c)
    (hauthorized : deployment.server.Authorized (some deployment.admin_api_key) = true) :
    ∃ reply outcome, call.reads (deployment.answer env call s).1 = .ok reply ∧
      call.dict reply = outcome.wire ∧ AdminActionResult.success outcome = true := by
  cases call with
  | recover_watcher =>
      obtain ⟨outcome, houtcome, hsuccess⟩ := AdminService.returns_recoverWatcher env.toCallEnv s
      exact ⟨outcome.wire, outcome, respond_action rfl hauthorized houtcome, rfl, hsuccess⟩
  | reconcile_redis =>
      obtain ⟨outcome, houtcome, hsuccess⟩ := AdminService.returns_reconcileRedis env.toCallEnv s
      exact ⟨outcome.wire, outcome, respond_action rfl hauthorized houtcome, rfl, hsuccess⟩
  | get_detailed_health | get_job | requeue_job | reset_circuit => cases hasks

/-! ## The verdict -/

variable (deployment) in
/-- The application has the job, in a state in which a failed job may be. -/
def Settled (job_id : CodePoints) (s : State L) : Prop :=
  ∃ text id row, deployment.getJob job_id = some (.getJob text) ∧
    deployment.server.toLong text = some id ∧ s.jobs.findById id = some row ∧
    row.status ∈ [JobStatus.retry, .failed, .completed]

/-- What a result says, given the history of its pipeline and the moments at which it got its
answers. -/
structure Verdict (deployment : Deployment) (start : LoopPool L)
    (labels : List (PipelineLabel ⊕ (Activity × RequestEnv)))
    (t : Thread NetOp NetOp.Reply PyError PipelineCall) (result : AgentRunResult) : Prop where
  /-- A remedy succeeds if the key is right and some attempt is answered. -/
  remedied : result.plan.auto_execute = true → ∃ call, remedy result.plan.action = some call ∧
    (result.execution.success = true ↔
      deployment.server.Authorized (some deployment.admin_api_key) = true ∧
        ∃ response, ⟨.exchange call, .ok response⟩ ∈ t.history) ∧
    result.escalated = !result.execution.success
  /-- A verification succeeds if the job is settled at the look-up whose answer it got. -/
  verified : ∀ job_id, result.plan.action = VERIFY_RETRY_OR_FINAL_STATE →
    jobToVerify t.tag.agent.python result.plan = some job_id →
      (∃ m : Moment deployment start labels t.tag (.get_job job_id),
        ⟨.exchange (.get_job job_id), .ok m.response⟩ ∈ t.history ∧
          (result.execution.success = true ↔ deployment.Settled job_id m.here.store.1)) ∧
      result.escalated = false
  /-- Everything else succeeds. -/
  idle : result.plan.auto_execute = false → (result.plan.action = VERIFY_RETRY_OR_FINAL_STATE →
    jobToVerify t.tag.agent.python result.plan = none) →
      result.execution.success = true ∧ result.escalated =
        decide (result.plan.action ∈ [ALERT_OPERATOR, PAUSE_AND_ESCALATE_JOB_TYPE])

section Record

variable {start : LoopPool L} {labels : List (PipelineLabel ⊕ (Activity × RequestEnv))}
  {p : LoopPool L} {t : Thread NetOp NetOp.Reply PyError PipelineCall} {result : AgentRunResult}

/-- What has returned to a pipeline is what its history has a response for. -/
theorem Honest.success_iff (h : deployment.Honest start labels p) (ht : t ∈ p.threads)
    (hrecordable : Recordable t.tag (ToldOver t.history) result)
    (hheeds : Heeds t.tag.agent.python (ToldOver t.history) result.plan result.execution)
    (hauto : result.plan.auto_execute = true) (hreal : result.execution.dry_run = false)
    (hbool : t.tag.agent.python.bool (.bool true) = some true) {call : AdminCall}
    (hremedy : remedy result.plan.action = some call) :
    result.execution.success = true ↔
      deployment.server.Authorized (some deployment.admin_api_key) = true ∧
        ∃ response, ⟨.exchange call, .ok response⟩ ∈ t.history := by
  obtain ⟨c, hasks⟩ := asks_of_remedy hremedy
  constructor
  · intro hsuccess
    obtain ⟨call', reply, hremedy', response, hmem, hreads⟩ :=
      (hrecordable.evident hreal).remedied hauto hsuccess
    obtain rfl := Option.some.inj (hremedy.symm.trans hremedy')
    obtain ⟨m, rfl⟩ := h.said t ht call response hmem
    exact ⟨(answer_remedy hasks hreads).1, m.response, hmem⟩
  · rintro ⟨hauthorized, response, hmem⟩
    obtain ⟨m, rfl⟩ := h.said t ht call response hmem
    obtain ⟨reply, outcome, hreads, hdict, hsuccess⟩ : ∃ (reply : call.Reply) (outcome :
        AdminActionResult), call.reads m.response = .ok reply ∧
          call.dict reply = outcome.wire ∧ outcome.success = true := reads_remedy hasks hauthorized
    rw [hheeds hreal hauto call reply hremedy ⟨m.response, hmem, hreads⟩, hdict]
    exact success_executed_wire hbool result.plan hsuccess

/-- A look-up is judged by the row at the moment of the answer that the pipeline got. -/
theorem Honest.settled_iff (h : deployment.Honest start labels p) (ht : t ∈ p.threads)
    (hrecordable : Recordable t.tag (ToldOver t.history) result)
    (hreal : result.execution.dry_run = false) {job_id : CodePoints}
    (hverify : result.plan.action = VERIFY_RETRY_OR_FINAL_STATE)
    (hjob : jobToVerify t.tag.agent.python result.plan = some job_id) :
    ∃ m : Moment deployment start labels t.tag (.get_job job_id),
      ⟨.exchange (.get_job job_id), .ok m.response⟩ ∈ t.history ∧
        (result.execution.success = true ↔ deployment.Settled job_id m.here.store.1) := by
  obtain ⟨found, ⟨response, hmem, hreads⟩, hexecution⟩ :=
    (hrecordable.evident hreal).verified _ hverify hjob
  obtain ⟨m, rfl⟩ := h.said t ht _ response hmem
  refine ⟨m, hmem, ?_⟩
  rw [hexecution]
  constructor
  · intro hsuccess
    cases found with
    | none => cases hsuccess
    | some job => exact answer_settled hreads hsuccess
  · rintro ⟨text, id, row, hrequest, hid, hrow, hstatus⟩
    obtain rfl : found = some row.wire :=
      Except.ok.inj (hreads.symm.trans (reads_row hrequest hid hrow))
    exact settled_wire_iff.mpr hstatus

end Record

/-- Whatever a pipeline records outside of dry-run mode, in any run and under any network, is
this verdict. -/
theorem verdict_of_record {s : State L}
    {labels : List (PipelineLabel ⊕ (Activity × RequestEnv))} {p : LoopPool L}
    (hrun : Run deployment.LoopStep ⟨(s, []), []⟩ labels p)
    {t : Thread NetOp NetOp.Reply PyError PipelineCall} {result : AgentRunResult}
    {exchange : Exchange} (hrecord : .inl (.perform t (.record result) exchange) ∈ labels)
    (hreal : result.execution.dry_run = false)
    (hbool : t.tag.agent.python.bool (.bool true) = some true) :
    ∃ past, past <+: labels ∧ Verdict deployment ⟨(s, []), []⟩ past t result := by
  obtain ⟨past, q, next, hpast, hhonest, ht, hprog⟩ := honest_of_record hrun hrecord
  obtain ⟨hrecordable, hheeds⟩ := hhonest.allowed ht hprog
  obtain ⟨enriched, analysis, -, -, hresult⟩ := hrecordable.concludes
  have hplan : result.plan = t.tag.agent.planFor enriched analysis := by
    rw [hresult]
    rfl
  have hplanned := t.tag.agent.planned_planFor enriched analysis
  have haction : result.plan.action = plannedAction t.tag.agent.python enriched analysis := by
    rw [hplan, hplanned.action_eq]
  have hquiet : result.plan.auto_execute = false → result.escalated =
      decide (result.plan.action ∈ [ALERT_OPERATOR, PAUSE_AND_ESCALATE_JOB_TYPE]) := by
    intro hauto
    rw [hplan] at hauto ⊢
    rw [hresult]
    exact escalated_of_quiet hauto
  refine ⟨past, hpast, ⟨fun hauto => ?_, fun job_id hverify hjob => ?_, fun hauto hjob => ?_⟩⟩
  · have hswitched := hauto
    rw [hplan] at hswitched
    obtain ⟨⟨call, hremedy⟩, -⟩ := hplanned.of_auto hswitched
    have hescalated : result.escalated = !result.execution.success := by
      rw [hresult]
      exact escalated_of_remedy t.tag.agent hremedy hswitched
    rw [← haction] at hremedy
    exact ⟨call, hremedy, hhonest.success_iff ht hrecordable hheeds hauto hreal hbool hremedy,
      hescalated⟩
  · -- an action that is verified is never one that is executed automatically
    have hnot : result.plan.auto_execute = false := by
      rw [hplan] at hverify ⊢
      exact Bool.eq_false_iff.mpr fun hauto => auto_ne_verify hplanned hauto hverify
    refine ⟨hhonest.settled_iff ht hrecordable hreal hverify hjob, ?_⟩
    rw [hquiet hnot, hverify]
    decide +kernel
  · exact ⟨(hrecordable.evident hreal).idle hauto hjob, hquiet hauto⟩

/-- The verdict on the watcher that is recovered twice. -/
theorem verdict_of_record_repeatedRecovery : ∃ labels t result,
    Verdict localhost ⟨(Server.createdAndConsumed, []), []⟩ labels t result ∧
      result.execution.success = true ∧ result.plan.auto_execute = true := by
  obtain ⟨labels, p, result, hrun, hstarts, hmem, hsuccess, hreal, hauto⟩ :=
    exists_run_repeatedRecovery
  obtain ⟨t, exchange, hrecord⟩ := exists_record hrun hmem
  have htag : t.tag = ⟨bareAgent {}, watcherGap⟩ := by
    obtain ⟨past, q, next, hpast, hhonest, ht, -⟩ := honest_of_record hrun hrecord
    exact hstarts t.tag (hpast.subset (hhonest.started t ht))
  obtain ⟨past, -, hverdict⟩ := verdict_of_record hrun hrecord hreal (htag ▸ rfl)
  exact ⟨past, t, result, hverdict, hsuccess, hauto⟩

end Deployment

end JobQueue
