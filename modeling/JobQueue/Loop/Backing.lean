import JobQueue.Agent.Evidence
import JobQueue.Loop.Safety

/-!
# What the history says has happened

A result in the history that claims success is backed by the application: at a moment of the
run at which it answered the pipeline of the result, it carried out the remedy, or it had the
job in a settled state.
-/

namespace JobQueue

namespace AiAgent

open Json

/-! ## What a response shows -/

/-- Only a 200 is read. -/
theorem status_of_read {response : Response} {entries : Dict}
    (h : JobQueueClient.read response.wire = .ok entries) :
    response.status = .OK ∧ response.body.wire = some entries := by
  obtain ⟨status, body⟩ := response
  unfold JobQueueClient.read Response.wire at h
  cases status with
  | OK =>
      dsimp only at h ⊢
      cases hbody : body.wire with
      | none => simp [HttpStatus.value, hbody] at h
      | some entries' =>
          simp only [HttpStatus.value, hbody] at h
          exact ⟨rfl, congrArg some (Except.ok.inj h)⟩
  | BAD_REQUEST | INTERNAL_SERVER_ERROR => simp [HttpStatus.value] at h

/-- A row is read in a settled state if it is in one. -/
theorem settled_wire_iff {row : Job} :
    ExecutorAgent.settled (ExecutorAgent.statusOf row.wire) = true ↔
      row.status ∈ [JobStatus.retry, .failed, .completed] := by
  have hstatus : ExecutorAgent.statusOf row.wire = AiAgent.wire row.status.name := rfl
  rw [hstatus]
  cases row.status <;> decide +kernel

variable {L : Type}

/-- A job that is found is the one that the response shows. -/
theorem read_of_found {job_id : CodePoints} {response : HttpReply} {job : Dict}
    (h : (AdminCall.get_job job_id).reads response = .ok (some job)) :
    JobQueueClient.read response = .ok job := by
  change (if _ then _ else _) = _ at h
  split_ifs at h
  · cases h
  · cases hread : JobQueueClient.read response with
    | error e =>
        rw [hread] at h
        cases h
    | ok job' =>
        rw [hread] at h
        rw [Option.some.inj (Except.ok.inj h)]

/-- An object without a status is not settled. -/
theorem not_settled_of_no_status {entries : Dict} (h : str "status" ∉ entries.map Prod.fst) :
    ExecutorAgent.settled (ExecutorAgent.statusOf entries) = false := by
  have hget : get entries "status" = none := by
    rw [Json.get, Option.map_eq_none_iff, List.find?_eq_none]
    intro entry hentry hkey
    exact h (List.mem_map.mpr ⟨entry, List.mem_reverse.mp hentry, of_decide_eq_true hkey⟩)
  rw [ExecutorAgent.statusOf, hget]
  decide +kernel

variable {L : Type}

theorem not_settled_stats (s : State L) :
    ExecutorAgent.settled
      (ExecutorAgent.statusOf (wireCounts (JobService.getStats s))) = false := by
  apply not_settled_of_no_status
  have hkeys : (wireCounts (JobService.getStats s)).map Prod.fst =
      (JobStatus.values.map fun status => str status.name) ++ [str "TOTAL"] := by
    simp [wireCounts, JobService.getStats, JobTable.statusCounts]
  rw [hkeys]
  decide +kernel

theorem not_settled_health (health : DetailedHealth) :
    ExecutorAgent.settled (ExecutorAgent.statusOf health.wire) = false := by
  apply not_settled_of_no_status
  show str "status" ∉ [str "jobStats", str "circuitStates", str "overdueScheduled"]
  decide +kernel

/-- The method of the application that a remedy asks for. -/
def AdminCall.asks : AdminCall → Option Call
  | recover_watcher => some .triggerRecovery
  | reconcile_redis => some .reconcileRedis
  | get_detailed_health | get_job _ | requeue_job _ | reset_circuit _ => none

theorem asks_of_remedy {action : CodePoints} {call : AdminCall}
    (h : remedy action = some call) : ∃ c, call.asks = some c := by
  rcases remedy_eq_some_iff.mp h with ⟨-, rfl⟩ | ⟨-, rfl⟩ <;> exact ⟨_, rfl⟩

end AiAgent

open AiAgent

namespace Deployment

variable {deployment : Deployment} {L : Type} [RateLimiter L]

/-- A response that can be read shows that the remedy has been carried out. -/
theorem answer_remedy {env : RequestEnv} {call : AdminCall} {c : Call} {s : State L}
    {reply : call.Reply} (hasks : call.asks = some c)
    (h : call.reads (deployment.answer env call s).1 = .ok reply) :
    deployment.server.Authorized (some deployment.admin_api_key) = true ∧
      (deployment.answer env call s).2 = c.exec env.toCallEnv s := by
  have hrespond : ∀ request entries,
      deployment.server.effectOf request =
        (if deployment.server.Authorized (some deployment.admin_api_key) then some (some c)
          else none) →
      JobQueueClient.read (deployment.server.respond env request s).1.wire = .ok entries →
      deployment.server.Authorized (some deployment.admin_api_key) = true ∧
        (deployment.server.respond env request s).2 = c.exec env.toCallEnv s := by
    intro request entries heffect hread
    obtain ⟨hstatus, hafter⟩ := Server.respond_effect deployment.server env request s
    have haccepted := hstatus.mp (status_of_read hread).1
    rw [heffect] at haccepted hafter
    split_ifs at haccepted hafter with hauthorized
    · exact ⟨hauthorized, hafter⟩
    · cases haccepted
  cases call with
  | recover_watcher =>
      obtain rfl := Option.some.inj hasks
      exact hrespond (.recoverWatcher _) reply rfl h
  | reconcile_redis =>
      obtain rfl := Option.some.inj hasks
      exact hrespond (.reconcileRedis _) reply rfl h
  | get_detailed_health | get_job | requeue_job | reset_circuit => cases hasks

omit [RateLimiter L] in
theorem handler_getJob {text : String} {id : Int} (h : deployment.server.toLong text = some id) :
    (deployment.server.handler (.getJob text) : Except Thrown (Handler L)) =
      .ok (.look fun _ s => .job (s.jobs.findById id)) := by
  show (deployment.server.pathVariable text).bind _ = _
  rw [Server.pathVariable, h]
  rfl

/-- The look-up of a job shows its row. -/
theorem reads_row {env : RequestEnv} {job_id : CodePoints} {text : String} {id : Int}
    {s : State L} {row : Job} (hrequest : deployment.getJob job_id = some (.getJob text))
    (hid : deployment.server.toLong text = some id) (hrow : s.jobs.findById id = some row) :
    (AdminCall.get_job job_id).reads (deployment.answer env (.get_job job_id) s).1 =
      .ok (some row.wire) := by
  have hrequestOf : deployment.requestOf (.get_job job_id) = some (.getJob text) := hrequest
  rw [answer, hrequestOf]
  dsimp only
  rw [Server.respond, handler_getJob hid]
  dsimp only
  rw [hrow]
  rfl

/-- A response that shows a job in a settled state shows a row. -/
theorem answer_settled {env : RequestEnv} {job_id : CodePoints} {s : State L} {job : Dict}
    (h : (AdminCall.get_job job_id).reads (deployment.answer env (.get_job job_id) s).1 =
      .ok (some job))
    (hsettled : ExecutorAgent.settled (ExecutorAgent.statusOf job) = true) :
    ∃ text id row, deployment.getJob job_id = some (.getJob text) ∧
      deployment.server.toLong text = some id ∧ s.jobs.findById id = some row ∧
      row.status ∈ [JobStatus.retry, .failed, .completed] := by
  have hread := read_of_found h
  have hrequestOf : deployment.requestOf (.get_job job_id) = deployment.getJob job_id := rfl
  rw [answer, hrequestOf] at hread
  cases hrequest : deployment.getJob job_id with
  | none =>
      rw [hrequest] at hread
      cases (status_of_read hread).1
  | some request =>
      rw [hrequest] at hread
      obtain ⟨hstatus, hbody⟩ := status_of_read hread
      have haccepted := (Server.respond_effect deployment.server env request s).1.mp hstatus
      have hget := deployment.isGet job_id request hrequest
      cases request with
      | getJob text =>
          rw [Server.effectOf, Option.isSome_map] at haccepted
          obtain ⟨id, hid⟩ := Option.isSome_iff_exists.mp haccepted
          rw [Server.respond, handler_getJob hid] at hbody
          obtain ⟨row, hrow, rfl⟩ := Option.map_eq_some_iff.mp hbody
          exact ⟨text, id, row, rfl, hid, hrow, settled_wire_iff.mp hsettled⟩
      | getStats =>
          -- a job whose id is a path of its own
          obtain rfl := Option.some.inj hbody
          rw [not_settled_stats] at hsettled
          cases hsettled
      | detailedHealth key =>
          rw [Server.effectOf] at haccepted
          split_ifs at haccepted with hkey
          · have hhandler : (deployment.server.handler (.detailedHealth key) :
                Except Thrown (Handler L)) = deployment.server.admin key
                  (.ok (.look fun env s => .health (AdminService.getDetailedHealth env s))) := rfl
            rw [Server.respond, hhandler, Server.admin_of_authorized hkey] at hbody
            obtain rfl := Option.some.inj hbody
            rw [not_settled_health] at hsettled
            cases hsettled
          · cases haccepted
      | createJob | cancel | recoverWatcher | reconcileRedis | requeueJob | resetCircuit =>
          exact hget.elim

/-! ## Moments of a run -/

/-- A moment of a run at which the application answers a pipeline. -/
structure Moment (deployment : Deployment) (start : LoopPool L)
    (labels : List (PipelineLabel ⊕ (Activity × RequestEnv))) (tag : PipelineCall)
    (call : AdminCall) where
  before : List (PipelineLabel ⊕ (Activity × RequestEnv))
  after : List (PipelineLabel ⊕ (Activity × RequestEnv))
  thread : Thread NetOp NetOp.Reply PyError PipelineCall
  exchange : Exchange
  here : LoopPool L
  there : LoopPool L
  labels_eq : labels = before ++ .inl (.perform thread (.exchange call) exchange) :: after
  tag_eq : thread.tag = tag
  reached : Run deployment.LoopStep start before here
  step : deployment.LoopStep here (.inl (.perform thread (.exchange call) exchange)) there
  answered : exchange.fate = .answered

namespace Moment

variable {start : LoopPool L} {labels : List (PipelineLabel ⊕ (Activity × RequestEnv))}
  {tag : PipelineCall} {call : AdminCall}

/-- The response that the pipeline gets. -/
def response (m : Moment deployment start labels tag call) : HttpReply :=
  (deployment.answer m.exchange.env call m.here.store.1).1

/-- A moment of a run is one of every run that goes on. -/
def later (m : Moment deployment start labels tag call)
    (label : PipelineLabel ⊕ (Activity × RequestEnv)) :
    Moment deployment start (labels ++ [label]) tag call where
  __ := m
  after := m.after ++ [label]
  labels_eq := (congrArg (· ++ [label]) m.labels_eq).trans (by simp)

theorem store_there (m : Moment deployment start labels tag call) :
    m.there.store.1 = (deployment.answer m.exchange.env call m.here.store.1).2 := by
  have hstep := m.step
  generalize m.here = here, m.there = there at hstep ⊢
  cases hstep with
  | pipeline hstep =>
      cases hstep with
      | perform env hprog => simp only [pipelines, perform, m.answered]

end Moment

section Runs

variable {start : LoopPool L} {labels : List (PipelineLabel ⊕ (Activity × RequestEnv))}

variable (deployment) (start) (labels) in
/-- The application has told the pipeline. -/
def Said (tag : PipelineCall) (call : AdminCall) (reply : call.Reply) : Prop :=
  ∃ m : Moment deployment start labels tag call, call.reads m.response = .ok reply

theorem Said.later {tag : PipelineCall} {call : AdminCall} {reply : call.Reply}
    (h : deployment.Said start labels tag call reply)
    (label : PipelineLabel ⊕ (Activity × RequestEnv)) :
    deployment.Said start (labels ++ [label]) tag call reply := by
  obtain ⟨m, hreads⟩ := h
  exact ⟨m.later label, hreads⟩

variable (deployment) (start) (labels) in
/-- The pipelines have seen what the application has said, and the history holds what they had
reasons for. -/
structure Honest (p : LoopPool L) : Prop where
  obeys : ∀ t ∈ p.threads, t.prog.Obeys netEvidence (t.tag, t.history) fun _ _ => True
  started : ∀ t ∈ p.threads, .inl (.start t.tag) ∈ labels
  said : ∀ t ∈ p.threads, ∀ call response, ⟨.exchange call, .ok response⟩ ∈ t.history →
    ∃ m : Moment deployment start labels t.tag call, response = m.response
  history : ∀ result ∈ p.store.2, ∃ tag, .inl (.start tag) ∈ labels ∧
    Recordable tag (deployment.Said start labels tag) result

theorem Honest.said_of_told {p : LoopPool L} (h : deployment.Honest start labels p)
    {t : Thread NetOp NetOp.Reply PyError PipelineCall} (ht : t ∈ p.threads) {call : AdminCall}
    {reply : call.Reply} (htold : ToldOver t.history call reply) :
    deployment.Said start labels t.tag call reply := by
  obtain ⟨response, hmem, hreads⟩ := htold
  obtain ⟨m, rfl⟩ := h.said t ht call response hmem
  exact ⟨m, hreads⟩

/-- What a pipeline records the responses give it a reason for. -/
theorem Honest.allowed {p : LoopPool L} (h : deployment.Honest start labels p)
    {t : Thread NetOp NetOp.Reply PyError PipelineCall} (ht : t ∈ p.threads)
    {result : AgentRunResult} {next : Except PyError Unit → Net Unit}
    (hprog : t.prog = .call (NetOp.record result) next) :
    Recordable t.tag (ToldOver t.history) result ∧
      Heeds t.tag.agent.python (ToldOver t.history) result.plan result.execution := by
  have hobeys := h.obeys t ht
  rw [hprog] at hobeys
  exact hobeys.1

theorem Honest.recordable {p : LoopPool L} (h : deployment.Honest start labels p)
    {t : Thread NetOp NetOp.Reply PyError PipelineCall} (ht : t ∈ p.threads)
    {result : AgentRunResult} {next : Except PyError Unit → Net Unit}
    (hprog : t.prog = .call (NetOp.record result) next) :
    Recordable t.tag (deployment.Said start labels t.tag) result :=
  (h.allowed ht hprog).1.mono fun _ _ htold => h.said_of_told ht htold

/-- What is in the history after an operation was there before, or is recorded by it. -/
theorem mem_history_perform {exchange : Exchange} {op : NetOp}
    {store : State L × List AgentRunResult} {result : AgentRunResult}
    (h : result ∈ (deployment.perform exchange op store).2.2) :
    result ∈ store.2 ∨ op = .record result := by
  obtain ⟨s, history⟩ := store
  cases op with
  | exchange call =>
      refine .inl ?_
      unfold perform at h
      cases hfate : exchange.fate <;> simpa [hfate] using h
  | record other =>
      rcases List.mem_append.mp (List.mem_of_mem_drop h) with hold | hnew
      · exact .inl hold
      · rw [List.mem_singleton.mp hnew]
        exact .inr rfl

/-- A response that arrives comes from the application. -/
theorem answered_of_ok {exchange : Exchange} {call : AdminCall}
    {store : State L × List AgentRunResult} {response : HttpReply}
    (h : (.ok response : Except PyError HttpReply) =
      (deployment.perform exchange (.exchange call) store).1) :
    exchange.fate = .answered ∧
      response = (deployment.answer exchange.env call store.1).1 := by
  obtain ⟨s, history⟩ := store
  unfold perform at h
  cases hfate : exchange.fate with
  | answered =>
      rw [hfate] at h
      exact ⟨rfl, Except.ok.inj h⟩
  | unanswered | lost =>
      rw [hfate] at h
      cases h

theorem Honest.step {p q : LoopPool L} {label : PipelineLabel ⊕ (Activity × RequestEnv)}
    (hrun : Run deployment.LoopStep start labels p) (h : deployment.Honest start labels p)
    (hstep : deployment.LoopStep p label q) : deployment.Honest start (labels ++ [label]) q := by
  have hkept : ∀ result ∈ p.store.2, ∃ tag, .inl (.start tag) ∈ labels ++ [label] ∧
      Recordable tag (deployment.Said start (labels ++ [label]) tag) result := by
    intro result hresult
    obtain ⟨tag, hstarted, hrecordable⟩ := h.history result hresult
    exact ⟨tag, List.mem_append_left _ hstarted,
      hrecordable.mono fun _ _ hsaid => hsaid.later label⟩
  have hlater : ∀ t ∈ p.threads, ∀ call response, ⟨.exchange call, .ok response⟩ ∈ t.history →
      ∃ m : Moment deployment start (labels ++ [label]) t.tag call, response = m.response := by
    intro t ht call response hmem
    obtain ⟨m, hm⟩ := h.said t ht call response hmem
    exact ⟨m.later label, hm⟩
  cases hstep with
  | application hserves =>
      exact ⟨h.obeys, fun t ht => List.mem_append_left _ (h.started t ht), hlater, hkept⟩
  | @pipeline _ _ label hstep =>
      refine ⟨?_, fun t ht => ?_, fun t ht call response hmem => ?_, fun result hresult => ?_⟩
      · have hobeys : ∀ t ∈ q.threads, t.prog.Obeys netEvidence
            (t.loc netEvidence fun tag => (tag, [])) fun _ _ => True := by
          refine Pool.obeys_step (fun tag _ => recordable_translated tag) (fun _ _ _ => trivial)
            hstep fun t ht => ?_
          rw [netEvidence, Thread.loc_remembering]
          exact h.obeys t ht
        intro t ht
        have hthread := hobeys t ht
        rw [netEvidence, Thread.loc_remembering] at hthread
        exact hthread
      · rcases Pool.tag_cases hstep ht with ⟨u, hu, htag⟩ | rfl
        · rw [← htag]
          exact List.mem_append_left _ (h.started u hu)
        · exact List.mem_append_right _ List.mem_cons_self
      · rcases Pool.event_cases hstep ht hmem with
          ⟨u, hu, htag, hevent⟩ | ⟨u, env, rfl, htag, hreply⟩
        · rw [← htag]
          exact hlater u hu call response hevent
        · -- the response has arrived in this step, which is its moment
          obtain ⟨hanswered, hresponse⟩ := answered_of_ok hreply
          exact ⟨⟨labels, [], u, env, p, q, rfl, htag, hrun, .pipeline hstep, hanswered⟩, hresponse⟩
      · cases hstep with
        | start tag henabled => exact hkept result hresult
        | stop t => exact hkept result hresult
        | @perform store before after t op next exchange hprog =>
            rcases mem_history_perform hresult with hold | rfl
            · exact hkept result hold
            · -- what is recorded now was allowed by the responses the thread has seen
              have ht : t ∈ (⟨store, before ++ t :: after⟩ : LoopPool L).threads := by simp
              exact ⟨t.tag, List.mem_append_left _ (h.started t ht),
                (h.recordable ht hprog).mono fun _ _ hsaid => hsaid.later _⟩

/-- A claim that the application stands behind. -/
structure Backed (deployment : Deployment) (start : LoopPool L)
    (labels : List (PipelineLabel ⊕ (Activity × RequestEnv))) (tag : PipelineCall)
    (plan : PlannedAction) : Prop where
  /-- It has carried out the remedy, in answer to the right key. -/
  remedied : plan.auto_execute = true → ∃ call c, remedy plan.action = some call ∧
    call.asks = some c ∧ deployment.server.Authorized (some deployment.admin_api_key) = true ∧
    ∃ m : Moment deployment start labels tag call,
      m.there.store.1 = c.exec m.exchange.env.toCallEnv m.here.store.1
  /-- The job was there, in a state in which a failed job may be. -/
  verified : ∀ job_id, plan.action = VERIFY_RETRY_OR_FINAL_STATE →
    jobToVerify tag.agent.python plan = some job_id →
      ∃ (m : Moment deployment start labels tag (.get_job job_id)) (text : String) (id : Int)
        (row : Job), deployment.getJob job_id = some (.getJob text) ∧
          deployment.server.toLong text = some id ∧
          m.here.store.1.jobs.findById id = some row ∧
          row.status ∈ [JobStatus.retry, .failed, .completed]

theorem backed_of_evident {tag : PipelineCall} {plan : PlannedAction}
    {execution : ExecutionResult}
    (h : Evident tag.agent.python (deployment.Said start labels tag) plan execution)
    (hsuccess : execution.success = true) : Backed deployment start labels tag plan where
  remedied hauto := by
    obtain ⟨call, reply, hremedy, m, hreads⟩ := h.remedied hauto hsuccess
    obtain ⟨c, hasks⟩ := asks_of_remedy hremedy
    obtain ⟨hauthorized, hafter⟩ := answer_remedy hasks hreads
    exact ⟨call, c, hremedy, hasks, hauthorized, m, m.store_there.trans hafter⟩
  verified job_id hverify hjob := by
    obtain ⟨found, ⟨m, hreads⟩, rfl⟩ := h.verified job_id hverify hjob
    cases found with
    | none => cases hsuccess
    | some job =>
        obtain ⟨text, id, row, hrow⟩ := answer_settled hreads hsuccess
        exact ⟨m, text, id, row, hrow⟩

/-- What is in the history of a run was recorded with reason. -/
theorem honest_run {s : State L} {p : LoopPool L}
    (hrun : Run deployment.LoopStep ⟨(s, []), []⟩ labels p) :
    deployment.Honest ⟨(s, []), []⟩ labels p := by
  refine hrun.invariant_past (deployment.Honest ⟨(s, []), []⟩) ?_ ?_
  · exact fun past u label v hpast hu hstep => hu.step hpast hstep
  · exact ⟨by simp, by simp, by simp, by simp⟩

/-- A result in the history was recorded by some pipeline. -/
theorem exists_record {s : State L}
    {labels : List (PipelineLabel ⊕ (Activity × RequestEnv))} {p : LoopPool L}
    (hrun : Run deployment.LoopStep ⟨(s, []), []⟩ labels p) {result : AgentRunResult}
    (hresult : result ∈ p.store.2) :
    ∃ t exchange, .inl (.perform t (.record result) exchange) ∈ labels := by
  refine hrun.invariant_past (fun past q => ∀ result ∈ q.store.2,
    ∃ t exchange, .inl (.perform t (.record result) exchange) ∈ past) ?_ (by simp) result hresult
  rintro past q label q' - hall hstep result hresult
  have hkept : result ∈ q.store.2 →
      ∃ t exchange, .inl (.perform t (.record result) exchange) ∈ past ++ [label] := by
    intro hold
    obtain ⟨t, exchange, hmem⟩ := hall result hold
    exact ⟨t, exchange, List.mem_append_left _ hmem⟩
  cases hstep with
  | application hserves => exact hkept hresult
  | pipeline hstep =>
      cases hstep with
      | start call henabled => exact hkept hresult
      | stop t => exact hkept hresult
      | @perform store before after t op next exchange hprog =>
          rcases mem_history_perform hresult with hold | rfl
          · exact hkept hold
          · exact ⟨t, exchange, List.mem_append_right _ List.mem_cons_self⟩

/-- The moment at which a pipeline records a result. -/
theorem honest_of_record {s : State L} {p : LoopPool L}
    (hrun : Run deployment.LoopStep ⟨(s, []), []⟩ labels p)
    {t : Thread NetOp NetOp.Reply PyError PipelineCall} {result : AgentRunResult}
    {exchange : Exchange} (hrecord : .inl (.perform t (.record result) exchange) ∈ labels) :
    ∃ past q next, past <+: labels ∧ deployment.Honest ⟨(s, []), []⟩ past q ∧ t ∈ q.threads ∧
      t.prog = .call (NetOp.record result) next := by
  obtain ⟨past, rest, rfl⟩ := List.append_of_mem hrecord
  obtain ⟨q, hpast, hrest⟩ := hrun.split
  cases hrest with
  | cons hstep _ =>
      cases hstep with
      | pipeline hstep =>
          cases hstep with
          | perform env hprog =>
              exact ⟨past, _, _, List.prefix_append _ _, honest_run hpast, by simp, hprog⟩

/-- In every run, whatever the network does and whoever else uses the application, a result in
the history that claims success outside of dry-run mode is concluded from the incident of a
pipeline that was started, and is backed by the application. -/
theorem success_backed {s : State L} {p : LoopPool L}
    (hrun : Run deployment.LoopStep ⟨(s, []), []⟩ labels p) {result : AgentRunResult}
    (hresult : result ∈ p.store.2) (hsuccess : result.execution.success = true)
    (hreal : result.execution.dry_run = false) :
    ∃ tag, .inl (.start tag) ∈ labels ∧ Concludes tag result ∧
      Backed deployment ⟨(s, []), []⟩ labels tag result.plan := by
  obtain ⟨tag, hstarted, hrecordable⟩ := (honest_run hrun).history result hresult
  exact ⟨tag, hstarted, hrecordable.concludes,
    backed_of_evident (hrecordable.evident hreal) hsuccess⟩

end Runs

/-- The pipeline that recovers the watcher twice records a success, of an execution that is no
dry run. -/
theorem exists_run_repeatedRecovery : ∃ labels p result,
    Run localhost.LoopStep ⟨(Server.createdAndConsumed, []), []⟩ labels p ∧
      (∀ tag, .inl (.start tag) ∈ labels → tag = ⟨bareAgent {}, watcherGap⟩) ∧
      result ∈ p.store.2 ∧ result.execution.success = true ∧
      result.execution.dry_run = false ∧ result.plan.auto_execute = true := by
  have hschedule : (Pool.schedule localhost.pipelines (fun _ _ => True) repeatedRecovery
      ⟨(Server.createdAndConsumed, []), []⟩).map (fun p => p.store.2.map fun run =>
        (run.execution.success, run.execution.dry_run, run.plan.auto_execute)) =
      some [(true, false, true)] := by
    decide +kernel
  obtain ⟨p, hp, hhistory⟩ := Option.map_eq_some_iff.mp hschedule
  obtain ⟨result, hresult, hfacts⟩ := List.map_eq_singleton_iff.mp hhistory
  obtain ⟨hsuccess, hrest⟩ := Prod.mk.inj hfacts
  obtain ⟨hreal, hauto⟩ := Prod.mk.inj hrest
  refine ⟨repeatedRecoverySteps.map .inl, p, result, ?_, fun tag hmem => ?_, by simp [hresult],
    hsuccess, hreal, hauto⟩
  · exact Run.map id Sum.inl (Pool.run_steps hp) fun _ _ _ hstep => .pipeline hstep.1
  · have hstart : .start tag ∈ repeatedRecoverySteps := by simpa using hmem
    simpa [repeatedRecovery] using Pool.start_of_mem_steps hstart

theorem success_backed_repeatedRecovery : ∃ labels tag call,
    ∃ m : Moment localhost ⟨(Server.createdAndConsumed, []), []⟩ labels tag call,
      m.there.store.1 = Call.triggerRecovery.exec m.exchange.env.toCallEnv m.here.store.1 ∨
        m.there.store.1 = Call.reconcileRedis.exec m.exchange.env.toCallEnv m.here.store.1 := by
  obtain ⟨labels, p, result, hrun, -, hmem, hsuccess, hreal, hauto⟩ := exists_run_repeatedRecovery
  obtain ⟨tag, -, -, hbacked⟩ := success_backed hrun hmem hsuccess hreal
  obtain ⟨call, c, -, hasks, -, m, hm⟩ := hbacked.remedied hauto
  refine ⟨_, tag, call, m, ?_⟩
  cases call with
  | recover_watcher =>
      obtain rfl := Option.some.inj hasks
      exact .inl hm
  | reconcile_redis =>
      obtain rfl := Option.some.inj hasks
      exact .inr hm
  | get_detailed_health | get_job | requeue_job | reset_circuit => cases hasks

end Deployment

end JobQueue
