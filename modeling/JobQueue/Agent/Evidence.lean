import JobQueue.Agent.History
import JobQueue.Model.JobQueueClient

/-!
# What a result rests on

A pipeline records a result only if it has seen a reason for it: where a remedy is said to have
succeeded it has returned, and what is said of a job is what the look-up has returned.  This is
a protocol of the pipeline over the methods of the client, and one over the exchanges that the
methods are made of.
-/

namespace JobQueue

namespace AiAgent

open Json

/-! ## Reasons -/

/-- What speaks for an execution; `told call reply` says that a method has returned a reply. -/
structure Evident (python : Python) (told : (call : AdminCall) → call.Reply → Prop)
    (plan : PlannedAction) (execution : ExecutionResult) : Prop where
  remedied : plan.auto_execute = true → execution.success = true →
    ∃ call reply, remedy plan.action = some call ∧ told call reply
  verified : ∀ job_id, plan.action = VERIFY_RETRY_OR_FINAL_STATE →
    jobToVerify python plan = some job_id → ∃ found, told (.get_job job_id) found ∧
      execution = verified python plan (.string job_id) found
  idle : plan.auto_execute = false →
    (plan.action = VERIFY_RETRY_OR_FINAL_STATE → jobToVerify python plan = none) →
      execution.success = true

/-- A result of the pipeline of an incident: it is drawn from the incident, enriched, by the
rules. -/
def Concludes (call : PipelineCall) (result : AgentRunResult) : Prop :=
  ∃ enriched analysis,
    call.agent.self_healer.enrichIncident (call.agent.stamp call.incident) = .ok enriched ∧
      Ruled call.agent.python enriched analysis ∧
      result = call.agent.concluded enriched analysis result.execution

/-- A result that a pipeline may record: outside of dry-run mode there is evidence for its
execution. -/
structure Recordable (call : PipelineCall) (told : (call : AdminCall) → call.Reply → Prop)
    (result : AgentRunResult) : Prop where
  concludes : Concludes call result
  dry_run : result.execution.dry_run = true → call.agent.settings.dry_run = true
  evident : result.execution.dry_run = false →
    Evident call.agent.python told result.plan result.execution

/-- A remedy that has returned decides what a pipeline records: its reply is the result. -/
def Heeds (python : Python) (told : (call : AdminCall) → call.Reply → Prop)
    (plan : PlannedAction) (execution : ExecutionResult) : Prop :=
  execution.dry_run = false → plan.auto_execute = true → ∀ call reply,
    remedy plan.action = some call → told call reply →
      execution = executed python plan (.ok (call.dict reply))

section Told

variable {told told' : (call : AdminCall) → call.Reply → Prop}

theorem Evident.mono {python : Python} {plan : PlannedAction} {execution : ExecutionResult}
    (h : Evident python told plan execution)
    (himp : ∀ call reply, told call reply → told' call reply) :
    Evident python told' plan execution where
  remedied hauto hsuccess := by
    obtain ⟨call, reply, hremedy, htold⟩ := h.remedied hauto hsuccess
    exact ⟨call, reply, hremedy, himp call reply htold⟩
  verified job_id hverify hjob := by
    obtain ⟨found, htold, hexecution⟩ := h.verified job_id hverify hjob
    exact ⟨found, himp _ _ htold, hexecution⟩
  idle := h.idle

theorem Recordable.mono {call : PipelineCall} {result : AgentRunResult}
    (h : Recordable call told result)
    (himp : ∀ call reply, told call reply → told' call reply) :
    Recordable call told' result where
  concludes := h.concludes
  dry_run := h.dry_run
  evident hreal := (h.evident hreal).mono himp

theorem Heeds.anti {python : Python} {plan : PlannedAction} {execution : ExecutionResult}
    (h : Heeds python told plan execution)
    (himp : ∀ call reply, told' call reply → told call reply) :
    Heeds python told' plan execution :=
  fun hreal hauto call reply hremedy htold => h hreal hauto call reply hremedy (himp _ _ htold)

end Told

/-! ## Over the methods of the client -/

/-- The method has returned the reply. -/
def ToldIn (events : List (Event AgentOp AgentOp.Reply PyError)) (call : AdminCall)
    (reply : call.Reply) : Prop :=
  ⟨.admin call, .ok reply⟩ ∈ events

/-- What a call may record after what it has seen. -/
def evidence : Protocol AgentOp AgentOp.Reply PyError
    (PipelineCall × List (Event AgentOp AgentOp.Reply PyError)) :=
  .remembering fun call events op =>
    match op with
    | .record result => Recordable call (ToldIn events) result ∧
        Heeds call.agent.python (ToldIn events) result.plan result.execution
    | .admin _ => True

section Execute

variable {call : PipelineCall} {events : List (Event AgentOp AgentOp.Reply PyError)}
  {settings : Settings} {action : CodePoints} {confidence : Confidence} {plan : PlannedAction}

/-- An action that is verified has no remedy. -/
theorem auto_ne_verify (hplan : Planned settings action confidence plan)
    (hauto : plan.auto_execute = true) : plan.action ≠ VERIFY_RETRY_OR_FINAL_STATE := by
  intro hverify
  obtain ⟨⟨admin, hremedy⟩, -⟩ := hplan.of_auto hauto
  rw [← hplan.action_eq, hverify] at hremedy
  rcases remedy_eq_some_iff.mp hremedy with ⟨h, -⟩ | ⟨h, -⟩ <;> revert h <;> decide +kernel

theorem success_executed (python : Python) {reply : Except PyError Dict}
    (h : (executed python plan reply).success = true) : ∃ result, reply = .ok result := by
  cases reply with
  | error e => cases h
  | ok result => exact ⟨result, rfl⟩

/-- What the executor says about a job is what it was told. -/
theorem verifyJobState_of_job (python : Python) {job_id : CodePoints}
    (h : jobToVerify python plan = some job_id) :
    ExecutorAgent.verifyJobState python plan =
      .call (AgentOp.admin (.get_job job_id)) fun reply =>
        .done (reply.map (verified python plan (.string job_id))) := by
  unfold jobToVerify at h
  cases hvalue : get plan.params "job_id" with
  | none =>
      rw [hvalue] at h
      cases h
  | some value =>
      rw [hvalue, Option.bind_some] at h
      split_ifs at h with htruthy
      obtain rfl := Option.some.inj h
      unfold ExecutorAgent.verifyJobState
      rw [hvalue]
      dsimp only
      rw [htruthy]
      exact admin_bind_eq fun found => by cases found <;> rfl

theorem verifyJobState_of_none (python : Python) (h : jobToVerify python plan = none) :
    ∃ execution, ExecutorAgent.verifyJobState python plan = .done (.ok execution) ∧
      execution.dry_run = false ∧ execution.success = true := by
  unfold jobToVerify at h
  unfold ExecutorAgent.verifyJobState
  cases hvalue : get plan.params "job_id" with
  | none => exact ⟨_, rfl, rfl, rfl⟩
  | some value =>
      rw [hvalue, Option.bind_some] at h
      split_ifs at h with htruthy
      rw [Bool.not_eq_true] at htruthy
      dsimp only
      rw [htruthy]
      exact ⟨_, rfl, rfl, rfl⟩

/-- An action that is neither verified nor executed. -/
theorem execute_of_idle (python : Python) (hdry : settings.dry_run = false)
    (hverify : plan.action ≠ VERIFY_RETRY_OR_FINAL_STATE) (hauto : plan.auto_execute = false) :
    ∃ execution, ExecutorAgent.execute python settings plan = .done (.ok execution) ∧
      execution.dry_run = false ∧ execution.success = true := by
  unfold ExecutorAgent.execute
  rw [if_neg (by simp [hdry]), if_neg hverify,
    if_pos (show (!plan.auto_execute || _) = true by rw [hauto]; rfl)]
  split_ifs <;> exact ⟨_, rfl, rfl, rfl⟩

theorem dry_run_resultOf (python : Python) {result : Dict} {execution : ExecutionResult}
    (h : ExecutorAgent.resultOf python plan result = .ok execution) :
    execution.dry_run = false := by
  unfold ExecutorAgent.resultOf at h
  simp only [bind, Except.bind, pure, Except.pure] at h
  -- the details, and two fields that may be absent, right or wrong
  repeat' split at h
  all_goals cases h
  all_goals rfl

theorem dry_run_executed (python : Python) (reply : Except PyError Dict) :
    (executed python plan reply).dry_run = false := by
  unfold executed
  cases hresult : reply.bind (ExecutorAgent.resultOf python plan) with
  | error e => rfl
  | ok execution =>
      cases reply with
      | error e => cases hresult
      | ok result => exact dry_run_resultOf python hresult

/-- What the executor comes to, given what it has been told. -/
structure Executes (call : PipelineCall) (settings : Settings) (plan : PlannedAction)
    (events : List (Event AgentOp AgentOp.Reply PyError)) (execution : ExecutionResult) :
    Prop where
  dry_run : execution.dry_run = true → settings.dry_run = true
  evident : execution.dry_run = false →
    Evident call.agent.python (ToldIn events) plan execution
  heeds : Heeds call.agent.python (ToldIn events) plan execution

/-- An execution that needs no evidence. -/
theorem Executes.of_idle {execution : ExecutionResult}
    (hidle : execution.dry_run = false ∧ execution.success = true)
    (hauto : plan.auto_execute = false) (hjob : plan.action = VERIFY_RETRY_OR_FINAL_STATE →
      jobToVerify call.agent.python plan = none) :
    Executes call settings plan events execution := by
  obtain ⟨hreal, hsuccess⟩ := hidle
  refine ⟨fun h => ?_, fun _ => ⟨fun h => ?_, fun job_id hverify h => ?_, fun _ _ => hsuccess⟩,
    fun _ h => ?_⟩
  · rw [hreal] at h
    cases h
  · rw [hauto] at h
    cases h
  · rw [hjob hverify] at h
    cases h
  · rw [hauto] at h
    cases h

/-- The executor has a reason for its result. -/
theorem executes_execute (hplan : Planned settings action confidence plan)
    (hfresh : ∀ admin reply, remedy plan.action = some admin → ¬ ToldIn events admin reply) :
    (ExecutorAgent.execute call.agent.python settings plan).Obeys evidence (call, events)
      fun l ending => l.1 = call ∧
        ∀ execution, ending = .ok execution → Executes call settings plan l.2 execution := by
  by_cases hdry : settings.dry_run = true
  · -- a dry run is marked as one
    unfold ExecutorAgent.execute
    rw [if_pos hdry]
    refine ⟨rfl, fun execution hexecution => ?_⟩
    obtain rfl := Except.ok.inj hexecution
    exact ⟨fun _ => hdry, (fun hreal => by cases hreal), fun hreal => by cases hreal⟩
  rw [Bool.not_eq_true] at hdry
  by_cases hverify : plan.action = VERIFY_RETRY_OR_FINAL_STATE
  · have hauto : plan.auto_execute = false :=
      Bool.eq_false_iff.mpr fun h => auto_ne_verify hplan h hverify
    rw [execute_of_verify call.agent.python hdry hverify]
    cases hjob : jobToVerify call.agent.python plan with
    | none =>
        obtain ⟨idle, heq, hidle⟩ := verifyJobState_of_none call.agent.python hjob
        rw [heq]
        refine ⟨rfl, fun execution hexecution => ?_⟩
        obtain rfl := Except.ok.inj hexecution
        exact .of_idle hidle hauto fun _ => hjob
    | some job_id =>
        rw [verifyJobState_of_job call.agent.python hjob]
        refine ⟨trivial, fun reply _ => ⟨rfl, fun execution hexecution => ?_⟩⟩
        cases reply with
        | error e => cases hexecution
        | ok found =>
            obtain rfl := Except.ok.inj hexecution
            refine ⟨fun h => ?_, fun _ => ⟨fun h => ?_, fun job_id' _ h => ?_, fun _ hnone => ?_⟩,
              fun _ h => ?_⟩
            · cases found <;> cases h
            · rw [hauto] at h
              cases h
            · obtain rfl := Option.some.inj (hjob.symm.trans h)
              exact ⟨found, List.mem_append_right _ List.mem_cons_self, rfl⟩
            · rw [hnone hverify] at hjob
              cases hjob
            · rw [hauto] at h
              cases h
  · cases hauto : plan.auto_execute with
    | false =>
        obtain ⟨idle, heq, hidle⟩ := execute_of_idle call.agent.python hdry hverify hauto
        rw [heq]
        refine ⟨rfl, fun execution hexecution => ?_⟩
        obtain rfl := Except.ok.inj hexecution
        exact .of_idle hidle hauto fun h => absurd h hverify
    | true =>
        obtain ⟨⟨admin, hremedy⟩, -⟩ := hplan.of_auto hauto
        rw [execute_remedy call.agent.python hplan hdry hauto hremedy]
        refine ⟨trivial, fun reply _ => ⟨rfl, fun execution hexecution => ?_⟩⟩
        obtain rfl := Except.ok.inj hexecution
        refine ⟨fun h => ?_, fun _ => ⟨fun _ hsuccess => ?_, fun _ h => absurd h hverify,
          fun h => ?_⟩, ?_⟩
        · rw [dry_run_executed] at h
          cases h
        · obtain ⟨result, hresult⟩ := success_executed call.agent.python hsuccess
          cases reply with
          | error e => cases hresult
          | ok reply =>
              refine ⟨admin, reply, ?_, List.mem_append_right _ List.mem_cons_self⟩
              rw [hplan.action_eq]
              exact hremedy
        · rw [hauto] at h
          cases h
        · -- the remedy has not been asked for before
          intro _ _ admin' answer hremedy' htold
          rw [hplan.action_eq, hremedy] at hremedy'
          obtain rfl := Option.some.inj hremedy'
          rcases List.mem_append.mp htold with hold | hnew
          · refine absurd hold (hfresh admin answer ?_)
            rw [hplan.action_eq]
            exact hremedy
          · cases List.mem_singleton.mp hnew
            rfl

end Execute

/-- A call records what it has come to. -/
theorem recordable_processIncident (call : PipelineCall) :
    (call.agent.processIncident call.incident).Obeys evidence (call, []) fun _ _ => True := by
  rw [call.agent.processIncident_eq]
  cases henriched : call.agent.self_healer.enrichIncident (call.agent.stamp call.incident) with
  | error e => trivial
  | ok enriched =>
      refine ⟨trivial, fun health _ => ?_⟩
      dsimp only
      cases hanalysis : analyzeWithRules call.agent.python enriched health.toOption with
      | error e => trivial
      | ok analysis =>
          refine (executes_execute (call.agent.planned_planFor enriched analysis) ?_).bind ?_
            fun _ _ _ => trivial
          · intro admin reply hremedy htold
            cases List.mem_singleton.mp htold
            rcases remedy_eq_some_iff.mp hremedy with ⟨-, h⟩ | ⟨-, h⟩ <;> cases h
          rintro ⟨_, events⟩ execution ⟨rfl, hexecutes⟩
          obtain ⟨hdry, hevident, hheeds⟩ := hexecutes execution rfl
          refine ⟨⟨⟨⟨enriched, analysis, henriched, ruled_of_analyzeWithRules hanalysis, rfl⟩,
            hdry, hevident⟩, hheeds⟩, fun reply _ => by cases reply <;> trivial⟩

/-! ## Over the network -/

/-- What a method reads in the last response. -/
def AdminCall.reads : (call : AdminCall) → HttpReply → Except PyError call.Reply
  | get_job _ => fun response =>
      if response.status_code = 404 then .ok none
      else (JobQueueClient.read response).map some
  | get_detailed_health => JobQueueClient.read
  | recover_watcher => JobQueueClient.read
  | reconcile_redis => JobQueueClient.read
  | requeue_job _ => JobQueueClient.read
  | reset_circuit _ => JobQueueClient.read

/-- The method has returned the reply because a response says so. -/
def ToldOver (events : List (Event NetOp NetOp.Reply PyError)) (call : AdminCall)
    (reply : call.Reply) : Prop :=
  ∃ response, ⟨.exchange call, .ok response⟩ ∈ events ∧ call.reads response = .ok reply

/-- What a call may record after the responses it has seen. -/
def netEvidence : Protocol NetOp NetOp.Reply PyError
    (PipelineCall × List (Event NetOp NetOp.Reply PyError)) :=
  .remembering fun call events op =>
    match op with
    | .record result => Recordable call (ToldOver events) result ∧
        Heeds call.agent.python (ToldOver events) result.plan result.execution
    | .exchange _ => True

section Methods

variable {call : PipelineCall} {events attempts : List (Event NetOp NetOp.Reply PyError)}
  {admin : AdminCall}

theorem toldOver_append {reply : admin.Reply} :
    ToldOver (events ++ attempts) admin reply ↔
      ToldOver events admin reply ∨ ToldOver attempts admin reply := by
  simp only [ToldOver, List.mem_append, or_and_right, exists_or]

theorem toldOver_response {response : HttpReply} {reply : admin.Reply} :
    ToldOver [⟨.exchange admin, .ok response⟩] admin reply ↔
      admin.reads response = .ok reply := by
  constructor
  · rintro ⟨response', hmem, hreads⟩
    cases List.mem_singleton.mp hmem
    exact hreads
  · exact fun hreads => ⟨response, List.mem_cons_self, hreads⟩

theorem not_toldOver_error {e : PyError} {reply : admin.Reply} :
    ¬ ToldOver [⟨.exchange admin, .error e⟩] admin reply := by
  rintro ⟨response, hmem, -⟩
  cases List.mem_singleton.mp hmem

/-- The exchanges of a method. -/
def Exchanges (admin : AdminCall) (attempts : List (Event NetOp NetOp.Reply PyError)) : Prop :=
  ∀ event ∈ attempts, ∃ reply, event = ⟨.exchange admin, reply⟩

theorem exchanges_single (reply : Except PyError HttpReply) :
    Exchanges admin [⟨.exchange admin, reply⟩] := by
  intro event hmem
  exact ⟨reply, List.mem_singleton.mp hmem⟩

theorem Exchanges.concat (h : Exchanges admin attempts) (reply : Except PyError HttpReply) :
    Exchanges admin (attempts ++ [⟨.exchange admin, reply⟩]) := by
  intro event hmem
  rcases List.mem_append.mp hmem with hold | hnew
  · exact h event hold
  · exact exchanges_single reply event hnew

/-- Only their own method is told by exchanges. -/
theorem Exchanges.of_told (h : Exchanges admin attempts) {other : AdminCall}
    {reply : other.Reply} (htold : ToldOver attempts other reply) : other = admin := by
  obtain ⟨response, hmem, -⟩ := htold
  obtain ⟨_, hevent⟩ := h _ hmem
  cases hevent
  rfl

/-- The end of a method that has gone through some exchanges: it returns what they tell. -/
def Returned (call : PipelineCall) (events : List (Event NetOp NetOp.Reply PyError))
    (admin : AdminCall) (l : PipelineCall × List (Event NetOp NetOp.Reply PyError))
    (ending : Except PyError admin.Reply) : Prop :=
  l.1 = call ∧ ∃ attempts, l.2 = events ++ attempts ∧ Exchanges admin attempts ∧
    ∀ reply, ToldOver attempts admin reply ↔ ending = .ok reply

/-- A method that makes one exchange. -/
theorem returned_once {reply : Except PyError HttpReply} {ending : Except PyError admin.Reply}
    (h : ending = reply.bind admin.reads) :
    Returned call events admin (call, events ++ [⟨.exchange admin, reply⟩]) ending := by
  refine ⟨rfl, _, rfl, exchanges_single reply, fun answer => ?_⟩
  cases reply with
  | error e =>
      subst h
      exact iff_of_false not_toldOver_error fun h => by cases h
  | ok response =>
      subst h
      exact toldOver_response

/-- Each attempt reads a response or throws. -/
theorem returned_retrying (cast : Dict → admin.Reply)
    (hreads : ∀ response, admin.reads response = (JobQueueClient.read response).map cast) :
    (JobQueueClient.retrying admin).Obeys netEvidence (call, events) fun l ending =>
      Returned call events admin l (ending.map cast) := by
  refine Prog.Obeys.retry (fun l => l.1 = call ∧ ∃ attempts, l.2 = events ++ attempts ∧
    Exchanges admin attempts ∧ ∀ reply, ¬ ToldOver attempts admin reply) ?_ ?_ _
    ⟨rfl, [], (List.append_nil _).symm, (fun _ h => by cases h), fun _ ⟨_, h, _⟩ => by cases h⟩
  · rintro ⟨_, seen⟩ ⟨rfl, attempts, rfl, hexchanges, huntold⟩
    refine ⟨trivial, fun reply _ => ?_⟩
    have hseen : events ++ attempts ++ [⟨.exchange admin, reply⟩] =
        events ++ (attempts ++ [⟨.exchange admin, reply⟩]) := List.append_assoc _ _ _
    have htold : ∀ answer, ToldOver (attempts ++ [⟨.exchange admin, reply⟩]) admin answer ↔
        ToldOver [⟨.exchange admin, reply⟩] admin answer := by
      intro answer
      rw [toldOver_append, or_iff_right (huntold answer)]
    cases reply with
    | error e =>
        refine ⟨(fun a h => by cases h), fun _ => ⟨rfl, _, hseen, hexchanges.concat _, ?_⟩⟩
        intro answer
        rw [htold]
        exact not_toldOver_error
    | ok response =>
        refine ⟨fun a h => ⟨rfl, _, hseen, hexchanges.concat _, fun answer => ?_⟩, ?_⟩
        · have hread : JobQueueClient.read response = .ok a := h
          rw [htold, toldOver_response, hreads, hread, Except.map]
        · rintro ⟨e, h⟩
          have hread : JobQueueClient.read response = .error e := h
          refine ⟨rfl, _, hseen, hexchanges.concat _, fun answer => ?_⟩
          rw [htold, toldOver_response, hreads, hread]
          intro hanswer
          cases hanswer
  · rintro ⟨_, seen⟩ e ⟨rfl, attempts, rfl, hexchanges, huntold⟩
    exact ⟨rfl, attempts, rfl, hexchanges, fun reply =>
      iff_of_false (huntold reply) fun h => by cases h⟩

theorem returned_method (admin : AdminCall) :
    (JobQueueClient.method admin).Obeys netEvidence (call, events)
      (Returned call events admin) := by
  have hid : ∀ ending : Except PyError Dict, ending = ending.map id := by
    rintro (_ | _) <;> rfl
  cases admin with
  | get_job job_id =>
      refine ⟨trivial, fun reply _ => ?_⟩
      cases reply with
      | error e => exact returned_once rfl
      | ok response =>
          show Prog.Obeys netEvidence (if response.status_code = 404 then _ else _) _ _
          have hreads : (AdminCall.get_job job_id).reads response =
              if response.status_code = 404 then .ok none
              else (JobQueueClient.read response).map some := rfl
          split_ifs with hmissing
          · exact returned_once (hreads.trans (if_pos hmissing)).symm
          · rw [if_neg hmissing] at hreads
            cases hread : JobQueueClient.read response with
            | error e =>
                rw [hread] at hreads
                exact returned_once hreads.symm
            | ok job =>
                rw [hread] at hreads
                exact returned_once hreads.symm
  | get_detailed_health | recover_watcher | reconcile_redis | requeue_job | reset_circuit =>
      refine (returned_retrying id fun response => hid _).mono fun l ending h => ?_
      rw [← hid] at h
      exact h

end Methods

/-- What has been told to a pipeline is what has been told over the network. -/
structure Relayed (l : PipelineCall × List (Event AgentOp AgentOp.Reply PyError))
    (l' : PipelineCall × List (Event NetOp NetOp.Reply PyError)) : Prop where
  call : l'.1 = l.1
  told : ∀ admin reply, ToldIn l.2 admin reply ↔ ToldOver l'.2 admin reply

/-- An operation is translated to exchanges that tell the same. -/
theorem relayed_program {l : PipelineCall × List (Event AgentOp AgentOp.Reply PyError)}
    {l' : PipelineCall × List (Event NetOp NetOp.Reply PyError)} {op : AgentOp}
    (hrelayed : Relayed l l') (hallows : evidence.allows l op) :
    op.program.Obeys netEvidence l' fun l' reply =>
      evidence.possible op reply ∧ Relayed (evidence.next l op reply) l' := by
  obtain ⟨call, events⟩ := l
  obtain ⟨_, seen⟩ := l'
  obtain ⟨rfl, htold⟩ := hrelayed
  cases op with
  | record result =>
      obtain ⟨hrecordable, hheeds⟩ := hallows
      refine ⟨⟨hrecordable.mono fun _ _ => (htold _ _).mp,
        hheeds.anti fun _ _ => (htold _ _).mpr⟩, fun reply _ => ⟨trivial, rfl, ?_⟩⟩
      intro admin answer
      have hin : ToldIn (events ++ [⟨.record result, reply⟩]) admin answer ↔
          ToldIn events admin answer := by
        simp [ToldIn]
      have hover : ToldOver (seen ++ [⟨.record result, reply⟩]) admin answer ↔
          ToldOver seen admin answer := by
        simp [ToldOver]
      exact hin.trans ((htold admin answer).trans hover.symm)
  | admin call =>
      refine (returned_method call).mono ?_
      rintro ⟨_, later⟩ ending ⟨rfl, attempts, rfl, hexchanges, hreturned⟩
      refine ⟨trivial, rfl, fun admin answer => ?_⟩
      have hin : ToldIn (events ++ [⟨.admin call, ending⟩]) admin answer ↔
          ToldIn events admin answer ∨ ToldOver attempts admin answer := by
        rw [ToldIn, List.mem_append, List.mem_singleton]
        refine or_congr Iff.rfl ⟨fun h => ?_, fun h => ?_⟩
        · cases h
          exact (hreturned answer).mpr rfl
        · obtain rfl := hexchanges.of_told h
          rw [(hreturned answer).mp h]
      exact hin.trans ((or_congr (htold admin answer) Iff.rfl).trans toldOver_append.symm)

/-- Over the network, a call records what responses give it a reason for. -/
theorem recordable_translated (call : PipelineCall) :
    (((call.agent.processIncident call.incident).bind fun _ => .done (.ok ())).translate
      AgentOp.program : Net Unit).Obeys netEvidence (call, []) fun _ _ => True := by
  have hcall : ((call.agent.processIncident call.incident).bind fun _ => .done (.ok ()) :
      Agent Unit).Obeys evidence (call, []) fun _ _ => True :=
    (recordable_processIncident call).bind (fun _ _ _ => trivial) fun _ _ _ => trivial
  have hstart : Relayed (call, []) (call, []) := by
    refine ⟨rfl, fun admin reply => iff_of_false (fun h => by cases h) ?_⟩
    rintro ⟨_, h, _⟩
    cases h
  exact (hcall.translate Relayed (fun _ _ _ => relayed_program) hstart).mono
    fun _ _ _ => trivial

end AiAgent

end JobQueue
