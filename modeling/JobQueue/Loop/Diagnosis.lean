import JobQueue.Agent.Escalation
import JobQueue.Agent.Publication
import JobQueue.Lifecycle.Reports
import JobQueue.Loop.Backing

/-!
# From a failure to its confirmation

The consumer publishes that a job is out of retries, the observer reads the text, the planner
asks for a verification, and the executor looks the job up in the application that has
published the report.  A FAILED job stays as it is, so whenever the executor looks it finds
what was reported.
-/

namespace JobQueue

namespace AiAgent

open Json

/-! ## What the observer hands on -/

section Read

variable {model_validate : Json → Option IncidentPayload} {settings : Settings}
  {datetime : CodePoints → Option DateTime} {incidentId now : String} {timestamp : DateTime}
  {incident : Incident}

/-- The text of an event is accepted as its payload if there is evidence. -/
theorem accepted_event (hmodel : PayloadValidate datetime model_validate)
    (hnow : datetime (str now) = some timestamp) (hplain : PlainNames incident)
    (hnames : (incident.attributes.map Prod.fst).Nodup) :
    (loads (ObjectMapper.writeValueAsString
      (IncidentPublisherService.eventOf incidentId now incident))).bind model_validate =
      incident.evidence.map (payloadOf incidentId timestamp incident) := by
  rw [loads_event incidentId now hplain, Option.bind_some]
  cases hevidence : incident.evidence with
  | none =>
      exact hmodel.null_rejected (by simp [strFields]) (get_evidence incidentId now hevidence)
  | some evidence => exact hmodel.declared (read_eventEntries incidentId hevidence hnow hnames)

/-- Of the text of an event the observer hands on its payload. -/
theorem receive_event {payload : IncidentPayload} {time : ℚ} {seen : ObserverAgent.Seen}
    (hmodel : PayloadValidate datetime model_validate)
    (hnow : datetime (str now) = some timestamp) (hplain : PlainNames incident)
    (hnames : (incident.attributes.map Prod.fst).Nodup)
    (h : (ObserverAgent.receive model_validate settings time
      (ObjectMapper.writeValueAsString
        (IncidentPublisherService.eventOf incidentId now incident)) seen).1 = some payload) :
    ∃ evidence, payload = payloadOf incidentId timestamp incident evidence := by
  rw [ObserverAgent.receive, accepted_event hmodel hnow hplain hnames] at h
  cases hevidence : incident.evidence with
  | none =>
      rw [hevidence] at h
      cases h
  | some evidence =>
      rw [hevidence, Option.map_some] at h
      dsimp only at h
      split_ifs at h
      exact ⟨evidence, (Option.some.inj h).symm⟩

end Read

/-- A pipeline that investigates a report: the observer has handed on what the publisher wrote,
and the self-healer finds nothing in it. -/
structure Investigates (reports : List Incident) (call : PipelineCall) : Prop where
  observed : ∃ incident ∈ reports, ∃ model_validate datetime incidentId now timestamp time seen,
    PayloadValidate datetime model_validate ∧ datetime (str now) = some timestamp ∧
      (ObserverAgent.receive model_validate call.agent.settings time
        (ObjectMapper.writeValueAsString
          (IncidentPublisherService.eventOf incidentId now incident)) seen).1 =
        some call.incident
  unenriched : call.agent.self_healer.enrichIncident (call.agent.stamp call.incident) =
    .ok (call.agent.stamp call.incident)
  real : call.agent.settings.dry_run = false
  upper : call.agent.python.upper (str "JOB_EXECUTION_FAILED") = str "JOB_EXECUTION_FAILED"

/-- A result that confirms a failure. -/
structure Confirms (result : AgentRunResult) : Prop where
  action : result.plan.action = VERIFY_RETRY_OR_FINAL_STATE
  success : result.execution.success = true
  observed : str "observed_status=FAILED" ∈ result.execution.details
  escalated : result.escalated = false

/-! ## The plan for a report -/

section Plan

variable {call : PipelineCall} {id : Int} {reports : List Incident}

theorem str_longToString_ne_nil (id : Int) : str (Decimal.longToString id) ≠ [] := by
  intro hempty
  have hnone : Decimal.longToString id = "" := str_injective hempty
  have hparse := Decimal.parseLong_longToString id
  rw [hnone] at hparse
  cases hparse

theorem plainNames_exhaustedIncident (job : Job) (e : JavaException) :
    PlainNames (KafkaConsumerService.exhaustedIncident job e) := by
  have hname : "retryCount".toList.all plain = true := by decide +kernel
  exact List.forall_mem_singleton.mpr hname

/-- The report of a failure is answered by a verification of its job. -/
theorem Investigates.plan {analysis : AnalysisResult} (h : Investigates reports call)
    (hreports : ∀ incident ∈ reports,
      ∃ job e, job.id = id ∧ incident = KafkaConsumerService.exhaustedIncident job e)
    (hruled : Ruled call.agent.python (call.agent.stamp call.incident) analysis) :
    plannedAction call.agent.python (call.agent.stamp call.incident) analysis =
        VERIFY_RETRY_OR_FINAL_STATE ∧
      jobToVerify call.agent.python
          (call.agent.planFor (call.agent.stamp call.incident) analysis) =
        some (str (Decimal.longToString id)) := by
  obtain ⟨incident, hmem, model_validate, datetime, incidentId, now, timestamp, time, seen,
    hmodel, hnow, hreceived⟩ := h.observed
  obtain ⟨job, e, rfl, rfl⟩ := hreports incident hmem
  obtain ⟨evidence, hpayload⟩ := receive_event hmodel hnow
    (plainNames_exhaustedIncident job e) (List.nodup_singleton _) hreceived
  have htype : (call.agent.stamp call.incident).type =
      str (KafkaConsumerService.exhaustedIncident job e).type := by
    rw [hpayload]
    rfl
  have hself : (call.agent.stamp call.incident).self_healer = none := by
    rw [hpayload]
    rfl
  have hjob : jobOf (call.agent.stamp call.incident) =
      some (str (Decimal.longToString job.id)) := by
    rw [hpayload]
    rfl
  have haction : calledFor call.agent.python (call.agent.stamp call.incident) =
      VERIFY_RETRY_OR_FINAL_STATE := by
    unfold calledFor
    rw [hself]
    show fallbackAction _ (call.agent.stamp call.incident).type = _
    rw [htype, KafkaConsumerService.exhaustedIncident, fallbackAction, h.upper]
    decide +kernel
  refine ⟨hruled.plannedAction.trans haction, ?_⟩
  rw [call.agent.jobToVerify_planFor hruled haction, hjob]
  exact if_neg (str_longToString_ne_nil job.id)

/-- A row that is FAILED is reported as such. -/
theorem verified_failed (python : Python) (plan : PlannedAction) (job_id : Json) {row : Job}
    (hfailed : row.status = .failed) :
    (verified python plan job_id (some row.wire)).success = true ∧
      str "observed_status=FAILED" ∈ (verified python plan job_id (some row.wire)).details := by
  have hstatus : ExecutorAgent.statusOf row.wire = .string (str "FAILED") := by
    show AiAgent.wire row.status.name = _
    rw [hfailed]
    rfl
  unfold verified
  dsimp only
  rw [hstatus]
  exact ⟨by decide +kernel, List.mem_append_right _ List.mem_cons_self⟩

/-- A pipeline that is told of a FAILED row confirms the failure. -/
theorem Investigates.confirms {told : (call : AdminCall) → call.Reply → Prop} {row : Job}
    {result : AgentRunResult} (h : Investigates reports call)
    (hreports : ∀ incident ∈ reports,
      ∃ job e, job.id = id ∧ incident = KafkaConsumerService.exhaustedIncident job e)
    (hrecordable : Recordable call told result) (hfailed : row.status = .failed)
    (htold : ∀ found, told (.get_job (str (Decimal.longToString id))) found →
      found = some row.wire) : Confirms result := by
  obtain ⟨enriched, analysis, henriched, hruled, hresult⟩ := hrecordable.concludes
  rw [h.unenriched] at henriched
  obtain rfl := Except.ok.inj henriched
  obtain ⟨haction, hjob⟩ := h.plan hreports hruled
  have hplan : result.plan = call.agent.planFor (call.agent.stamp call.incident) analysis := by
    rw [hresult]
    rfl
  have hverify : result.plan.action = VERIFY_RETRY_OR_FINAL_STATE := by
    rw [hplan, (call.agent.planned_planFor _ analysis).action_eq, haction]
  have hreal : result.execution.dry_run = false := by
    refine Bool.eq_false_iff.mpr fun hdry => ?_
    have hsettings := hrecordable.dry_run hdry
    rw [h.real] at hsettings
    cases hsettings
  rw [← hplan] at hjob
  obtain ⟨found, hfound, hexecution⟩ := (hrecordable.evident hreal).verified _ hverify hjob
  rw [htold found hfound] at hexecution
  obtain ⟨hsuccess, hobserved⟩ := verified_failed call.agent.python result.plan
    (.string (str (Decimal.longToString id))) hfailed
  rw [← hexecution] at hsuccess hobserved
  refine ⟨hverify, hsuccess, hobserved, ?_⟩
  rw [hresult, escalated_of_no_remedy call.agent (haction ▸ remedy_verify), haction]
  decide +kernel

end Plan

end AiAgent

open AiAgent

/-- A report of a failure is about the row, which is FAILED. -/
theorem row_of_report {L : Type} {s : State L} {id : Int}
    (hreported : Reported (s.view id) (s.failureReports id)) {incident : Incident}
    (hmem : incident ∈ s.failureReports id) :
    ∃ row e, s.jobs.findById id = some row ∧ row.status = .failed ∧
      incident = KafkaConsumerService.exhaustedIncident row e := by
  by_cases hfailed : (s.view id).status? = some .failed
  · obtain ⟨row, hrow, hstatus⟩ := JobView.exists_row hfailed
    obtain ⟨e, hreports⟩ := hreported.failed row hrow hstatus
    rw [hreports] at hmem
    exact ⟨row, e, hrow, hstatus, List.mem_singleton.mp hmem⟩
  · rw [hreported.other hfailed] at hmem
    cases hmem

namespace Deployment

open Json

variable {deployment : Deployment} {L : Type} [RateLimiter L] {id : Int}

/-! ## The look-up -/

/-- The request for a job reaches the handler with its id. -/
structure Routes (deployment : Deployment) (id : Int) : Prop where
  getJob : deployment.getJob (str (Decimal.longToString id)) =
    some (.getJob (Decimal.longToString id))
  toLong : deployment.server.toLong (Decimal.longToString id) = some id

/-! ## The confirmation -/

/-- At every moment of a run that makes no duplicates, a FAILED job is as it was. -/
theorem Moment.row_here {limiter : L} {calls : List (Call × CallEnv)} {s : State L}
    (hcalls : Run Call.RegularStep (State.empty limiter) calls s)
    {labels : List (PipelineLabel ⊕ (Activity × RequestEnv))}
    (honce : ∀ activity, .inr activity ∈ labels → deployment.server.NoDuplicate activity)
    {tag : PipelineCall} {call : AdminCall}
    (m : Moment deployment ⟨(s, []), []⟩ labels tag call)
    (hfailed : (s.view id).status? = some .failed) :
    m.here.store.1.jobs.findById id = s.jobs.findById id := by
  obtain ⟨later, hlater⟩ := validatedRun_of_loopRun m.reached fun activity hmem => honce activity
    (m.labels_eq ▸ List.mem_append_left _ hmem)
  exact failed_row_run (hlater.mono fun _ _ _ h => h.1) (carried_of_run hcalls id) hfailed

/-- In a system without duplicates, whatever a pipeline records about the report of a failure
confirms it: the job is looked up in the state that was reported, however late the pipeline
starts, whatever is lost on the network and whatever else happens to the application. -/
theorem failure_confirmed {limiter : L} {calls : List (Call × CallEnv)} {s : State L}
    (hcalls : Run Call.RegularStep (State.empty limiter) calls s)
    {labels : List (PipelineLabel ⊕ (Activity × RequestEnv))} {p : LoopPool L}
    (hrun : Run deployment.LoopStep ⟨(s, []), []⟩ labels p)
    (honce : ∀ activity, .inr activity ∈ labels → deployment.server.NoDuplicate activity)
    (hroutes : deployment.Routes id)
    {t : Thread NetOp NetOp.Reply PyError PipelineCall} {result : AgentRunResult}
    {exchange : Exchange} (hrecord : .inl (.perform t (.record result) exchange) ∈ labels)
    (hinvestigates : Investigates (s.failureReports id) t.tag) : Confirms result := by
  have hreported := (carried_reported_of_run hcalls id).2
  obtain ⟨incident, hmem, -⟩ := hinvestigates.observed
  obtain ⟨row, e, hrow, hfailed, -⟩ := row_of_report hreported hmem
  have hstatus : (s.view id).status? = some .failed := by
    rw [JobView.status?, State.view_row, hrow, Option.map_some, hfailed]
  have hreports : ∀ incident ∈ s.failureReports id, ∃ job e, job.id = id ∧
      incident = KafkaConsumerService.exhaustedIncident job e := by
    intro incident hmem
    obtain ⟨job, e, hjob, -, hincident⟩ := row_of_report hreported hmem
    exact ⟨job, e, JobTable.id_of_findById hjob, hincident⟩
  obtain ⟨past, q, next, hpast, hhonest, ht, hprog⟩ := honest_of_record hrun hrecord
  have hrecordable := hhonest.recordable ht hprog
  refine hinvestigates.confirms hreports hrecordable hfailed ?_
  rintro found ⟨m, hreads⟩
  have hhere := m.row_here hcalls (fun activity hactivity => honce activity (hpast.subset hactivity))
    hstatus
  exact Except.ok.inj (hreads.symm.trans
    (reads_row hroutes.getJob hroutes.toLong (hhere.trans hrow)))

/-! ## A failure on the way -/

/-- The job is out of retries. -/
def failedOnce : State LuaLimiter :=
  Call.execAll outOfRetries (State.empty LuaLimiter.empty)

/-- The report that it is. -/
def refusal : Incident :=
  KafkaConsumerService.exhaustedIncident
    ⟨⟨"API", .failed, none, none, none, 5, 1000, some 420000⟩, 1⟩ ⟨some "Connection refused"⟩

/-- The pipeline for the report. -/
def investigation : PipelineCall :=
  ⟨bareAgent {}, payloadOf "u-1" 1782603662 refusal "Connection refused"⟩

theorem investigates_failedOnce : Investigates (failedOnce.failureReports 1) investigation where
  observed := by
    have haccepted : (loads (ObjectMapper.writeValueAsString
        (IncidentPublisherService.eventOf "u-1" sampleInstant refusal))).bind
          (IncidentPayload.read sampleDatetime) = some investigation.incident :=
      accepted_event (IncidentPayload.read_validates sampleDatetime) rfl
        (plainNames_exhaustedIncident _ _) (List.nodup_singleton _)
    refine ⟨refusal, by decide +kernel, _, _, "u-1", sampleInstant, 1782603662, 0, [],
      IncidentPayload.read_validates sampleDatetime, rfl, ?_⟩
    rw [ObserverAgent.receive, haccepted]
    rfl
  unenriched := rfl
  real := rfl
  upper := by decide +kernel

/-- The first request for the health is lost, and the job is looked up. -/
def investigated : List (Pool.Command PipelineCall Exchange) :=
  [.start investigation,
    .perform 0 ⟨Server.within 500000, .lost⟩,
    .perform 0 ⟨Server.within 500001, .answered⟩,
    .perform 0 ⟨Server.within 500002, .answered⟩,
    .perform 0 ⟨Server.within 500003, .answered⟩]

theorem failure_confirmed_investigated : ∃ labels p, ∃ result ∈ p.store.2,
    Run localhost.LoopStep ⟨(failedOnce, []), []⟩ labels p ∧ Confirms result := by
  have hschedule : ((Pool.schedule localhost.pipelines (fun _ _ => True) investigated
      ⟨(failedOnce, []), []⟩).map fun p => p.store.2.length) = some 1 := by
    decide +kernel
  obtain ⟨p, hp, hlength⟩ := Option.map_eq_some_iff.mp hschedule
  have hrun : Run localhost.LoopStep ⟨(failedOnce, []), []⟩ _ p :=
    Run.map id Sum.inl (Pool.run_steps hp) fun _ _ _ hstep => .pipeline hstep.1
  obtain ⟨result, hresult⟩ := List.exists_mem_of_length_pos (hlength ▸ Nat.one_pos)
  obtain ⟨t, exchange, hrecord⟩ := exists_record hrun hresult
  have htag : t.tag = investigation := by
    obtain ⟨past, q, next, hpast, hhonest, ht, -⟩ := honest_of_record hrun hrecord
    have hcommand := Pool.start_of_mem_steps
      (by simpa using hpast.subset (hhonest.started t ht))
    simpa [investigated] using hcommand
  have hroutes : localhost.Routes 1 := ⟨by decide +kernel, by decide +kernel⟩
  refine ⟨_, p, result, hresult, hrun, ?_⟩
  exact failure_confirmed run_outOfRetries hrun (by simp) hroutes hrecord
    (htag ▸ investigates_failedOnce)

end Deployment

end JobQueue
