import JobQueue.Lib.Trace
import JobQueue.Model.Call
import JobQueue.Model.IncidentPublisherService
import JobQueue.Model.ObserverAgent

/-!
# From the publisher to the observer

The schema of an incident is written twice: every field of the event may be `null`, and some
fields of the payload may not.  Only the evidence is ever `null` there: two of the publish
sites fill it with the message of an exception.
-/

namespace JobQueue

namespace AiAgent

open Json

/-! ## The text of an event -/

section Text

open ObjectMapper

theorem hexCode_control : ∀ n < 0x20,
    hexCode ['0', '0', ObjectMapper.hexDigit (n / 16), ObjectMapper.hexDigit (n % 16)] =
      some n := by
  decide +kernel

theorem readsAs_escapeChar (c : Char) : ReadsAs (escapeChar c) c := by
  unfold escapeChar
  split
  · exact readsAs_escape (by decide) rfl
  · exact readsAs_escape (by decide) rfl
  · exact readsAs_escape (by decide) rfl
  · exact readsAs_escape (by decide) rfl
  · exact readsAs_escape (by decide) rfl
  · exact readsAs_escape (by decide) rfl
  · exact readsAs_escape (by decide) rfl
  · rename_i hquote hbackslash _ _ _ _ _
    split_ifs with hcontrol
    · exact readsAs_unicode (hexCode_control c.toNat hcontrol)
    · refine readsAs_self ?_
      simp only [plain, Bool.and_eq_true, decide_eq_true_eq, ne_eq]
      exact ⟨⟨hquote, hbackslash⟩, not_lt.mp hcontrol⟩

theorem spells_writeString (value : String) :
    Spells (writeString value) (.string (str value)) :=
  Spells.string fun c _ => readsAs_escapeChar c

/-- The value of a field that may be `null`. -/
def nullable : Option String → Json
  | none => .null
  | some value => .string (str value)

theorem spells_writeNullable (value : Option String) :
    Spells (writeNullable writeString value) (nullable value) := by
  cases value with
  | none => exact Spells.null
  | some value => exact spells_writeString value

theorem escapeChar_plain {c : Char} (h : plain c = true) : escapeChar c = [c] := by
  have hcontrol : ¬ c.toNat < 0x20 := by
    simp only [plain, Bool.and_eq_true, decide_eq_true_eq] at h
    exact not_lt.mpr h.2
  unfold escapeChar
  split
  iterate 7 exact absurd h (by decide)
  exact if_neg hcontrol

/-- A text without quotes, backslashes and control characters is written as it is. -/
theorem escape_plain {text : Text} (h : text.all plain = true) : escape text = text := by
  induction text with
  | nil => rfl
  | cons c text ih =>
      rw [List.all_cons, Bool.and_eq_true] at h
      rw [escape, List.flatMap_cons, escapeChar_plain h.1, ← escape, ih h.2,
        List.singleton_append]

def attributeEntries (attributes : List (String × String)) : List (CodePoints × Json) :=
  attributes.map fun entry => (str entry.1, .string (str entry.2))

theorem spells_writeMap {attributes : List (String × String)}
    (h : ∀ entry ∈ attributes, entry.1.toList.all plain = true) :
    Spells (writeMap attributes) (.object (attributeEntries attributes)) := by
  unfold writeMap
  split_ifs with hempty
  · subst hempty
    exact fun _ => rfl
  · refine Spells.object ?_ (by simpa using hempty)
    rw [attributeEntries, List.forall₂_map_left_iff, List.forall₂_map_right_iff,
      List.forall₂_same]
    intro entry hentry
    rw [escape_plain (h entry hentry), String.ofList_toList]
    exact ⟨h entry hentry, rfl, spells_writeString entry.2⟩

/-- The document of an event. -/
def eventEntries (incidentId now : String) (incident : Incident) : List (CodePoints × Json) :=
  [(str "incidentId", .string (str incidentId)),
    (str "type", .string (str incident.type)),
    (str "severity", .string (str incident.severity)),
    (str "title", .string (str incident.title)),
    (str "jobId", nullable incident.jobId),
    (str "jobType", nullable incident.jobType),
    (str "evidence", nullable incident.evidence),
    (str "source", .string (str "job-queue-app")),
    (str "timestamp", .string (str now)),
    (str "attributes", .object (attributeEntries incident.attributes))]

/-- Every name of an attribute is written as it is. -/
def PlainNames (incident : Incident) : Prop :=
  ∀ entry ∈ incident.attributes, entry.1.toList.all plain = true

/-- The text of an event is read back as the event. -/
theorem loads_event (incidentId now : String) {incident : Incident} (h : PlainNames incident) :
    loads (writeValueAsString (IncidentPublisherService.eventOf incidentId now incident)) =
      some (.object (eventEntries incidentId now incident)) := by
  refine Spells.loads (Spells.object ?_ (List.cons_ne_nil _ _))
  exact .cons (.of (by decide) <| spells_writeString incidentId) <|
    .cons (.of (by decide) <| spells_writeString incident.type) <|
    .cons (.of (by decide) <| spells_writeString incident.severity) <|
    .cons (.of (by decide) <| spells_writeString incident.title) <|
    .cons (.of (by decide) <| spells_writeNullable incident.jobId) <|
    .cons (.of (by decide) <| spells_writeNullable incident.jobType) <|
    .cons (.of (by decide) <| spells_writeNullable incident.evidence) <|
    .cons (.of (by decide) <| spells_writeString "job-queue-app") <|
    .cons (.of (by decide) <| spells_writeString now) <|
    .cons (.of (by decide) <| spells_writeMap h) .nil

end Text

/-! ## The payload of an event -/

/-- The payload with the values of the event. -/
def payloadOf (incidentId : String) (timestamp : DateTime) (incident : Incident)
    (evidence : String) : IncidentPayload where
  incident_id := some (str incidentId)
  type := str incident.type
  severity := str incident.severity
  title := str incident.title
  job_id := incident.jobId.map str
  job_type := incident.jobType.map str
  evidence := str evidence
  source := str "job-queue-app"
  timestamp := some timestamp
  attributes := incident.attributes.map (Prod.map str str)

theorem readOptional_nullable (value : Option String) :
    readOptional readStr (nullable value) = some (value.map str) := by
  cases value <;> rfl

theorem str_injective : Function.Injective str := by
  intro a b h
  have hchars : a.toList = b.toList :=
    (List.map_injective_iff.mpr fun c d => Char.toNat_inj.mp) h
  exact String.toList_inj.mp hchars

theorem mapM_readStr (attributes : List (String × String)) :
    (attributeEntries attributes).mapM (fun entry => (readStr entry.2).map (entry.1, ·)) =
      some (attributes.map (Prod.map str str)) := by
  induction attributes with
  | nil => rfl
  | cons entry attributes ih =>
      rw [attributeEntries, List.map_cons, List.mapM_cons, ← attributeEntries, ih]
      rfl

theorem readStrDict_attributes {attributes : List (String × String)}
    (h : (attributes.map Prod.fst).Nodup) :
    readStrDict (.object (attributeEntries attributes)) =
      some (attributes.map (Prod.map str str)) := by
  have hkeys : ((attributeEntries attributes).map Prod.fst).Nodup := by
    have hmap : (attributeEntries attributes).map Prod.fst = (attributes.map Prod.fst).map str := by
      simp [attributeEntries]
    rw [hmap]
    exact h.map str_injective
  rw [readStrDict, if_pos hkeys, mapM_readStr]

section Read

variable {datetime : CodePoints → Option DateTime} (incidentId : String) {now : String}
  {timestamp : DateTime} {incident : Incident}

theorem read_eventEntries {evidence : String} (hevidence : incident.evidence = some evidence)
    (hnow : datetime (str now) = some timestamp)
    (hnames : (incident.attributes.map Prod.fst).Nodup) :
    IncidentPayload.read datetime (.object (eventEntries incidentId now incident)) =
      some (payloadOf incidentId timestamp incident evidence) := by
  have hjobId : readField (eventEntries incidentId now incident) ["jobId", "job_id"]
      (readOptional readStr) (some none) = some (incident.jobId.map str) :=
    readOptional_nullable incident.jobId
  have hjobType : readField (eventEntries incidentId now incident) ["jobType", "job_type"]
      (readOptional readStr) (some none) = some (incident.jobType.map str) :=
    readOptional_nullable incident.jobType
  have htext : readField (eventEntries incidentId now incident) ["evidence"] readStr (some []) =
      some (str evidence) := by
    show readStr (nullable incident.evidence) = _
    rw [hevidence]
    rfl
  have htimestamp : readField (eventEntries incidentId now incident) ["timestamp"]
      (readOptional fun value => (readStr value).bind datetime) (some none) =
        some (some timestamp) := by
    show (datetime (str now)).map some = _
    rw [hnow]
    rfl
  have hattributes : readField (eventEntries incidentId now incident) ["attributes"]
      readStrDict (some []) = some (incident.attributes.map (Prod.map str str)) :=
    readStrDict_attributes hnames
  rw [IncidentPayload.read, hjobId, hjobType, htext, htimestamp, hattributes]
  rfl

variable (now) in
/-- Without evidence the field is `null`. -/
theorem get_evidence (h : incident.evidence = none) :
    get (eventEntries incidentId now incident) "evidence" = some .null := by
  show some (nullable incident.evidence) = _
  rw [h]
  rfl

end Read

/-! ## The publish sites -/

section Sites

open KafkaConsumerService WatcherService

/-- The incidents of the publish sites of `consume` and `watch`. -/
inductive FromSite : Incident → Prop where
  | rateLimited (job : Job) : FromSite (rateLimitedIncident job)
  | circuitOpen (job : Job) : FromSite (circuitOpenIncident job)
  | circuitTriggered (job : Job) (e : JavaException) (failures : Nat) :
      FromSite (circuitTriggeredIncident job e failures)
  | exhausted (job : Job) (e : JavaException) : FromSite (exhaustedIncident job e)
  | watcherGap (now last : Int) : FromSite (gapIncident now last)

/-- What is published comes from a site. -/
def PublishesFromSite : Op → Prop
  | .publish incident => FromSite incident
  | _ => True

theorem countFailure_publishes (now : Int) (job : Job) (e : JavaException) :
    (countFailure now job e).Only PublishesFromSite := by
  refine .perform_bind trivial fun failures => .perform_bind trivial fun _ => ?_
  split_ifs
  · exact .perform_bind trivial fun _ => ⟨.circuitTriggered job e failures, fun _ => trivial⟩
  · trivial

theorem catchBlock_publishes (now : Int) (job : Job) (e : JavaException) :
    (catchBlock now job e).Only PublishesFromSite := by
  refine (countFailure_publishes now job e).bind fun _ => .perform_bind trivial fun _ => ?_
  split_ifs
  · exact ⟨.exhausted job e, fun _ => trivial⟩
  · trivial

theorem tryBlock_publishes (job : Job) : (tryBlock job).Only PublishesFromSite := by
  unfold tryBlock ExecutorFactory.getExecutor
  split_ifs
  · simp [PublishesFromSite]
  · cases ExecutorFactory.resolve job.type <;> simp [PublishesFromSite]

theorem attempt_publishes (now : Int) (job : Job) :
    (attempt now job).Only PublishesFromSite := by
  refine ((tryBlock_publishes job).tryCatch fun e => ?_).bind fun returned => ?_
  · exact (catchBlock_publishes now job e).bind fun _ => trivial
  · cases returned <;> simp [PublishesFromSite]

theorem guardCircuit_publishes (now : Int) (job : Job) :
    (guardCircuit now job).Only PublishesFromSite := by
  refine .perform_bind trivial fun isOpen => ?_
  split_ifs
  · refine .perform_bind trivial fun lastFailure => ?_
    split_ifs
    · exact .perform_bind (.circuitOpen job) fun _ => by simp [PublishesFromSite]
    · exact .perform_bind trivial fun _ => attempt_publishes now job
  · exact attempt_publishes now job

theorem consumeJob_publishes (job : Job) : (consumeJob job).Only PublishesFromSite := by
  refine .perform_bind trivial fun isCancelled => ?_
  split_ifs
  · simp [PublishesFromSite]
  · refine .perform_bind trivial fun now => .perform_bind trivial fun isAllowed => ?_
    split_ifs
    · exact guardCircuit_publishes now job
    · exact .perform_bind (.rateLimited job) fun _ => by simp [PublishesFromSite]

/-- Whatever the stores reply, `consume` publishes from its four sites. -/
theorem consume_publishes (message : String) : (consume message).Only PublishesFromSite := by
  unfold consume
  cases Decimal.parseLong message with
  | none => simp [PublishesFromSite]
  | some jobId =>
      refine .perform_bind trivial fun row => ?_
      cases row with
      | none => simp [PublishesFromSite]
      | some job => exact consumeJob_publishes job

theorem scheduleJobAt_publishes (jobId : Int) (time : Option Int) :
    (Service.scheduleJobAt jobId time).Only PublishesFromSite := by
  cases time <;> simp [PublishesFromSite]

theorem recoverMissedJobs_publishes (now : Int) :
    (recoverMissedJobs now).Only PublishesFromSite := by
  have hrow : ∀ job count, (recoverRow job count).Only PublishesFromSite := by
    intro job count
    unfold recoverRow
    split_ifs <;> simp [PublishesFromSite]
  have hretry : ∀ job count, (recoverRetryRow job count).Only PublishesFromSite := by
    intro job count
    unfold recoverRetryRow
    split_ifs
    · trivial
    · exact (scheduleJobAt_publishes _ _).bind fun _ => by simp [PublishesFromSite]
  refine .perform_bind trivial fun jobs => (Prog.Only.foldEach hrow jobs 0).bind fun count => ?_
  exact .perform_bind trivial fun retryJobs => Prog.Only.foldEach hretry retryJobs count

/-- Whatever the stores reply, `watch` publishes gaps. -/
theorem watch_publishes : watch.Only PublishesFromSite := by
  have hpending : ∀ job, (schedulePending job).Only PublishesFromSite := by
    intro job
    unfold schedulePending
    split_ifs <;> simp [PublishesFromSite]
  have hretry : ∀ job, (scheduleRetry job).Only PublishesFromSite := by
    intro job
    unfold scheduleRetry
    split_ifs
    · trivial
    · exact .perform_bind trivial fun _ => scheduleJobAt_publishes _ _
  have hgap : ∀ now last, (recoverAfterGap now last).Only PublishesFromSite := by
    intro now last
    cases last with
    | none => trivial
    | some last =>
        unfold recoverAfterGap
        dsimp only
        split_ifs
        · exact .perform_bind (.watcherGap now last) fun _ =>
            (recoverMissedJobs_publishes now).bind fun _ => trivial
        · trivial
  refine .perform_bind trivial fun now => .perform_bind trivial fun last =>
    .perform_bind trivial fun _ => (hgap now last).bind fun _ =>
    .perform_bind trivial fun jobs => ?_
  refine (Prog.Only.foldEach (fun job _ => hpending job) jobs ()).bind fun _ => ?_
  exact .perform_bind trivial fun retryJobs =>
    Prog.Only.foldEach (fun job _ => hretry job) retryJobs ()

end Sites

/-! ## Delivery -/

/-- The payload carries what was published. -/
structure Carries (payload : IncidentPayload) (incident : Incident) : Prop where
  type : payload.type = str incident.type
  severity : payload.severity = str incident.severity
  title : payload.title = str incident.title
  job_id : payload.job_id = incident.jobId.map str
  job_type : payload.job_type = incident.jobType.map str
  attributes : payload.attributes = incident.attributes.map (Prod.map str str)

section Delivery

variable (model_validate : Json → Option IncidentPayload) (settings : Settings)

/-- The message is accepted as the incident, which the observer hands on unless it is a
duplicate. -/
def Delivered (value : Text) (incident : Incident) : Prop :=
  ∃ payload, (loads value).bind model_validate = some payload ∧ Carries payload incident ∧
    ∀ time seen, (ObserverAgent.receive model_validate settings time value seen).1 =
      if (ObserverAgent.isDuplicate settings time payload seen).1 then none else some payload

variable {model_validate} {datetime : CodePoints → Option DateTime} {incidentId now : String}
  {incident : Incident}

/-- An incident with attributes of different plain names is delivered unless its evidence is
`null`. -/
theorem delivered_event_iff (hmodel : PayloadValidate datetime model_validate)
    (hnow : (datetime (str now)).isSome) (hplain : PlainNames incident)
    (hnames : (incident.attributes.map Prod.fst).Nodup) :
    Delivered model_validate settings
        (ObjectMapper.writeValueAsString
          (IncidentPublisherService.eventOf incidentId now incident)) incident ↔
      incident.evidence ≠ none := by
  have hloads := loads_event incidentId now hplain
  cases hevidence : incident.evidence with
  | none =>
      have hrejected := hmodel.null_rejected (by simp [strFields])
        (get_evidence incidentId now hevidence)
      refine iff_of_false ?_ (by simp)
      rintro ⟨payload, haccepted, -⟩
      rw [hloads, Option.bind_some, hrejected] at haccepted
      contradiction
  | some evidence =>
      obtain ⟨timestamp, htimestamp⟩ := Option.isSome_iff_exists.mp hnow
      have haccepted := hmodel.declared
        (read_eventEntries incidentId hevidence htimestamp hnames)
      refine iff_of_true ⟨payloadOf incidentId timestamp incident evidence, ?_,
        ⟨rfl, rfl, rfl, rfl, rfl, rfl⟩, fun time seen => ?_⟩ (by simp)
      · rw [hloads, Option.bind_some, haccepted]
      · rw [ObserverAgent.receive, hloads, Option.bind_some, haccepted]

/-- The incident reports an exception that has no message. -/
def WithoutMessage (incident : Incident) : Prop :=
  ∃ (job : Job) (e : JavaException), e.message = none ∧
    (incident = KafkaConsumerService.exhaustedIncident job e ∨
      ∃ failures, incident = KafkaConsumerService.circuitTriggeredIncident job e failures)

theorem evidence_of_withoutMessage (h : WithoutMessage incident) : incident.evidence = none := by
  obtain ⟨job, e, he, rfl | ⟨failures, rfl⟩⟩ := h
  · exact he
  · exact he

/-- Every site names its attributes plainly, and only an exception leaves the evidence
out. -/
theorem FromSite.delivered_iff (hsite : FromSite incident)
    (hmodel : PayloadValidate datetime model_validate) (hnow : (datetime (str now)).isSome) :
    Delivered model_validate settings
        (ObjectMapper.writeValueAsString
          (IncidentPublisherService.eventOf incidentId now incident)) incident ↔
      ¬ WithoutMessage incident := by
  have hplain : PlainNames incident := by
    have hconstants : ["retryDelayMs", "timeoutMs", "consecutiveFailures", "retryCount",
        "gapMs"].all (fun name => name.toList.all plain) = true := by
      decide +kernel
    have hconstant := List.all_eq_true.mp hconstants
    cases hsite <;> exact List.forall_mem_singleton.mpr (hconstant _ (by simp))
  have hnames : (incident.attributes.map Prod.fst).Nodup := by
    cases hsite <;> exact List.nodup_singleton _
  rw [delivered_event_iff settings hmodel hnow hplain hnames, not_iff_not]
  refine ⟨fun hnone => ?_, evidence_of_withoutMessage⟩
  cases hsite with
  | rateLimited job => cases hnone
  | circuitOpen job => cases hnone
  | circuitTriggered job e failures => exact ⟨job, e, hnone, .inr ⟨failures, rfl⟩⟩
  | exhausted job e => exact ⟨job, e, hnone, .inl rfl⟩
  | watcherGap now last => cases hnone

/-- What `consume` or `watch` publishes, whatever the stores and the executors do, is
delivered exactly when it does not report an exception without a message. -/
theorem published_delivered_iff {σ : Type}
    {handle : (op : Op) → σ → Except JavaException (Reply op) × σ} {service : Service Unit}
    (hmodel : PayloadValidate datetime model_validate) (hnow : (datetime (str now)).isSome)
    (hservice : service = WatcherService.watch ∨
      ∃ message, service = KafkaConsumerService.consume message)
    {before after : σ} (hpublish : (Op.publish incident, after) ∈ Prog.trace handle service before)
    {enabled : Bool} {record : ProducerRecord}
    (hrecord : IncidentPublisherService.publish enabled incidentId now incident = some record) :
    Delivered model_validate settings record.value incident ↔ ¬ WithoutMessage incident := by
  have honly : service.Only PublishesFromSite := by
    rcases hservice with rfl | ⟨message, rfl⟩
    · exact watch_publishes
    · exact consume_publishes message
  have hsite : FromSite incident := honly.trace handle before _ hpublish
  have hvalue : record.value = ObjectMapper.writeValueAsString
      (IncidentPublisherService.eventOf incidentId now incident) := by
    unfold IncidentPublisherService.publish at hrecord
    split_ifs at hrecord
    rw [← Option.some.inj hrecord]
  rw [hvalue, hsite.delivered_iff settings hmodel hnow]

end Delivery

/-! ## An exception without a message -/

/-- A timestamp as Jackson writes it. -/
def sampleInstant : String := "2026-06-27T23:41:02Z"

/-- The seconds of the sample timestamp. -/
def sampleDatetime (text : CodePoints) : Option DateTime :=
  if text = str sampleInstant then some 1782603662 else none

/-- Reading only values of the declared types keeps the promise. -/
theorem IncidentPayload.read_validates (datetime : CodePoints → Option DateTime) :
    PayloadValidate datetime (IncidentPayload.read datetime) where
  declared h := h
  null_rejected := by
    intro entries field hfield hnull
    have hread : ∀ {default value}, readField entries [field] readStr default ≠ some value := by
      simp [readField, hnull, readStr]
    refine Option.eq_none_iff_forall_ne_some.mpr fun payload h => ?_
    obtain ⟨incident_id, -, h⟩ := Option.bind_eq_some_iff.mp h
    obtain ⟨type, htype, h⟩ := Option.bind_eq_some_iff.mp h
    obtain ⟨severity, hseverity, h⟩ := Option.bind_eq_some_iff.mp h
    obtain ⟨title, htitle, h⟩ := Option.bind_eq_some_iff.mp h
    obtain ⟨job_id, -, h⟩ := Option.bind_eq_some_iff.mp h
    obtain ⟨job_type, -, h⟩ := Option.bind_eq_some_iff.mp h
    obtain ⟨evidence, hevidence, h⟩ := Option.bind_eq_some_iff.mp h
    obtain ⟨source, hsource, -⟩ := Option.bind_eq_some_iff.mp h
    simp only [strFields, List.mem_cons, List.not_mem_nil, or_false] at hfield
    rcases hfield with rfl | rfl | rfl | rfl | rfl
    · exact hread htype
    · exact hread hseverity
    · exact hread htitle
    · exact hread hevidence
    · exact hread hsource

/-- Four of five jobs of one type have failed, with an exception that has no message. -/
def fourWithoutMessage : State LuaLimiter :=
  let create : Call × CallEnv := (.createJob (.immediate "API"), .within 1000 (.ok ()))
  let fails : CallEnv := .within 2000 (.error ⟨none⟩)
  Call.execAll [create, create, create, create, create, (.consume "1", fails),
    (.consume "2", fails), (.consume "3", fails), (.consume "4", fails)]
    (State.empty LuaLimiter.empty)

/-- The operation publishes the incident. -/
def publishes (incident : Incident) : Op → Bool
  | .publish published => published = incident
  | _ => false

theorem exists_publish_of_any {σ : Type} {trace : List (Op × σ)} {incident : Incident}
    (h : (trace.any fun entry => publishes incident entry.1) = true) :
    ∃ t, (Op.publish incident, t) ∈ trace := by
  obtain ⟨⟨op, t⟩, hmem, hop⟩ := List.any_eq_true.mp h
  cases op with
  | publish published =>
      obtain rfl : published = incident := of_decide_eq_true hop
      exact ⟨t, hmem⟩
  | _ => cases hop

/-- The fifth failure. -/
def fifthFailure : Incident :=
  KafkaConsumerService.circuitTriggeredIncident
    ⟨⟨"API", .queued, none, none, none, 0, 1000, none⟩, 5⟩ ⟨none⟩ 5

/-- A gap is delivered. -/
theorem published_delivered_iff_gap :
    Delivered (IncidentPayload.read sampleDatetime) {}
      (ObjectMapper.writeValueAsString (IncidentPublisherService.eventOf "u-1" sampleInstant
        (WatcherService.gapIncident 30000 0))) (WatcherService.gapIncident 30000 0) := by
  have hpublish : ∃ t, (Op.publish (WatcherService.gapIncident 30000 0), t) ∈
      Prog.trace (CallEnv.within 30000 (.ok ())).handle WatcherService.watch
        ({ State.empty LuaLimiter.empty with lastRun := some 0 }, 0) :=
    exists_publish_of_any (by decide +kernel)
  obtain ⟨t, ht⟩ := hpublish
  have hrecord : IncidentPublisherService.publish true "u-1" sampleInstant
      (WatcherService.gapIncident 30000 0) = some _ := rfl
  refine (published_delivered_iff {} (IncidentPayload.read_validates sampleDatetime) (by rfl)
    (.inl rfl) ht hrecord).mpr ?_
  intro hnone
  cases evidence_of_withoutMessage hnone

/-- The circuit that the fifth failure opens is published without evidence, and the incident
is rejected. -/
theorem trigger_without_message_lost :
    (∃ t, (Op.publish fifthFailure, t) ∈
      Prog.trace (CallEnv.within 2000 (.error ⟨none⟩)).handle (KafkaConsumerService.consume "5")
        (fourWithoutMessage, 0)) ∧
    ¬ Delivered (IncidentPayload.read sampleDatetime) {}
      (ObjectMapper.writeValueAsString
        (IncidentPublisherService.eventOf "u-1" sampleInstant fifthFailure)) fifthFailure := by
  refine ⟨exists_publish_of_any (by decide +kernel), ?_⟩
  have hsite : FromSite fifthFailure := .circuitTriggered _ _ _
  rw [hsite.delivered_iff {} (IncidentPayload.read_validates sampleDatetime) (by rfl), not_not]
  exact ⟨_, ⟨none⟩, rfl, .inr ⟨5, rfl⟩⟩

end AiAgent

end JobQueue
