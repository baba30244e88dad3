import JobQueue.Healer.RoundTrip
import JobQueue.Model.AgentModels

/-!
# Enrichment

An incident without a plan is rebuilt from what the self-healer makes of its evidence; only
the id, the timestamp and the attributes are copied back.  The type, the job id and the job
type are those the detectors find in the evidence, and the evidence the services send
names no job.
-/

namespace JobQueue

namespace AiAgent

open Json

/-! ## The identity of an incident -/

/-- What is the same of the incident and of the one it was turned into. -/
structure KeepsIdentity (incident enriched : IncidentPayload) : Prop where
  incident_id : enriched.incident_id = incident.incident_id
  timestamp : enriched.timestamp = incident.timestamp
  attributes : enriched.attributes = incident.attributes
  type : enriched.type = incident.type
  job_id : ∀ id, incident.job_id = some id → enriched.job_id = some id
  job_type : ∀ type, incident.job_type = some type → enriched.job_type = some type

theorem KeepsIdentity.refl (incident : IncidentPayload) : KeepsIdentity incident incident :=
  ⟨rfl, rfl, rfl, rfl, fun _ h => h, fun _ h => h⟩

/-- The output is about an incident of the type, and about the job if there is one. -/
structure Names (incident : IncidentPayload) (output : SelfHealerOutput) : Prop where
  type : output.incident.type = incident.type
  job_id : ∀ id, incident.job_id = some id → id ≠ [] ∧ output.incident.job_id = id
  job_type : ∀ type, incident.job_type = some type → type ≠ [] ∧ output.incident.job_type = type

/-- The self-healer is asked about the evidence. -/
def Asked (incident : IncidentPayload) : Prop :=
  incident.self_healer = none ∧ incident.plan.getD [] = [] ∧ incident.evidence ≠ []

theorem orNone_eq_some_iff {text text' : CodePoints} :
    orNone text = some text' ↔ text' ≠ [] ∧ text = text' := by
  unfold orNone
  split_ifs with h
  · subst h
    simp +contextual [eq_comm]
  · rw [Option.some.injEq]
    exact ⟨fun heq => ⟨heq ▸ h, heq⟩, fun heq => heq.2⟩

section Client

variable (client : SelfHealerClient) {incident : IncidentPayload}

theorem enrichIncident_of_not_asked (h : ¬ Asked incident) :
    client.enrichIncident incident = .ok incident := by
  unfold SelfHealerClient.enrichIncident
  split_ifs with hplan hevidence
  · rfl
  · rfl
  · simp only [Bool.or_eq_true, Bool.not_eq_true', not_or, Bool.not_eq_true,
      Option.isSome_eq_false_iff, Option.isNone_iff_eq_none, Bool.not_eq_false,
      List.isEmpty_iff] at hplan
    exact absurd ⟨hplan.1, hplan.2, hevidence⟩ h

/-- What becomes of an incident the self-healer is asked about. -/
def enrichedWith (incident : IncidentPayload) : Option SelfHealerOutput → IncidentPayload
  | none => incident
  | some output =>
      { IncidentPayload.fromSelfHealer output incident.source with
        incident_id := incident.incident_id
        timestamp := incident.timestamp
        attributes := incident.attributes }

theorem enrichIncident_of_asked (h : Asked incident) :
    client.enrichIncident incident =
      (client.analyzeLogLine incident.evidence).map (enrichedWith incident) := by
  obtain ⟨hself, hplan, hevidence⟩ := h
  unfold SelfHealerClient.enrichIncident
  rw [if_neg (by simp [hself, hplan]), if_neg hevidence]
  cases client.analyzeLogLine incident.evidence with
  | error e => rfl
  | ok found => cases found <;> rfl

theorem keepsIdentity_enrichedWith_iff (found : Option SelfHealerOutput) :
    KeepsIdentity incident (enrichedWith incident found) ↔
      ∀ output, found = some output → Names incident output := by
  cases found with
  | none => exact iff_of_true (.refl incident) (fun _ h => by cases h)
  | some output =>
      constructor
      · rintro ⟨-, -, -, htype, hjobId, hjobType⟩ output' houtput
        obtain rfl := Option.some.inj houtput
        exact ⟨htype, fun id h => orNone_eq_some_iff.mp (hjobId id h),
          fun type h => orNone_eq_some_iff.mp (hjobType type h)⟩
      · intro h
        obtain ⟨htype, hjobId, hjobType⟩ := h output rfl
        exact ⟨rfl, rfl, rfl, htype, fun id h => orNone_eq_some_iff.mpr (hjobId id h),
          fun type h => orNone_eq_some_iff.mpr (hjobType type h)⟩

/-- Enrichment keeps the identity of an incident exactly when the self-healer is not asked,
or it can be asked and names the incident in the document it prints first, if any. -/
theorem keeps_identity_iff (incident : IncidentPayload) :
    (∃ enriched, client.enrichIncident incident = .ok enriched ∧
        KeepsIdentity incident enriched) ↔
      (Asked incident → client.available = true →
        ∃ input, SelfHealerClient.encode (SelfHealerClient.endLine incident.evidence) = .ok input ∧
          ∀ output, JobQueue.SelfHealerClient.parseStdout client.model_validate
              (client.binary input) = some output →
            Names incident output) := by
  by_cases hasked : Asked incident
  · rw [enrichIncident_of_asked client hasked, SelfHealerClient.analyzeLogLine]
    cases client.available with
    | false => simp [Except.map, enrichedWith, KeepsIdentity.refl]
    | true =>
        cases SelfHealerClient.encode (SelfHealerClient.endLine incident.evidence) with
        | error e => simp [hasked, Except.map]
        | ok input => simp [hasked, Except.map, keepsIdentity_enrichedWith_iff]
  · rw [enrichIncident_of_not_asked client hasked]
    exact iff_of_true ⟨incident, rfl, .refl incident⟩ fun h => absurd h hasked

end Client

/-! ## The self-healer of the repository -/

/-- The client with the binary that is built from `self-healer/`. -/
def repositoryClient : SelfHealerClient where
  available := true
  binary := SelfHealer.main
  model_validate := SelfHealerOutput.read

theorem encode_codes (text : Text) : SelfHealerClient.encode (codes text) = .ok text := by
  have hvalid : (codes text).all (fun n => decide n.isValidChar) = true := by
    rw [List.all_eq_true]
    intro n hn
    obtain ⟨c, -, rfl⟩ := List.mem_map.mp hn
    exact decide_eq_true c.valid
  rw [SelfHealerClient.encode, if_pos hvalid, codes, List.map_map]
  exact congrArg Except.ok ((List.map_congr_left fun c _ => Char.ofNat_toNat c).trans
    (List.map_id text))

theorem endLine_codes {text : Text} (h : '\n' ∉ text) :
    SelfHealerClient.endLine (codes text) = codes (text ++ ['\n']) := by
  have hunended : (str "\n").isSuffixOf (codes text) = false := by
    rw [Bool.eq_false_iff, ne_eq, List.isSuffixOf_iff_suffix]
    intro hsuffix
    obtain ⟨c, hc, hcode⟩ := List.mem_map.mp (hsuffix.mem (List.mem_singleton_self _))
    obtain rfl : c = '\n' := Char.toNat_inj.mp hcode
    exact h hc
  rw [SelfHealerClient.endLine, hunended, if_neg Bool.false_ne_true, codes, codes,
    List.map_append]
  rfl

/-- One line of evidence comes back as what the chain reports of it. -/
theorem analyzeLogLine_codes {text : Text} (hline : '\n' ∉ text)
    (hcarried : text.all SelfHealer.carried = true) :
    repositoryClient.analyzeLogLine (codes text) =
      .ok ((SelfHealer.DetectorFactory.createDefaultChain text).map fun incident =>
        SelfHealer.written incident
          (SelfHealer.StrategyFactory.createDefaultPlanner.plan incident)) := by
  have hinput : text ++ ['\n'] = SelfHealer.feed [text] := by simp [SelfHealer.feed]
  unfold SelfHealerClient.analyzeLogLine
  rw [endLine_codes hline, encode_codes, hinput]
  refine congrArg Except.ok ?_
  show JobQueue.SelfHealerClient.parseStdout SelfHealerOutput.read
    (SelfHealer.main (SelfHealer.feed [text])) = _
  rw [JobQueue.SelfHealerClient.parseStdout_eq_head?,
    SelfHealer.parseAll_main (by simpa using hline) SelfHealerOutput.read_validates]
  rw [List.filterMap_cons, if_pos hcarried]
  cases SelfHealer.DetectorFactory.createDefaultChain text <;> rfl

/-- The evidence that the consumer publishes when it defers a job. -/
def deferralEvidence : Text :=
  "Rate limit hit, job deferred to retry".toList

/-- The detectors find the type in it, and no job. -/
theorem enrichIncident_deferral {incident : IncidentPayload} (hasked : Asked incident)
    (hevidence : incident.evidence = codes deferralEvidence) :
    ∃ enriched, repositoryClient.enrichIncident incident = .ok enriched ∧
      enriched.type = str "RATE_LIMITED_JOB" ∧ enriched.job_id = none ∧
      enriched.job_type = none := by
  have hfound := analyzeLogLine_codes (show '\n' ∉ deferralEvidence by decide +kernel)
    (by decide +kernel)
  have hdetected : (SelfHealer.DetectorFactory.createDefaultChain deferralEvidence).map
      (fun detected => (detected.type, detected.jobId, detected.jobType)) =
        some (.rateLimitedJob, [], []) := by
    decide +kernel
  obtain ⟨detected, hdetects, hnames⟩ := Option.map_eq_some_iff.mp hdetected
  obtain ⟨htype, hjob⟩ := Prod.mk.inj hnames
  obtain ⟨hjobId, hjobType⟩ := Prod.mk.inj hjob
  rw [← hevidence, hdetects] at hfound
  have henriched := enrichIncident_of_asked repositoryClient hasked
  rw [hfound] at henriched
  refine ⟨_, henriched, ?_, ?_, ?_⟩
  · show codes detected.type.toString = _
    rw [htype]
    rfl
  · show orNone (codes detected.jobId) = none
    rw [hjobId]
    rfl
  · show orNone (codes detected.jobType) = none
    rw [hjobType]
    rfl

/-- The payload of the incident that the consumer publishes when it defers job 7. -/
def deferredJob : IncidentPayload where
  incident_id := some (str "i-1")
  type := str "RATE_LIMITED_JOB"
  severity := str "MEDIUM"
  title := str "Rate limit exceeded"
  job_id := some (str "7")
  job_type := some (str "API")
  evidence := codes deferralEvidence
  source := str "job-queue-app"
  timestamp := some 0
  attributes := [(str "retryDelayMs", str "2000")]

/-- The type is found again, the job is not. -/
theorem deferred_job_forgotten :
    ∃ enriched, repositoryClient.enrichIncident deferredJob = .ok enriched ∧
      enriched.job_id = none ∧ ¬ KeepsIdentity deferredJob enriched := by
  obtain ⟨enriched, henriched, -, hjobId, -⟩ := enrichIncident_deferral
    (show Asked deferredJob from ⟨rfl, rfl, List.cons_ne_nil _ _⟩) rfl
  refine ⟨enriched, henriched, hjobId, fun h => ?_⟩
  have hkept := h.job_id (str "7") rfl
  rw [hjobId] at hkept
  exact Option.some_ne_none _ hkept.symm

end AiAgent

end JobQueue
