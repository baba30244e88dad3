import JobQueue.Lib.Decimal
import JobQueue.Model.KafkaConsumerService
import JobQueue.Model.SelfHealer

/-!
# The messages the services log

The self-healer knows the services only by what they log.  Each message with a template of
its own is meant for one detector; the chain asks the detectors one after the other whether
their token occurs anywhere in the line.  Two templates end with the text of an exception,
and only there can a line hold the token of a detector that is asked too early.
-/

namespace JobQueue

namespace SelfHealer

open Decimal

/-! ## Templates -/

/-- An id the database has generated. -/
abbrev JobId := { id : Int // 0 < id }

/-- The job type an executor is registered for. -/
def typeName : Executor → String
  | .email => "EMAIL"
  | .api => "API"
  | .log => "LOG"

/-- The messages of `WatcherService`, `KafkaConsumerService` and
`RedisDispatcherService` that report a problem, with their arguments. -/
inductive LogMessage where
  | watcherGap
  | rateLimitHit (type : Executor) (jobId : JobId)
  | circuitOpen (type : Executor) (jobId : JobId)
  | jobFailed (jobId : JobId) (reason : Text)
  | notFound (jobId : JobId)
  | invalidState (jobId : JobId) (status : JobStatus)
  | dispatchError (jobId : JobId) (reason : Text)

namespace LogMessage

def number (jobId : JobId) : Text := (longToString jobId.1).toList

/-- The line with the arguments in the places of the template. -/
def render : LogMessage → Text
  | watcherGap => "Watcher gap detected, triggering recovery".toList
  | rateLimitHit type jobId =>
      "Rate limit hit for type=".toList ++ (typeName type).toList ++
        ", scheduling retry jobId=".toList ++ number jobId
  | circuitOpen type jobId =>
      "Circuit OPEN for type=".toList ++ (typeName type).toList ++
        ", delaying jobId=".toList ++ number jobId
  | jobFailed jobId reason =>
      "Job failed jobId=".toList ++ number jobId ++ " reason=".toList ++ reason
  | notFound jobId =>
      "Job ".toList ++ number jobId ++ " not found in DB, removing from Redis".toList
  | invalidState jobId status =>
      "Skipping job ".toList ++ number jobId ++ " due to invalid state: ".toList ++
        status.name.toList
  | dispatchError jobId reason =>
      "Error dispatching job ".toList ++ number jobId ++ ": ".toList ++ reason

/-- The incident a message stands for. -/
def type : LogMessage → IncidentType
  | watcherGap => .watcherGap
  | rateLimitHit _ _ => .rateLimitedJob
  | circuitOpen _ _ => .circuitOpen
  | jobFailed _ _ => .jobExecutionFailed
  | notFound _ => .redisDispatchAnomaly
  | invalidState _ _ => .redisDispatchAnomaly
  | dispatchError _ _ => .redisDispatchAnomaly

def jobId? : LogMessage → Option JobId
  | watcherGap => none
  | rateLimitHit _ jobId => some jobId
  | circuitOpen _ jobId => some jobId
  | jobFailed jobId _ => some jobId
  | notFound jobId => some jobId
  | invalidState jobId _ => some jobId
  | dispatchError jobId _ => some jobId

def jobType? : LogMessage → Option Executor
  | rateLimitHit type _ => some type
  | circuitOpen type _ => some type
  | _ => none

/-- The free text at the end of the message, which comes from an exception. -/
def freeText : LogMessage → Text
  | jobFailed _ reason => reason
  | dispatchError _ reason => reason
  | _ => []

/-- The tokens of the detectors that are asked before the one for the message. -/
def earlierTokens : LogMessage → List String
  | jobFailed _ _ =>
      ["Watcher gap detected", "Rate limit hit", "Rate limit exceeded", "Circuit OPEN"]
  | dispatchError _ _ =>
      ["Watcher gap detected", "Rate limit hit", "Rate limit exceeded", "Circuit OPEN",
        "Job failed jobId="]
  | _ => []

/-- The chain reports the message as what it is, for the job it names. -/
def Classified (m : LogMessage) : Prop :=
  ∃ incident, DetectorFactory.createDefaultChain m.render = some incident ∧
    incident.type = m.type ∧
    (∀ jobId ∈ m.jobId?, incident.jobId = number jobId) ∧
    ∀ type ∈ m.jobType?, incident.jobType = (typeName type).toList

end LogMessage

/-! ## What the chain extracts -/

section Chain

variable {line : Text} {incident : Incident}

/-- The type of a line in which the tokens `found` occur: that of the first detector with
a token among them. -/
def typeByTokens (found : String → Bool) : Option IncidentType :=
  if found "Watcher gap detected" then some .watcherGap
  else if found "Rate limit hit" || found "Rate limit exceeded" then some .rateLimitedJob
  else if found "Circuit OPEN" then some .circuitOpen
  else if found "Job failed jobId=" then some .jobExecutionFailed
  else if found "not found in DB, removing from Redis" ||
      found "Skipping job" && found "invalid state" || found "Error dispatching job" then
    some .redisDispatchAnomaly
  else none

theorem type_createDefaultChain (line : Text) :
    (DetectorFactory.createDefaultChain line).map (fun incident => incident.type) =
      typeByTokens (contains line) := by
  simp only [DetectorFactory.createDefaultChain, WatcherGapDetector.detect, detectNext,
    RateLimitDetector.detect, CircuitOpenDetector.detect, JobFailureDetector.detect,
    RedisDispatchDetector.detect, ← Bool.not_or, Bool.not_eq_true', apply_ite (Option.map _)]
  simp only [← Bool.not_eq_true, ite_not]
  rfl

/-- The id a detector of the type extracts. -/
def jobIdOf (type : IncidentType) (line : Text) : Text :=
  match type with
  | .rateLimitedJob | .circuitOpen | .jobExecutionFailed => capture line jobIdPattern 1
  | .redisDispatchAnomaly =>
      let number := captureFirst line jobNumberPattern
      if number.isEmpty then capture line jobIdPattern 1 else number
  | .watcherGap | .unknown => []

/-- The job type a detector of the type extracts. -/
def jobTypeOf (type : IncidentType) (line : Text) : Text :=
  match type with
  | .rateLimitedJob | .circuitOpen => capture line jobTypePattern 1
  | _ => []

theorem jobId_of_createDefaultChain
    (h : DetectorFactory.createDefaultChain line = some incident) :
    incident.jobId = jobIdOf incident.type line ∧
      incident.jobType = jobTypeOf incident.type line := by
  simp only [DetectorFactory.createDefaultChain, WatcherGapDetector.detect, detectNext,
    RateLimitDetector.detect, CircuitOpenDetector.detect, JobFailureDetector.detect,
    RedisDispatchDetector.detect] at h
  split_ifs at h with hgap hlimit hcircuit hfailure hredis hnumber <;>
    obtain rfl := Option.some.inj h
  · exact ⟨(if_pos hnumber).symm, rfl⟩
  · exact ⟨(if_neg hnumber).symm, rfl⟩
  all_goals exact ⟨rfl, rfl⟩

end Chain

/-! ## Ids and types in a line -/

namespace LogMessage

variable (jobId : JobId) {before rest : Text}

theorem number_ne_nil : number jobId ≠ [] := (longToString_digits jobId.2.le).1

theorem isDigit_number : ∀ c ∈ number jobId, c.isDigit = true :=
  (longToString_digits jobId.2.le).2

/-- No token holds a digit, so the id in a message does not matter for it. -/
theorem contains_number {token : String} (hne : token.toList ≠ [])
    (htoken : token.toList.all (fun c => !c.isDigit) = true) (front back : Text) :
    contains (front ++ number jobId ++ back) token =
      (contains front token || contains back token) := by
  have hother : ∀ c ∈ number jobId, c ∉ token.toList := by
    intro c hc hmem
    have hdigit := List.all_eq_true.mp htoken c hmem
    rw [isDigit_number jobId c hc] at hdigit
    cases hdigit
  obtain ⟨d, digits, hnumber⟩ := List.exists_cons_of_ne_nil (number_ne_nil jobId)
  rw [hnumber] at hother ⊢
  have hrest : Text.contains (digits ++ back) token.toList = Text.contains back token.toList :=
    Text.contains_skip hne (fun c hc => hother c (List.mem_cons_of_mem d hc)) back
  have hcut := Text.contains_cut (hother d List.mem_cons_self) front (digits ++ back)
  rw [List.append_assoc, List.cons_append, contains, hcut, hrest]
  rfl

/-- `jobId=` and the number after it. -/
theorem capture_jobId
    (hbefore : Text.contains (before ++ "jobId".toList) "jobId=".toList = false)
    (hrest : ∀ c ∈ rest.head?, c.isDigit = false) :
    capture (before ++ ("jobId=".toList ++ (number jobId ++ rest))) jobIdPattern 1 =
      number jobId := by
  have hsearch : jobIdPattern.search (before ++ ("jobId=".toList ++ (number jobId ++ rest))) =
      some [(1, number jobId)] := by
    refine Regex.search_append ?_ ?_
    · intro w hw
      rw [List.mem_singleton.mp hw]
      exact of_decide_eq_false hbefore
    · rw [jobIdPattern, Regex.run, Regex.run_word]
      exact Regex.run_group_many1 (number_ne_nil jobId) (isDigit_number jobId) hrest rfl
  rw [capture, hsearch]
  rfl

/-- `type=` and the capital letters after it. -/
theorem capture_jobType (type : Executor)
    (hbefore : Text.contains (before ++ "type".toList) "type=".toList = false)
    (hrest : ∀ c ∈ rest.head?, c.isUpper = false) :
    capture (before ++ ("type=".toList ++ ((typeName type).toList ++ rest))) jobTypePattern 1 =
      (typeName type).toList := by
  have hname : (typeName type).toList ≠ [] ∧
      (typeName type).toList.all Char.isUpper = true := by
    cases type <;> decide
  have hsearch : jobTypePattern.search
      (before ++ ("type=".toList ++ ((typeName type).toList ++ rest))) =
      some [(1, (typeName type).toList)] := by
    refine Regex.search_append ?_ ?_
    · intro w hw
      rw [List.mem_singleton.mp hw]
      exact of_decide_eq_false hbefore
    · rw [jobTypePattern, Regex.run, Regex.run_word]
      exact Regex.run_group_many1 hname.1 (List.all_eq_true.mp hname.2) hrest rfl
  rw [capture, hsearch]
  rfl

/-- A word, a blank and the number. -/
theorem run_jobNumber (word : Text) {index : Nat}
    (hrest : ∀ c ∈ rest.head?, c.isDigit = false) :
    (Regex.seq (.word word) (.seq (.many1 isSpace) (.group index (.many1 Char.isDigit)))).run
        (word ++ ([' '] ++ (number jobId ++ rest))) [] (fun _ found => some found) =
      some [(index, number jobId)] := by
  have hdigit : ∀ c ∈ (number jobId ++ rest).head?, isSpace c = false := by
    obtain ⟨d, digits, hnumber⟩ := List.exists_cons_of_ne_nil (number_ne_nil jobId)
    have hd := isDigit_number jobId d (by rw [hnumber]; exact List.mem_cons_self)
    intro c hc
    rw [hnumber, List.cons_append, List.head?_cons, Option.mem_some_iff] at hc
    subst hc
    simp only [Char.isDigit, Bool.and_eq_true, decide_eq_true_eq, ge_iff_le,
      UInt32.le_iff_toNat_le] at hd
    have hlow : 48 ≤ d.toNat := hd.1
    have hblank : d ≠ ' ' := by rintro rfl; exact absurd hlow (by decide)
    have hcontrol : ¬ d.toNat ≤ 13 := by omega
    simp [isSpace, hblank, hcontrol]
  rw [Regex.run, Regex.run_word, Regex.run]
  refine Regex.run_many1_greedy (List.cons_ne_nil _ _) ?_ hdigit ?_
  · intro c hc
    rw [List.mem_singleton.mp hc]
    rfl
  · exact Regex.run_group_many1 (number_ne_nil jobId) (isDigit_number jobId) hrest rfl

/-- Neither `job` nor `Job` in the text. -/
def NoJob (text : Text) : Prop :=
  Text.contains text "job".toList = false ∧ Text.contains text "Job".toList = false

instance (text : Text) : Decidable (NoJob text) := inferInstanceAs (Decidable (_ ∧ _))

variable {jobId} in
/-- Either of the two groups of the pattern holds the number. -/
theorem captureFirst_of_run {text : Text} {index : Nat} (hbefore : NoJob (before ++ text.take 2))
    (hindex : index = 1 ∨ index = 2)
    (hrun : (jobNumberPattern.run text [] fun _ found => some found) =
      some [(index, number jobId)]) :
    captureFirst (before ++ text) jobNumberPattern = number jobId := by
  have hleads : ∀ w ∈ jobNumberPattern.leads, ¬ w <:+: before ++ text.take (w.length - 1) := by
    intro w hw
    rcases List.mem_pair.mp hw with rfl | rfl
    · exact of_decide_eq_false hbefore.1
    · exact of_decide_eq_false hbefore.2
  rw [captureFirst, Regex.search_append hleads hrun]
  rcases hindex with rfl | rfl <;> rfl

theorem captureFirst_job (hbefore : NoJob (before ++ "jo".toList))
    (hrest : ∀ c ∈ rest.head?, c.isDigit = false) :
    captureFirst (before ++ ("job".toList ++ ([' '] ++ (number jobId ++ rest))))
      jobNumberPattern = number jobId := by
  refine captureFirst_of_run hbefore (.inl rfl) ?_
  rw [jobNumberPattern, Regex.run, run_jobNumber jobId _ hrest, Option.some_or]

theorem captureFirst_Job (hbefore : NoJob (before ++ "Jo".toList))
    (hrest : ∀ c ∈ rest.head?, c.isDigit = false) :
    captureFirst (before ++ ("Job".toList ++ ([' '] ++ (number jobId ++ rest))))
      jobNumberPattern = number jobId := by
  have hlower : ∀ {captures : Captures} {next : Text → Captures → Option Captures},
      (Regex.seq (.word "job".toList)
        (.seq (.many1 isSpace) (.group 1 (.many1 Char.isDigit)))).run
        ("Job".toList ++ ([' '] ++ (number jobId ++ rest))) captures next = none :=
    rfl
  refine captureFirst_of_run hbefore (.inr rfl) ?_
  rw [jobNumberPattern, Regex.run, hlower, Option.none_or, run_jobNumber jobId _ hrest]

/-- The detector for a message finds the id in it. -/
theorem jobIdOf_render (m : LogMessage) :
    ∀ jobId ∈ m.jobId?, jobIdOf m.type m.render = number jobId := by
  -- messages of the dispatcher have no `jobId=` for the first pattern to find
  have hnumber : ∀ jobId line, captureFirst line jobNumberPattern = number jobId →
      jobIdOf .redisDispatchAnomaly line = number jobId := by
    intro jobId line h
    have hne : (number jobId).isEmpty = false := by simp [number_ne_nil]
    rw [jobIdOf, h, hne]
    rfl
  intro jobId hjobId
  cases m with
  | watcherGap => cases hjobId
  | rateLimitHit type id =>
      obtain rfl := Option.mem_some_iff.mp hjobId
      have hrender : (rateLimitHit type id).render =
          "Rate limit hit for type=".toList ++ (typeName type).toList ++
            ", scheduling retry ".toList ++ ("jobId=".toList ++ (number id ++ [])) := by
        unfold render
        simp
      rw [hrender]
      exact capture_jobId id (by cases type <;> decide +kernel) (by simp)
  | circuitOpen type id =>
      obtain rfl := Option.mem_some_iff.mp hjobId
      have hrender : (circuitOpen type id).render =
          "Circuit OPEN for type=".toList ++ (typeName type).toList ++
            ", delaying ".toList ++ ("jobId=".toList ++ (number id ++ [])) := by
        unfold render
        simp
      rw [hrender]
      exact capture_jobId id (by cases type <;> decide +kernel) (by simp)
  | jobFailed id reason =>
      obtain rfl := Option.mem_some_iff.mp hjobId
      have hrender : (jobFailed id reason).render =
          "Job failed ".toList ++
            ("jobId=".toList ++ (number id ++ (" reason=".toList ++ reason))) := by
        unfold render
        simp
      rw [hrender]
      exact capture_jobId id (by decide +kernel) (by simp)
  | notFound id =>
      obtain rfl := Option.mem_some_iff.mp hjobId
      refine hnumber id _ ?_
      have hrender : (notFound id).render = [] ++ ("Job".toList ++ ([' '] ++ (number id ++
          " not found in DB, removing from Redis".toList))) := by
        unfold render
        simp
      rw [hrender]
      exact captureFirst_Job id (by decide +kernel) (by simp)
  | invalidState id status =>
      obtain rfl := Option.mem_some_iff.mp hjobId
      refine hnumber id _ ?_
      have hrender : (invalidState id status).render = "Skipping ".toList ++
          ("job".toList ++ ([' '] ++ (number id ++
            (" due to invalid state: ".toList ++ status.name.toList)))) := by
        unfold render
        simp
      rw [hrender]
      exact captureFirst_job id (by decide +kernel) (by simp)
  | dispatchError id reason =>
      obtain rfl := Option.mem_some_iff.mp hjobId
      refine hnumber id _ ?_
      have hrender : (dispatchError id reason).render = "Error dispatching ".toList ++
          ("job".toList ++ ([' '] ++ (number id ++ (": ".toList ++ reason)))) := by
        unfold render
        simp
      rw [hrender]
      exact captureFirst_job id (by decide +kernel) (by simp)

/-- The detector for a message finds the job type in it. -/
theorem jobTypeOf_render (m : LogMessage) :
    ∀ type ∈ m.jobType?, jobTypeOf m.type m.render = (typeName type).toList := by
  intro type htype
  cases m with
  | rateLimitHit type' id =>
      obtain rfl := Option.mem_some_iff.mp htype
      have hrender : (rateLimitHit type' id).render =
          "Rate limit hit for ".toList ++ ("type=".toList ++ ((typeName type').toList ++
            (", scheduling retry jobId=".toList ++ number id))) := by
        unfold render
        simp
      rw [hrender]
      exact capture_jobType type' (by decide +kernel) (by simp)
  | circuitOpen type' id =>
      obtain rfl := Option.mem_some_iff.mp htype
      have hrender : (circuitOpen type' id).render =
          "Circuit OPEN for ".toList ++ ("type=".toList ++ ((typeName type').toList ++
            (", delaying jobId=".toList ++ number id))) := by
        unfold render
        simp
      rw [hrender]
      exact capture_jobType type' (by decide +kernel) (by simp)
  | _ => cases htype

/-- With the right type, the incident names the right job. -/
theorem classified_iff_type (m : LogMessage) :
    m.Classified ↔ typeByTokens (contains m.render) = some m.type := by
  rw [← type_createDefaultChain]
  constructor
  · rintro ⟨incident, hdetect, htype, -, -⟩
    rw [hdetect, Option.map_some, htype]
  · intro h
    obtain ⟨incident, hdetect, htype⟩ := Option.map_eq_some_iff.mp h
    obtain ⟨hjobId, hjobType⟩ := jobId_of_createDefaultChain hdetect
    rw [htype] at hjobId hjobType
    exact ⟨incident, hdetect, htype, fun jobId h => hjobId.trans (jobIdOf_render m jobId h),
      fun type h => hjobType.trans (jobTypeOf_render m type h)⟩

/-! ## Tokens in a line -/

/-- The tokens the chain looks for. -/
def tokens : List String :=
  ["Watcher gap detected", "Rate limit hit", "Rate limit exceeded", "Circuit OPEN",
    "Job failed jobId=", "not found in DB, removing from Redis", "Skipping job",
    "invalid state", "Error dispatching job"]

/-- For a type only the tokens of the chain matter. -/
theorem typeByTokens_congr {found found' : String → Bool}
    (h : ∀ token ∈ tokens, found token = found' token) :
    typeByTokens found = typeByTokens found' := by
  simp only [tokens, List.forall_mem_cons] at h
  obtain ⟨h₁, h₂, h₃, h₄, h₅, h₆, h₇, h₈, h₉, -⟩ := h
  simp only [typeByTokens, h₁, h₂, h₃, h₄, h₅, h₆, h₇, h₈, h₉]

theorem contains_number_of_mem {token : String} (htoken : token ∈ tokens) (front back : Text) :
    contains (front ++ number jobId ++ back) token =
      (contains front token || contains back token) := by
  have htokens : tokens.all (fun token =>
      !token.toList.isEmpty && token.toList.all fun c => !c.isDigit) = true := by decide +kernel
  have h := List.all_eq_true.mp htokens token htoken
  rw [Bool.and_eq_true] at h
  exact contains_number jobId (by simpa using h.1) h.2 front back

/-- The type of a line with an id in it is that of the texts around the id. -/
theorem typeByTokens_number (front back : Text) :
    typeByTokens (contains (front ++ number jobId ++ back)) =
      typeByTokens fun token => contains front token || contains back token :=
  typeByTokens_congr fun _ htoken => contains_number_of_mem jobId htoken front back

/-- The line of a failed job has the token for it, and the tokens of the reason. -/
theorem typeByTokens_jobFailed (reason : Text) :
    typeByTokens (contains (jobFailed jobId reason).render) =
      typeByTokens fun token => token == "Job failed jobId=" || contains reason token := by
  have hrender : (jobFailed jobId reason).render =
      "Job failed jobId=".toList ++ number jobId ++ (" reason".toList ++ '=' :: reason) := by
    unfold render
    simp
  rw [hrender, typeByTokens_number]
  refine typeByTokens_congr fun token htoken => ?_
  have htokens : tokens.all (fun token =>
      contains "Job failed jobId=".toList token == (token == "Job failed jobId=") &&
        (token == "Job failed jobId=" || '=' ∉ token.toList) &&
        !contains " reason".toList token) = true := by decide +kernel
  have h := List.all_eq_true.mp htokens token htoken
  simp only [Bool.and_eq_true, beq_iff_eq, Bool.or_eq_true, decide_eq_true_eq,
    Bool.not_eq_true'] at h
  obtain ⟨⟨hfront, hequals⟩, hreason⟩ := h
  rw [hfront]
  rcases hequals with rfl | hequals
  · rfl
  · rw [contains, Text.contains_cut hequals, ← contains, ← contains, hreason, Bool.false_or]

/-- The line of a failed dispatch has the token for it, and the tokens of the reason. -/
theorem typeByTokens_dispatchError (reason : Text) :
    typeByTokens (contains (dispatchError jobId reason).render) =
      typeByTokens fun token => token == "Error dispatching job" || contains reason token := by
  have hrender : (dispatchError jobId reason).render =
      "Error dispatching job ".toList ++ number jobId ++ ([] ++ ':' :: ([] ++ ' ' :: reason)) := by
    unfold render
    simp
  rw [hrender, typeByTokens_number]
  refine typeByTokens_congr fun token htoken => ?_
  have htokens : tokens.all (fun token =>
      contains "Error dispatching job ".toList token == (token == "Error dispatching job") &&
        ':' ∉ token.toList && token.toList.head? != some ' ' && !contains [] token) = true := by
    decide +kernel
  have h := List.all_eq_true.mp htokens token htoken
  simp only [Bool.and_eq_true, beq_iff_eq, decide_eq_true_eq, bne_iff_ne, ne_eq,
    Bool.not_eq_true'] at h
  obtain ⟨⟨⟨hfront, hcolon⟩, hblank⟩, hnil⟩ := h
  have hne : token.toList ≠ [] := fun h => by simp [contains, Text.contains, h] at hnil
  have hskip : Text.contains ([] ++ ' ' :: reason) token.toList =
      Text.contains reason token.toList := by
    rw [Bool.eq_iff_iff, Text.contains_iff, Text.contains_iff, List.nil_append,
      List.infix_cons_iff, or_iff_right]
    intro hstart
    obtain ⟨c, word, hword⟩ := List.exists_cons_of_ne_nil hne
    rw [hword] at hstart hblank
    exact hblank (congrArg some (List.cons_prefix_cons.mp hstart).1)
  rw [hfront, contains, Text.contains_cut hcolon, hskip, ← contains, ← contains, hnil,
    Bool.false_or]

/-- The earlier tokens decide about a line that has the token of a failed job. -/
theorem typeByTokens_jobFailed_iff (found : String → Bool) :
    (typeByTokens fun token => token == "Job failed jobId=" || found token) =
        some .jobExecutionFailed ↔
      found "Watcher gap detected" = false ∧ found "Rate limit hit" = false ∧
        found "Rate limit exceeded" = false ∧ found "Circuit OPEN" = false := by
  cases hgap : found "Watcher gap detected" <;> cases hhit : found "Rate limit hit" <;>
    cases hexceeded : found "Rate limit exceeded" <;> cases hopen : found "Circuit OPEN" <;>
    simp [typeByTokens, hgap, hhit, hexceeded, hopen]

theorem typeByTokens_dispatchError_iff (found : String → Bool) :
    (typeByTokens fun token => token == "Error dispatching job" || found token) =
        some .redisDispatchAnomaly ↔
      found "Watcher gap detected" = false ∧ found "Rate limit hit" = false ∧
        found "Rate limit exceeded" = false ∧ found "Circuit OPEN" = false ∧
        found "Job failed jobId=" = false := by
  cases hgap : found "Watcher gap detected" <;> cases hhit : found "Rate limit hit" <;>
    cases hexceeded : found "Rate limit exceeded" <;> cases hopen : found "Circuit OPEN" <;>
    cases hfailed : found "Job failed jobId=" <;>
    simp [typeByTokens, hgap, hhit, hexceeded, hopen, hfailed]

/-- The chain reports a message as what it is exactly when the text of the exception holds
no token of a detector that is asked before. -/
theorem classified_iff (m : LogMessage) :
    m.Classified ↔ ∀ token ∈ m.earlierTokens, contains m.freeText token = false := by
  rw [classified_iff_type]
  cases m with
  | watcherGap => exact iff_of_true (by decide +kernel) (by simp [earlierTokens])
  | rateLimitHit type jobId =>
      have hrender : (rateLimitHit type jobId).render = "Rate limit hit for type=".toList ++
          (typeName type).toList ++ ", scheduling retry jobId=".toList ++ number jobId ++ [] :=
        (List.append_nil _).symm
      rw [hrender, typeByTokens_number, LogMessage.type]
      exact iff_of_true (by cases type <;> decide +kernel) (by simp [earlierTokens])
  | circuitOpen type jobId =>
      have hrender : (circuitOpen type jobId).render = "Circuit OPEN for type=".toList ++
          (typeName type).toList ++ ", delaying jobId=".toList ++ number jobId ++ [] :=
        (List.append_nil _).symm
      rw [hrender, typeByTokens_number, LogMessage.type]
      exact iff_of_true (by cases type <;> decide +kernel) (by simp [earlierTokens])
  | notFound jobId =>
      have hrender : (notFound jobId).render = "Job ".toList ++ number jobId ++
          " not found in DB, removing from Redis".toList := rfl
      rw [hrender, typeByTokens_number, LogMessage.type]
      -- no free text: the words of the template decide
      exact iff_of_true (by decide +kernel) (by simp [earlierTokens])
  | invalidState jobId status =>
      have hrender : (invalidState jobId status).render = "Skipping job ".toList ++
          number jobId ++ (" due to invalid state: ".toList ++ status.name.toList) :=
        List.append_assoc _ _ _
      rw [hrender, typeByTokens_number, LogMessage.type]
      exact iff_of_true (by cases status <;> decide +kernel) (by simp [earlierTokens])
  | jobFailed jobId reason =>
      -- the reason is free text, and each earlier token may occur in it
      rw [typeByTokens_jobFailed]
      refine (typeByTokens_jobFailed_iff (contains reason)).trans ?_
      simp [earlierTokens, freeText]
  | dispatchError jobId reason =>
      rw [typeByTokens_dispatchError]
      refine (typeByTokens_dispatchError_iff (contains reason)).trans ?_
      simp [earlierTokens, freeText]

/-- The API of an executor answers that its own rate limit is exceeded. -/
theorem failure_taken_for_rateLimit :
    let m := jobFailed ⟨7, by decide⟩ "429 Too Many Requests: Rate limit exceeded".toList
    (DetectorFactory.createDefaultChain m.render).map (fun incident => incident.type) =
      some .rateLimitedJob ∧ ¬ m.Classified := by
  intro m
  have htype : typeByTokens (contains m.render) = some .rateLimitedJob := by decide +kernel
  refine ⟨(type_createDefaultChain _).trans htype, fun h => ?_⟩
  rw [classified_iff_type, htype] at h
  exact absurd (Option.some.inj h) (by decide)

end LogMessage

end SelfHealer

end JobQueue
