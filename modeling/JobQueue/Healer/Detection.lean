import JobQueue.Lib.JsonText
import JobQueue.Model.SelfHealer

/-!
# What the detector chain reports

Whichever detector of the chain reports a line, the evidence is the line itself and every
other text of the incident is made of characters that need no escape: a constant title, a
job id of digits and a job type of capital letters.  The texts of the plans are such
constants too.
-/

namespace JobQueue

namespace SelfHealer

open Json

/-- A printable ASCII character that is no quote and no backslash. -/
def tidy (c : Char) : Bool :=
  plain c && c.toNat < 0x7F

structure Reported (line : Text) (incident : Incident) : Prop where
  evidence : incident.evidence = line
  title : incident.title.all tidy = true
  jobId : incident.jobId.all tidy = true
  jobType : incident.jobType.all tidy = true

/-- Every incident of the detector is reported so. -/
def Reports (detector : LogDetector) : Prop :=
  ∀ line incident, detector line = some incident → Reported line incident

theorem tidy_of_between {c : Char} (hlow : 0x30 ≤ c.toNat) (hhigh : c.toNat ≤ 0x5A) :
    tidy c = true := by
  have hquote : c ≠ '"' := by rintro rfl; exact absurd hlow (by decide)
  have hbackslash : c ≠ '\\' := by rintro rfl; exact absurd hhigh (by decide)
  have hcontrol : 0x20 ≤ c.toNat := by omega
  have hascii : c.toNat < 0x7F := by omega
  simp [tidy, plain, hquote, hbackslash, hcontrol, hascii]

theorem tidy_of_isDigit {c : Char} (hc : c.isDigit = true) : tidy c = true := by
  simp only [Char.isDigit, Bool.and_eq_true, decide_eq_true_eq, ge_iff_le,
    UInt32.le_iff_toNat_le] at hc
  refine tidy_of_between hc.1 (hc.2.trans ?_)
  decide

theorem tidy_of_isUpper {c : Char} (hc : c.isUpper = true) : tidy c = true := by
  delta Char.isUpper at hc
  simp only [decide_eq_true_eq, ge_iff_le, UInt32.le_iff_toNat_le] at hc
  refine tidy_of_between (le_trans ?_ hc.1) hc.2
  decide

/-- A literal is tidy when its characters are. -/
theorem tidy_toList {chars : List Char} (h : chars.all tidy = true) :
    (String.ofList chars).toList.all tidy = true := by
  rw [String.toList_ofList]
  exact h

/-! ## Captures -/

theorem lookup_sound {r : Regex} {captures : Captures} (h : r.Sound captures) {index : Nat}
    {w : Text} (hw : captures.lookup index = some w) :
    ∃ body, (index, body) ∈ r.groups ∧ body.Matches w := by
  obtain ⟨before, after, hsplit, -⟩ := List.lookup_eq_some_iff.mp hw
  exact h (index, w) (by rw [hsplit]; simp)

/-- When every group is a repeated class of tidy characters, so are the captures. -/
def TidyGroups (r : Regex) : Prop :=
  ∀ group ∈ r.groups, ∃ p, group.2 = .many1 p ∧ ∀ c, p c = true → tidy c = true

theorem TidyGroups.lookup {r : Regex} (h : TidyGroups r) {captures : Captures}
    (hsound : r.Sound captures) {index : Nat} {w : Text}
    (hw : captures.lookup index = some w) : w.all tidy = true := by
  obtain ⟨body, hbody, hmatch⟩ := lookup_sound hsound hw
  obtain ⟨p, hp, htidy⟩ := h _ hbody
  dsimp only at hp
  subst hp
  cases hmatch with
  | many1 _ hall => exact List.all_eq_true.mpr fun c hc => htidy c (hall c hc)

theorem TidyGroups.capture {r : Regex} (h : TidyGroups r) (line : Text) (index : Nat) :
    (capture line r index).all tidy = true := by
  unfold SelfHealer.capture
  split
  · rename_i found hsearch
    cases hw : found.lookup index with
    | none => rfl
    | some w => exact h.lookup (Regex.search_sound hsearch) hw
  · rfl

theorem TidyGroups.captureFirst {r : Regex} (h : TidyGroups r) (line : Text) :
    (captureFirst line r).all tidy = true := by
  unfold SelfHealer.captureFirst
  split
  · rename_i found hsearch
    generalize hfirst : (List.range' 1 r.groups.length).findSome? _ = first
    cases first with
    | none => rfl
    | some w =>
        obtain ⟨index, -, hw⟩ := List.exists_of_findSome?_eq_some hfirst
        exact h.lookup (Regex.search_sound hsearch) hw
  · rfl

theorem tidyGroups_jobId : TidyGroups jobIdPattern := by
  intro group hgroup
  simp only [jobIdPattern, Regex.groups, List.nil_append, List.mem_singleton] at hgroup
  exact ⟨Char.isDigit, by rw [hgroup], fun _ => tidy_of_isDigit⟩

theorem tidyGroups_jobType : TidyGroups jobTypePattern := by
  intro group hgroup
  simp only [jobTypePattern, Regex.groups, List.nil_append, List.mem_singleton] at hgroup
  exact ⟨Char.isUpper, by rw [hgroup], fun _ => tidy_of_isUpper⟩

theorem tidyGroups_jobNumber : TidyGroups jobNumberPattern := by
  intro group hgroup
  simp only [jobNumberPattern, Regex.groups, List.nil_append, List.singleton_append,
    List.mem_cons, List.not_mem_nil, or_false] at hgroup
  rcases hgroup with rfl | rfl
  · exact ⟨Char.isDigit, rfl, fun _ => tidy_of_isDigit⟩
  · exact ⟨Char.isDigit, rfl, fun _ => tidy_of_isDigit⟩

/-! ## The chain -/

theorem baseIncident_reported (type : IncidentType) (severity : Severity) {title : String}
    (htitle : title.toList.all tidy = true) (line : Text) :
    Reported line (baseIncident type severity title line) :=
  ⟨rfl, htitle, rfl, rfl⟩

theorem detectNext_reports {next : Option LogDetector} (h : ∀ d ∈ next, Reports d) :
    Reports (detectNext next) := by
  intro line incident hdetect
  cases next with
  | none => contradiction
  | some d => exact h d rfl line incident hdetect

section Detectors

variable {next : Option LogDetector} (h : ∀ d ∈ next, Reports d)

include h

theorem watcherGap_reports : Reports (WatcherGapDetector.detect next) := by
  intro line incident hdetect
  unfold WatcherGapDetector.detect at hdetect
  split at hdetect
  · exact detectNext_reports h line incident hdetect
  · obtain rfl := Option.some.inj hdetect
    exact baseIncident_reported _ _ (tidy_toList (by decide +kernel)) line

theorem rateLimit_reports : Reports (RateLimitDetector.detect next) := by
  intro line incident hdetect
  unfold RateLimitDetector.detect at hdetect
  split at hdetect
  · exact detectNext_reports h line incident hdetect
  · obtain rfl := Option.some.inj hdetect
    exact { baseIncident_reported .rateLimitedJob .medium
        (tidy_toList (by decide +kernel)) line with
      jobId := tidyGroups_jobId.capture line 1
      jobType := tidyGroups_jobType.capture line 1 }

theorem circuitOpen_reports : Reports (CircuitOpenDetector.detect next) := by
  intro line incident hdetect
  unfold CircuitOpenDetector.detect at hdetect
  split at hdetect
  · exact detectNext_reports h line incident hdetect
  · obtain rfl := Option.some.inj hdetect
    exact { baseIncident_reported .circuitOpen .critical
        (tidy_toList (by decide +kernel)) line with
      jobId := tidyGroups_jobId.capture line 1
      jobType := tidyGroups_jobType.capture line 1 }

theorem jobFailure_reports : Reports (JobFailureDetector.detect next) := by
  intro line incident hdetect
  unfold JobFailureDetector.detect at hdetect
  split at hdetect
  · exact detectNext_reports h line incident hdetect
  · obtain rfl := Option.some.inj hdetect
    exact { baseIncident_reported .jobExecutionFailed .high
        (tidy_toList (by decide +kernel)) line with
      jobId := tidyGroups_jobId.capture line 1 }

theorem redisDispatch_reports : Reports (RedisDispatchDetector.detect next) := by
  intro line incident hdetect
  unfold RedisDispatchDetector.detect at hdetect
  dsimp only at hdetect
  split at hdetect
  · exact detectNext_reports h line incident hdetect
  · obtain rfl := Option.some.inj hdetect
    refine { baseIncident_reported .redisDispatchAnomaly .high
        (tidy_toList (by decide +kernel)) line with
      jobId := ?_ }
    dsimp only
    split
    · exact tidyGroups_jobId.capture line 1
    · exact tidyGroups_jobNumber.captureFirst line

end Detectors

theorem createDefaultChain_reports : Reports DetectorFactory.createDefaultChain := by
  have hsome : ∀ detector : LogDetector, Reports detector → ∀ d ∈ some detector, Reports d :=
    fun _ hdetector _ heq => Option.some.inj heq ▸ hdetector
  have hredis := @redisDispatch_reports none (by simp)
  have hfailure := jobFailure_reports (hsome _ hredis)
  have hcircuit := circuitOpen_reports (hsome _ hfailure)
  have hlimit := rateLimit_reports (hsome _ hcircuit)
  exact watcherGap_reports (hsome _ hlimit)

/-! ## Plans -/

structure TidyPlan (plan : HealingPlan) : Prop where
  strategyName : plan.strategyName.all tidy = true
  action : plan.action.all tidy = true
  steps : ∀ step ∈ plan.steps, step.all tidy = true
  verificationChecks : ∀ check ∈ plan.verificationChecks, check.all tidy = true

theorem texts_nil_tidy : ∀ text ∈ texts [], text.all tidy = true := by
  simp [texts]

theorem texts_cons_tidy {chars : List Char} {strings : List String}
    (hchars : chars.all tidy = true) (hstrings : ∀ text ∈ texts strings, text.all tidy = true) :
    ∀ text ∈ texts (String.ofList chars :: strings), text.all tidy = true :=
  List.forall_mem_cons.mpr ⟨tidy_toList hchars, hstrings⟩

theorem fallback_tidy : TidyPlan fallback := by
  unfold fallback
  refine ⟨tidy_toList ?_, tidy_toList ?_, ?_, ?_⟩
  all_goals repeat' refine texts_cons_tidy ?_ ?_
  all_goals first | exact texts_nil_tidy | decide +kernel

theorem strategies_tidy (incident : Incident) :
    ∀ strategy ∈ StrategyFactory.createDefaultPlanner.strategies,
      TidyPlan (strategy.createPlan incident) := by
  intro strategy hmem
  simp only [StrategyFactory.createDefaultPlanner, List.mem_cons, List.not_mem_nil,
    or_false] at hmem
  -- No plan depends on its incident.
  rcases hmem with rfl | rfl | rfl | rfl | rfl <;>
    dsimp only [WatcherRecoveryStrategy, RateLimitBackoffStrategy, CircuitBreakerStrategy,
      JobFailureStrategy, RedisReconciliationStrategy] <;>
    refine ⟨tidy_toList ?_, tidy_toList ?_, ?_, ?_⟩
  all_goals repeat' refine texts_cons_tidy ?_ ?_
  all_goals first | exact texts_nil_tidy | decide +kernel

theorem plan_tidy (incident : Incident) :
    TidyPlan (StrategyFactory.createDefaultPlanner.plan incident) := by
  unfold HealingPlanner.plan
  split
  · rename_i strategy hfind
    exact strategies_tidy incident strategy (List.mem_of_find?_eq_some hfind)
  · exact fallback_tidy

end SelfHealer

end JobQueue
