import JobQueue.Api.Requests

/-!
# An application under traffic

Requests arrive between the calls of the scheduler and of the Kafka listener.  The
application serves a request whole and runs a call whole, one after another; requests and
calls that overlap are not a run of this module, and a job can then be executed twice
(`Concurrency.LostUpdate`).  What the application does under any such traffic is a run of
calls, and only a request with the admin key can add a call that makes duplicates.  So a job
created over HTTP has one carrier at a time and a bounded number of executions, whatever else
is requested.
-/

namespace JobQueue

open Decimal

variable {L : Type}

/-- What happens to the application: a request arrives, or a method of its own is called. -/
inductive Activity where
  | request (request : HttpRequest)
  | background (c : Call)

/-- The key that a request presents. -/
def HttpRequest.key : HttpRequest → Option String
  | recoverWatcher key | reconcileRedis key | requeueJob key _ | resetCircuit key _
  | detailedHealth key => key
  | createJob _ | cancel _ | getJob _ | getStats => none

/-- The methods that the scheduler and the Kafka listener call. -/
def Call.Background : Call → Prop
  | .watch => True
  | .dispatch => True
  | .consume _ => True
  | .redeliver _ => True
  | _ => False

namespace Server

variable (server : Server)

/-- A step of the application: a request is served whole, or a call runs whole. -/
def Serves [RateLimiter L] (s : State L) (label : Activity × RequestEnv) (t : State L) : Prop :=
  match label.1 with
  | .request request => t = (server.respond label.2 request s).2
  | .background c => c.Background ∧ Call.Step s (c, label.2.toCallEnv) t

/-- The call of an activity, if it makes one. -/
def callOf (label : Activity × RequestEnv) : Option (Call × CallEnv) :=
  match label.1 with
  | .request request => (server.effectOf request).join.map fun c => (c, label.2.toCallEnv)
  | .background c => some (c, label.2.toCallEnv)

variable {server}

/-- The call of a request creates a job as validated, cancels one, or has been authorized. -/
theorem effect_cases {request : HttpRequest} {c : Call}
    (h : server.effectOf request = some (some c)) :
    (∃ (body : JobRequestBody) (type : String), body.errors = [] ∧ body.type = some type ∧
        c = .createJob (body.toRequest type)) ∨
      (∃ id, c = .cancelJob id) ∨
      server.Authorized request.key = true ∧
        (c = .triggerRecovery ∨ c = .reconcileRedis ∨ (∃ type, c = .resetCircuit type) ∨
          ∃ key text id, request = .requeueJob key text ∧ c = .requeueJob id) := by
  cases request with
  | createJob body =>
      cases body with
      | none => cases h
      | some body =>
          rw [effectOf] at h
          split_ifs at h with hvalid
          obtain ⟨type, hfilter, heffect⟩ := Option.map_eq_some_iff.mp h
          obtain ⟨htype, -⟩ := Option.filter_eq_some_iff.mp hfilter
          exact .inl ⟨body, type, hvalid, htype, (Option.some.inj heffect).symm⟩
  | cancel id =>
      obtain ⟨id, -, heffect⟩ := Option.map_eq_some_iff.mp h
      exact .inr (.inl ⟨id, (Option.some.inj heffect).symm⟩)
  | getJob id =>
      obtain ⟨id, -, heffect⟩ := Option.map_eq_some_iff.mp h
      cases heffect
  | getStats => cases h
  | recoverWatcher key =>
      -- an action of the administrator has an effect only with the right key
      rw [effectOf] at h
      split_ifs at h with hkey
      obtain rfl := Option.some.inj (Option.some.inj h)
      exact .inr (.inr ⟨hkey, .inl rfl⟩)
  | reconcileRedis key =>
      rw [effectOf] at h
      split_ifs at h with hkey
      obtain rfl := Option.some.inj (Option.some.inj h)
      exact .inr (.inr ⟨hkey, .inr (.inl rfl)⟩)
  | requeueJob key text =>
      rw [effectOf] at h
      split_ifs at h with hkey
      obtain ⟨id, -, heffect⟩ := Option.map_eq_some_iff.mp h
      exact .inr (.inr ⟨hkey, .inr (.inr (.inr
        ⟨key, text, id, rfl, (Option.some.inj heffect).symm⟩))⟩)
  | resetCircuit key type =>
      rw [effectOf] at h
      split_ifs at h with hkey
      obtain rfl := Option.some.inj (Option.some.inj h)
      exact .inr (.inr ⟨hkey, .inr (.inr (.inl ⟨type, rfl⟩))⟩)
  | detailedHealth key =>
      rw [effectOf] at h
      split_ifs at h
      cases h

/-- A request is never a delivery of a message. -/
theorem enabled_of_effect {request : HttpRequest} {c : Call}
    (h : server.effectOf request = some (some c)) (s : State L) : c.Enabled s := by
  rcases effect_cases h with ⟨_, _, -, -, rfl⟩ | ⟨_, rfl⟩ | ⟨-, rfl | rfl | ⟨_, rfl⟩ |
    ⟨_, _, _, -, rfl⟩⟩ <;> trivial

/-- A request creates jobs of the three types only. -/
theorem validated_of_effect {request : HttpRequest} {c : Call}
    (h : server.effectOf request = some (some c)) : c.Validated := by
  rcases effect_cases h with ⟨body, type, hvalid, htype, rfl⟩ | ⟨_, rfl⟩ | ⟨-, rfl | rfl |
    ⟨_, rfl⟩ | ⟨_, _, _, -, rfl⟩⟩
  · obtain ⟨-, htypeErrors⟩ := JobRequestBody.errors_eq_nil_iff.mp hvalid
    obtain ⟨other, hmem, hother⟩ := JobRequestBody.typeErrors_eq_nil_iff.mp htypeErrors
    obtain rfl := Option.some.inj (htype.symm.trans hother)
    show type = "EMAIL" ∨ type = "API" ∨ type = "LOG"
    simpa [JobRequestBody.types] using hmem
  all_goals trivial

/-- What the application does under traffic is a run of its calls. -/
theorem run_callOf [RateLimiter L] {P : Call → Prop} {s t : State L}
    {labels : List (Activity × RequestEnv)} (hrun : Run server.Serves s labels t)
    (hcalls : ∀ label ∈ labels, (∀ c, label.1 = .background c → c.Background) →
      ∀ entry, server.callOf label = some entry → P entry.1) :
    Run (fun s entry t => P entry.1 ∧ Call.Step s entry t) s
      (labels.filterMap server.callOf) t := by
  refine (hrun.project id server.callOf (fun _ => True) ?_ trivial).1
  rintro s ⟨activity, env⟩ t hmem - hstep
  refine ⟨trivial, ?_⟩
  have hcall := hcalls _ hmem
  cases activity with
  | background c =>
      obtain ⟨hbackground, hstep⟩ := hstep
      refine ⟨nofun, fun entry hentry => ⟨hcall (fun other hother => ?_) entry hentry, ?_⟩⟩
      · obtain rfl := Activity.background.inj hother
        exact hbackground
      · obtain rfl := Option.some.inj hentry
        exact hstep
  | request request =>
      have hafter : t = (server.respond env request s).2 := hstep
      rw [(respond_effect server env request s).2] at hafter
      refine ⟨fun hnone => ?_, fun entry hentry => ⟨hcall nofun entry hentry, ?_⟩⟩
      · have hjoin : (server.effectOf request).join = none := Option.map_eq_none_iff.mp hnone
        rw [hjoin] at hafter
        exact hafter
      · obtain ⟨c, hjoin, rfl⟩ := Option.map_eq_some_iff.mp hentry
        rw [hjoin] at hafter
        exact ⟨enabled_of_effect (Option.join_eq_some_iff.mp hjoin) s, hafter⟩

section Safe

variable [RateLimiter L] {limiter : L} {labels : List (Activity × RequestEnv)} {s : State L}

/-- A label that makes no duplicates: its message is delivered for the first time, and it is
no requeue that would be authorized. -/
def NoDuplicate (server : Server) (label : Activity × RequestEnv) : Prop :=
  match label.1 with
  | .background (.redeliver _) => False
  | .request (.requeueJob key _) => server.Authorized key = false
  | _ => True

theorem allowed_of_callOf {label : Activity × RequestEnv} {entry : Call × CallEnv}
    (hcall : server.callOf label = some entry) (honce : server.NoDuplicate label)
    (hbackground : ∀ c, label.1 = .background c → c.Background) :
    entry.1.Regular ∧ entry.1.Validated := by
  obtain ⟨activity, env⟩ := label
  cases activity with
  | background c =>
      obtain rfl := Option.some.inj hcall
      cases c with
      | redeliver message => exact honce.elim
      | watch | dispatch | consume => exact ⟨trivial, trivial⟩
      | createJob | cancelJob | triggerRecovery | reconcileRedis | resetCircuit | requeueJob =>
          exact (hbackground _ rfl).elim
  | request request =>
      obtain ⟨c, hjoin, rfl⟩ := Option.map_eq_some_iff.mp hcall
      have heffect := Option.join_eq_some_iff.mp hjoin
      refine ⟨?_, validated_of_effect heffect⟩
      rcases effect_cases heffect with ⟨_, _, -, -, rfl⟩ | ⟨_, rfl⟩ | ⟨hkey, rfl | rfl |
        ⟨_, rfl⟩ | ⟨key, _, _, rfl, rfl⟩⟩
      · trivial
      · trivial
      · trivial
      · trivial
      · trivial
      · -- the requeue is not authorized
        have hnot : server.Authorized key = false := honce
        rw [HttpRequest.key, hnot] at hkey
        cases hkey

/-- The types that a body may have are those that have an executor. -/
theorem mem_types_of_resolve {type : String} (h : (ExecutorFactory.resolve type).isSome) :
    type ∈ JobRequestBody.types := by
  unfold ExecutorFactory.resolve at h
  split_ifs at h <;> simp_all [JobRequestBody.types]

/-- What holds of a job that was created over HTTP: its type has an executor, it has one
undelivered message while it is QUEUED and none otherwise, it is in the delay queue exactly
while it is SCHEDULED, and its executions are accounted for. -/
structure Intact (s : State L) (id : Int) (job : Job) : Prop where
  type : job.type ∈ JobRequestBody.types
  messages : s.topic.countP (carries id) = if job.status = .queued then 1 else 0
  scheduled : s.scheduledJobs.score? id ≠ none ↔ job.status = .scheduled
  settled : job.status ≠ .processing
  bounded : job.retryCount ≤ 5
  executions : (s.view id).executions.length =
    job.retryCount + if job.status = .completed ∨ job.status = .failed then 1 else 0

theorem intact_of_validated {calls : List (Call × CallEnv)}
    (hrun : Run ValidatedStep (State.empty limiter) calls s) {id : Int} {job : Job}
    (hrow : s.jobs.findById id = some job) : Intact s id job := by
  have hview : (s.view id).row = some job := hrow
  have hstatus := JobView.status?_of_row hview
  have hcarried := carried_of_run (hrun.mono fun _ _ _ h => h.1) id
  have haccounts := (accounted_of_run hrun id).of_row hview
  refine ⟨mem_types_of_resolve haccounts.resolved, ?_, ?_, ?_, haccounts.bounded,
    haccounts.length_eq⟩
  · show (s.view id).inFlight = _
    simpa [hstatus] using hcarried.inFlight
  · show (s.view id).score ≠ none ↔ _
    simpa [hstatus] using hcarried.score
  · simpa [hstatus] using hcarried.settled

theorem validatedRun_callOf {t : State L} (hrun : Run server.Serves s labels t)
    (honce : ∀ label ∈ labels, server.NoDuplicate label) :
    Run ValidatedStep s (labels.filterMap server.callOf) t := by
  have hcalls := run_callOf (P := fun c => c.Regular ∧ c.Validated) hrun
    fun label hmem hbackground entry hcall =>
      allowed_of_callOf hcall (honce label hmem) hbackground
  exact hcalls.mono fun _ _ _ h => ⟨⟨h.1.1, h.2⟩, h.1.2⟩

/-- Whatever is requested and however often, every job is intact, as long as no message is
delivered twice and nobody with the key requeues jobs.  Requests and calls are served one
after another. -/
theorem traffic_safe (hrun : Run server.Serves (State.empty limiter) labels s)
    (honce : ∀ label ∈ labels, server.NoDuplicate label) {id : Int} {job : Job}
    (hrow : s.jobs.findById id = some job) : Intact s id job :=
  intact_of_validated (validatedRun_callOf hrun honce) hrow

end Safe

/-! ## A deployment -/

/-- A server with the default key, whose path variables are decimal. -/
def plain : Server where
  apiKey := some "change-me-in-production"
  toLong := parseLong
  isIllegalArgument _ := false
  arrange errors := errors
  perm _ := List.Perm.refl _

/-- The environment of a call within one millisecond. -/
def within (millis : Int) : RequestEnv := ⟨CallEnv.within millis (.ok ()), []⟩

/-- A job is created, somebody without the key tries to requeue it, and it is executed. -/
def unauthorizedRequeue : List (Activity × RequestEnv) :=
  [(.request (.createJob (some ⟨none, none, none, none, some "LOG"⟩)), within 1000),
    (.request (.createJob (some ⟨none, some "24:00", none, none, some "SMS"⟩)), within 1001),
    (.request (.requeueJob (some "guessed") "1"), within 1002),
    (.background (.consume "1"), within 1003)]

/-- The one request that is accepted, and the delivery of its message. -/
def createdAndConsumed : State LuaLimiter :=
  Call.execAll [(.createJob (.immediate "LOG"), .within 1000 (.ok ())),
    (.consume "1", .within 1003 (.ok ()))] (State.empty LuaLimiter.empty)

theorem run_unauthorizedRequeue :
    Run plain.Serves (State.empty LuaLimiter.empty) unauthorizedRequeue createdAndConsumed := by
  refine .cons rfl (.cons rfl (.cons rfl (.single ⟨trivial, ?_, rfl⟩)))
  show "1" ∈ _
  decide

theorem noDuplicate_unauthorizedRequeue :
    ∀ label ∈ unauthorizedRequeue, plain.NoDuplicate label := by
  have hguessed : plain.Authorized (some "guessed") = false := by decide
  simp only [unauthorizedRequeue, List.forall_mem_cons]
  exact ⟨trivial, trivial, hguessed, trivial, by simp⟩

theorem traffic_safe_unauthorizedRequeue :
    (createdAndConsumed.view 1).executions.length = 1 := by
  have hrow : createdAndConsumed.jobs.findById 1 =
      some ⟨⟨"LOG", .completed, none, none, none, 0, 1000, none⟩, 1⟩ := by decide
  exact (traffic_safe run_unauthorizedRequeue noDuplicate_unauthorizedRequeue hrow).executions

end Server

end JobQueue
