import JobQueue.Api.Controllers
import JobQueue.Lifecycle.Accounting

/-!
# What a request does

A request is rejected, looks at the tables or makes one call, and which of these it is can be
told from the request and the configuration alone: a service that is called returns.  So an
application under any traffic does what some run of its calls does, and the status of a
response says whether the request had an effect.
-/

namespace JobQueue

variable {L : Type}

/-! ## The services return -/

section Services

variable [RateLimiter L] (env : CallEnv) (s : State L)

/-- The result of a method is turned into a body. -/
theorem Service.call_map {α β : Type} (service : Service α) (f : α → β) :
    Service.call (do let a ← service; return f a) env s =
      ((service.call env s).1.map f, (service.call env s).2) := by
  rw [Service.call, Service.call, Prog.bind_eq_bind, Prog.run_bind]
  generalize Prog.run env.handle service (s, 0) = result
  obtain ⟨_ | _, _⟩ := result <;> rfl

theorem AdminService.returns_recoverWatcher :
    ∃ result, (Service.call AdminService.recoverWatcher env s).1 = .ok result ∧
      result.success = true := by
  obtain ⟨count, hrecover⟩ := WatcherService.run_recoverMissedJobs env (env.millis 0) s 1
  have hrun : Prog.run env.handle AdminService.recoverWatcher (s, 0) =
      Prog.run env.handle (Prog.bind (WatcherService.recoverMissedJobs (env.millis 0)) _)
        (s, 1) := rfl
  rw [Service.call, hrun, Prog.run_bind_ok env.handle hrecover]
  exact ⟨_, rfl, rfl⟩

theorem AdminService.returns_reconcileRedis :
    ∃ result, (Service.call AdminService.reconcileRedis env s).1 = .ok result ∧
      result.success = true := by
  let rows := env.page (.findOverdueScheduled (env.millis 0) 500) s
  have hreinsert : ∀ job ∈ rows, ∀ tally (t : State L × Nat), ∃ tally' u,
      Prog.run env.handle (AdminService.reinsertOverdue job tally) t = (.ok tally', u) :=
    fun job _ tally t => ⟨_, _, AdminService.run_reinsertOverdue env job tally t.1 t.2⟩
  obtain ⟨tally, t, hrows⟩ := Prog.run_foldEach_ok env.handle hreinsert ⟨0, []⟩ (s, 1)
  let retryRows := env.page (.findRetryDue (env.millis 0) 500) t.1
  have hrequeue : ∀ job ∈ retryRows, ∀ tally (t : State L × Nat), ∃ tally' u,
      Prog.run env.handle (AdminService.requeueRetry job tally) t = (.ok tally', u) := by
    intro job hjob tally t
    obtain ⟨time, htime⟩ := WatcherService.retryTime_of_mem_page env hjob trivial
    exact ⟨_, _, AdminService.run_requeueRetry env htime tally t.1 t.2⟩
  obtain ⟨tally', t', hretries⟩ := Prog.run_foldEach_ok env.handle hrequeue tally t
  have hrun : Prog.run env.handle AdminService.reconcileRedis (s, 0) =
      Prog.run env.handle
        ((Prog.foldEach AdminService.reinsertOverdue rows ⟨0, []⟩).bind _) (s, 1) := rfl
  rw [Service.call, hrun, Prog.run_bind_ok env.handle hrows]
  show ∃ result, (Prog.run env.handle
    ((Prog.foldEach AdminService.requeueRetry retryRows tally).bind _) t).1 = _ ∧ _
  rw [Prog.run_bind_ok env.handle hretries]
  exact ⟨_, rfl, rfl⟩

theorem AdminService.returns_requeueJob (id : Int) :
    ∃ result, (Service.call (AdminService.requeueJob id) env s).1 = .ok result := by
  unfold AdminService.requeueJob Service.call
  cases hrow : s.jobs.findById id with
  | none => simp [hrow]
  | some job =>
      by_cases hterminal : job.status = .completed ∨ job.status = .cancelled <;>
        simp [hrow, hterminal]

/-- A request that is accepted is stored as a new row, which is returned. -/
theorem JobService.returns_createJob {request : JobRequest}
    (htime : ∀ time, request.time = some time → JobRequest.timeMatches time = true) :
    ∃ saved, (Service.call (JobService.createJob request) env s).1 = .ok saved ∧
      (Service.call (JobService.createJob request) env s).2.jobs.findById saved.id =
        some saved ∧ s.jobs.findById saved.id = none := by
  obtain ⟨time, k, hschedule⟩ : ∃ time k, Prog.run env.handle (JobService.scheduleTime request)
      (s, 0) = (.ok time, (s, k)) := by
    unfold JobService.scheduleTime
    cases hrequest : request.time with
    | none => exact ⟨_, _, rfl⟩
    | some time =>
        -- an accepted time is not the empty text, which the service takes for none
        have hempty : time ≠ "" := by
          rintro rfl
          exact absurd (htime _ hrequest) (by decide)
        simp only [if_neg hempty, JobService.scheduleTimeAt,
          (JobService.parseTime_of_matches (htime _ hrequest)).1]
        exact ⟨_, _, rfl⟩
  let row : Job := { JobService.newJob request time with id := s.jobs.nextId }
  have hinserted : (s.insertJob (JobService.newJob request time)).jobs.findById row.id =
      some row := by
    rw [State.insertJob, JobTable.findById_insert, if_pos rfl]
  have hrun : Prog.run env.handle (JobService.createJob request) (s, 0) =
      Prog.run env.handle (JobService.route row)
        (s.insertJob (JobService.newJob request time), k) := by
    show Prog.run env.handle ((JobService.scheduleTime request).bind _) (s, 0) = _
    rw [Prog.run_bind_ok env.handle hschedule]
    rfl
  have hroute : Prog.run env.handle (JobService.route row)
        (s.insertJob (JobService.newJob request time), k) =
      Prog.run env.handle
        (if row.scheduleTime - env.millis k ≤ JobService.IMMEDIATE_THRESHOLD
          then JobService.sendNow row else pure row)
        (s.insertJob (JobService.newJob request time), k + 1) := rfl
  have hfresh : s.jobs.findById row.id = none :=
    JobTable.findById_eq_none (Int.lt_add_one_of_le le_rfl)
  rw [Service.call, hrun, hroute]
  split_ifs
  · refine ⟨{ row with status := .queued }, rfl, ?_, hfresh⟩
    -- the row is saved once more as QUEUED, and it is this one that is answered
    show ((s.insertJob _).jobs.save { row with status := .queued }).findById row.id = _
    rw [JobTable.findById_save, if_pos rfl, hinserted]
    rfl
  · exact ⟨row, rfl, hinserted, hfresh⟩

end Services

/-! ## What is accepted -/

namespace JobRequestBody

variable {body : JobRequestBody}

theorem timeErrors_eq_nil_iff :
    body.timeErrors = [] ↔ ∀ time, body.time = some time → JobRequest.timeMatches time = true := by
  unfold timeErrors
  cases body.time with
  | none => simp
  | some time =>
      by_cases hmatches : JobRequest.timeMatches time = true <;> simp [hmatches]

theorem typeErrors_eq_nil_iff :
    body.typeErrors = [] ↔ ∃ type ∈ types, body.type = some type := by
  unfold typeErrors
  cases body.type with
  | none => simp
  | some type =>
      by_cases htype : type ∈ types
      · have hnotBlank : isBlank type = false := by
          revert type
          decide
        simp [htype, hnotBlank]
      · simp [htype]

/-- Each field is judged by itself. -/
theorem errors_eq_nil_iff :
    body.errors = [] ↔ body.timeErrors = [] ∧ body.typeErrors = [] :=
  List.append_eq_nil_iff

end JobRequestBody

namespace GlobalExceptionHandler

/-- No handler of an exception answers with 200. -/
theorem status_handle_ne_OK (server : Server) (thrown : Thrown) :
    (handle server thrown).status ≠ .OK := by
  cases thrown with
  | service e =>
      simp only [handle]
      split_ifs <;> exact HttpStatus.noConfusion
  | invalid errors | unauthorized | unbound | notTaken => exact HttpStatus.noConfusion

end GlobalExceptionHandler

namespace Server

variable (server : Server)

/-- The header holds the configured key, and this is not blank. -/
def Authorized (key : Option String) : Bool :=
  match key with
  | none => false
  | some key => !key.toList.all isWhitespace && server.apiKey = some key

/-- What a request does if it is accepted: one call, or none. -/
def effectOf : HttpRequest → Option (Option Call)
  | .createJob none => none
  | .createJob (some body) =>
      if body.errors = [] then
        (body.type.filter fun type => (body.toRequest type).fits).map fun type =>
          some (.createJob (body.toRequest type))
      else none
  | .cancel id => (server.toLong id).map fun id => some (.cancelJob id)
  | .getJob id => (server.toLong id).map fun _ => none
  | .getStats => some none
  | .recoverWatcher key => if server.Authorized key then some (some .triggerRecovery) else none
  | .reconcileRedis key => if server.Authorized key then some (some .reconcileRedis) else none
  | .requeueJob key id =>
      if server.Authorized key then (server.toLong id).map fun id => some (.requeueJob id)
      else none
  | .resetCircuit key type =>
      if server.Authorized key then some (some (.resetCircuit type)) else none
  | .detailedHealth key => if server.Authorized key then some none else none

/-- The state after an effect. -/
def after [RateLimiter L] (env : CallEnv) (s : State L) : Option Call → State L
  | none => s
  | some c => c.exec env s

section Authorization

variable {server} {key : Option String} {bound : Except Thrown (Handler L)}

theorem admin_of_authorized (h : server.Authorized key = true) :
    server.admin key bound = bound := by
  unfold Authorized at h
  cases key with
  | none => cases h
  | some key =>
      simp only [Bool.and_eq_true, Bool.not_eq_true', decide_eq_true_eq] at h
      obtain ⟨hblank, hkey⟩ := h
      have hauthorize : server.authorize key = .ok () := by
        simp [authorize, hkey, hblank]
      cases bound with
      | error thrown => rfl
      | ok handler =>
          show (server.authorize key).bind (fun _ => Except.ok handler) = _
          rw [hauthorize]
          rfl

theorem admin_of_unauthorized (h : server.Authorized key = false) :
    ∃ thrown, server.admin key bound = .error thrown := by
  cases key with
  | none => exact ⟨_, rfl⟩
  | some key =>
      have hauthorize : server.authorize key = .error .unauthorized := by
        unfold authorize
        cases hkey : server.apiKey with
        | none => rfl
        | some apiKey =>
            by_cases hblank : apiKey.toList.all isWhitespace = true
            · simp [hblank]
            · by_cases hsame : apiKey = key
              · subst hsame
                simp [Authorized, hkey, hblank] at h
              · simp [hblank, hsame]
      cases bound with
      | error thrown => exact ⟨thrown, rfl⟩
      | ok handler =>
          refine ⟨.unauthorized, ?_⟩
          show (server.authorize key).bind (fun _ => Except.ok handler) = _
          rw [hauthorize]
          rfl

end Authorization

section Creation

variable {body : JobRequestBody}

theorem handler_of_valid {type : String} (hvalid : body.errors = [])
    (htype : body.type = some type) :
    (server.handler (.createJob (some body)) : Except Thrown (Handler L)) =
      if (body.toRequest type).fits then
        .ok (.call do
          let saved ← JobService.createJob (body.toRequest type)
          return .job (some saved))
      else .error .notTaken := by
  show (body.validate server).bind _ = _
  rw [JobRequestBody.validate, if_pos hvalid, htype]
  rfl

theorem handler_of_invalid (hinvalid : ¬ body.errors = []) :
    (server.handler (.createJob (some body)) : Except Thrown (Handler L)) =
      .error (.invalid (server.arrange body.errors)) := by
  show (body.validate server).bind _ = _
  rw [JobRequestBody.validate, if_neg hinvalid]
  rfl

end Creation

/-- A handler as the effect of its request has it. -/
def Fits [RateLimiter L] (handler : Except Thrown (Handler L)) : Option (Option Call) → Prop
  | none => ∃ thrown, handler = .error thrown
  | some none => ∃ answer, handler = .ok (.look answer)
  | some (some c) => ∃ service, handler = .ok (.call service) ∧ ∀ env (s : State L),
      (∃ body, (service.call env s).1 = .ok body) ∧ (service.call env s).2 = c.exec env s

section Effects

variable [RateLimiter L]

/-- A service that returns, and that the call executes. -/
theorem fits_call {α : Type} {service : Service α} {body : α → Body} {c : Call}
    (hreturns : ∀ env (s : State L), ∃ a, (service.call env s).1 = .ok a)
    (hexec : ∀ env (s : State L), c.exec env s = (service.call env s).2) :
    Fits (.ok (.call (do let a ← service; return body a)) : Except Thrown (Handler L))
      (some (some c)) := by
  refine ⟨_, rfl, fun env s => ?_⟩
  obtain ⟨a, ha⟩ := hreturns env s
  rw [Service.call_map, ha, hexec]
  exact ⟨⟨body a, rfl⟩, rfl⟩

theorem fits_createJob (body : JobRequestBody) :
    Fits (server.handler (.createJob (some body)) : Except Thrown (Handler L))
      (server.effectOf (.createJob (some body))) := by
  rw [effectOf]
  split_ifs with hvalid
  · obtain ⟨htime, htype⟩ := JobRequestBody.errors_eq_nil_iff.mp hvalid
    rw [JobRequestBody.timeErrors_eq_nil_iff] at htime
    obtain ⟨type, -, htype⟩ := JobRequestBody.typeErrors_eq_nil_iff.mp htype
    rw [handler_of_valid server hvalid htype, htype, Option.filter_some]
    split_ifs
    · refine fits_call (fun env s => ?_) fun env s => Call.call_discard _ env s
      have hrequest : ∀ time, (body.toRequest type).time = some time →
          JobRequest.timeMatches time = true := htime
      obtain ⟨saved, hsaved, -⟩ := JobService.returns_createJob env s hrequest
      exact ⟨saved, hsaved⟩
    · exact ⟨_, rfl⟩
  · rw [handler_of_invalid server hvalid]
    exact ⟨_, rfl⟩

/-- Without the key there is no effect. -/
theorem fits_admin {key : Option String} {bound : Except Thrown (Handler L)}
    {effect : Option (Option Call)} (h : Fits bound effect) :
    Fits (server.admin key bound) (if server.Authorized key then effect else none) := by
  cases hkey : server.Authorized key with
  | false =>
      obtain ⟨thrown, hthrown⟩ := admin_of_unauthorized hkey
      rw [hthrown]
      exact ⟨thrown, rfl⟩
  | true =>
      rw [admin_of_authorized hkey]
      exact h

/-- Every handler does what the effect of its request says. -/
theorem fits_effectOf (request : HttpRequest) :
    Fits (server.handler request : Except Thrown (Handler L)) (server.effectOf request) := by
  cases request with
  | createJob body =>
      cases body with
      | none => exact ⟨.unbound, rfl⟩
      | some body => exact fits_createJob server body
  | cancel id =>
      show Fits ((server.pathVariable id).bind _) _
      rw [pathVariable, effectOf]
      cases server.toLong id with
      | none => exact ⟨.unbound, rfl⟩
      | some id => exact ⟨_, rfl, fun env s => ⟨⟨_, rfl⟩, rfl⟩⟩
  | getJob id =>
      show Fits ((server.pathVariable id).bind _) _
      rw [pathVariable, effectOf]
      cases server.toLong id with
      | none => exact ⟨.unbound, rfl⟩
      | some id => exact ⟨_, rfl⟩
  | getStats => exact ⟨_, rfl⟩
  | recoverWatcher key =>
      refine fits_admin server (fits_call (fun env s => ?_) fun env s => Call.call_discard _ env s)
      obtain ⟨result, hresult, -⟩ := AdminService.returns_recoverWatcher env s
      exact ⟨result, hresult⟩
  | reconcileRedis key =>
      refine fits_admin server (fits_call (fun env s => ?_) fun env s => Call.call_discard _ env s)
      obtain ⟨result, hresult, -⟩ := AdminService.returns_reconcileRedis env s
      exact ⟨result, hresult⟩
  | requeueJob key id =>
      refine fits_admin server ?_
      show Fits ((server.pathVariable id).bind _) _
      rw [pathVariable]
      cases server.toLong id with
      | none => exact ⟨.unbound, rfl⟩
      | some id =>
          exact fits_call (fun env s => AdminService.returns_requeueJob env s id)
            fun env s => Call.call_discard _ env s
  | resetCircuit key type =>
      exact fits_admin server
        (fits_call (fun env s => ⟨_, rfl⟩) fun env s => Call.call_discard _ env s)
  | detailedHealth key => exact fits_admin server ⟨_, rfl⟩

/-- The status of a response tells whether the request is accepted, and the state after it
is that after its effect. -/
theorem respond_effect (env : RequestEnv) (request : HttpRequest) (s : State L) :
    ((server.respond env request s).1.status = .OK ↔ (server.effectOf request).isSome) ∧
      (server.respond env request s).2 =
        after env.toCallEnv s (server.effectOf request).join := by
  have hfits : Fits (server.handler request : Except Thrown (Handler L))
      (server.effectOf request) := fits_effectOf server request
  rw [respond]
  rcases heffect : server.effectOf request with _ | _ | c
  · rw [heffect] at hfits
    obtain ⟨thrown, hthrown⟩ := hfits
    rw [hthrown]
    have hstatus := GlobalExceptionHandler.status_handle_ne_OK server thrown
    exact ⟨by simp [hstatus], rfl⟩
  · rw [heffect] at hfits
    obtain ⟨answer, hanswer⟩ := hfits
    rw [hanswer]
    exact ⟨by simp, rfl⟩
  · rw [heffect] at hfits
    obtain ⟨service, hservice, hcall⟩ := hfits
    obtain ⟨⟨body, hbody⟩, hstate⟩ := hcall env.toCallEnv s
    have hresult : service.call env.toCallEnv s = (.ok body, c.exec env.toCallEnv s) :=
      Prod.ext hbody hstate
    rw [hservice]
    dsimp only
    rw [hresult]
    exact ⟨by simp, rfl⟩

end Effects

end Server

end JobQueue
