import JobQueue.Model.Call

/-!
# A time of the day

`createJob` resolves a time `HH:mm` to the next instant at which the clocks in India show
it, and sends the job at once if this is not more than a minute ahead.  The offset of the
zone is half an hour off the hour and never changes, so the civil date matters only as a
count of days.
-/

namespace JobQueue

open Decimal JobService

/-! ## The pattern of the time -/

/-- `[low-high]`. -/
def between (low high c : Char) : Bool :=
  low.toNat ≤ c.toNat && c.toNat ≤ high.toNat

/-- `JobRequest.time` matches `^([01]\d|2[0-3]):[0-5]\d$`. -/
def JobRequest.timeMatches (time : String) : Bool :=
  match time.toList with
  | [h₁, h₂, colon, m₁, m₂] =>
      (between '0' '1' h₁ && between '0' '9' h₂ || h₁ = '2' && between '0' '3' h₂) &&
        colon = ':' && between '0' '5' m₁ && between '0' '9' m₂
  | _ => false

/-- The hour that an accepted text denotes. -/
def JobRequest.hour (time : String) : Nat :=
  Nat.ofDigitChars 10 (time.toList.take 2) 0

/-- The minute that an accepted text denotes. -/
def JobRequest.minute (time : String) : Nat :=
  Nat.ofDigitChars 10 (time.toList.drop 3) 0

namespace JobService

section Parsing

variable {a b c d : Char}

theorem isDigit_iff_between : c.isDigit = between '0' '9' c := by
  rw [Bool.eq_iff_iff]
  simp only [Char.isDigit, between, Bool.and_eq_true, decide_eq_true_eq, ge_iff_le,
    UInt32.le_iff_toNat_le]
  rfl

theorem splitParts_digits {time : String} (htime : time.toList = [a, b, ':', c, d])
    (hdigits : ∀ x ∈ [a, b, c, d], x.isDigit = true) :
    splitParts time = [[a, b], [c, d]] := by
  have hcolon : ∀ x ∈ [a, b, c, d], (x == ':') = false := by
    intro x hx
    rw [beq_eq_false_iff_ne]
    rintro rfl
    exact absurd (hdigits ':' hx) (by decide)
  simp only [List.forall_mem_cons] at hcolon
  simp [splitParts, htime, List.splitOn, List.splitOnP_cons_eq_if_modifyHead, hcolon,
    List.rdropWhile]

theorem parseSigned_digits (ha : a.isDigit = true) (hb : b.isDigit = true) :
    parseSigned [a, b] = some ((Nat.ofDigitChars 10 [a, b] 0 : Nat) : Int) := by
  unfold parseSigned
  split
  · rename_i hminus
    obtain rfl := (List.cons.inj hminus).1
    exact absurd ha (by decide)
  · rename_i hplus
    obtain rfl := (List.cons.inj hplus).1
    exact absurd ha (by decide)
  · simp [parseDigits, ha, hb]

theorem parsePart_of_parseSigned {parts : List (List Char)} {index : Nat} {part : List Char}
    {n : Nat} (hpart : parts[index]? = some part) (hsigned : parseSigned part = some (n : Int))
    (hn : n < 60) : parsePart parts index = .ok (n : Int) := by
  simp only [parsePart, hpart, hsigned]
  rw [if_pos (by omega)]

theorem checkField_of_le {field : String} {bound n : Nat} (hn : n ≤ bound) :
    checkField field bound (n : Int) = .ok n := by
  rw [checkField, if_pos (by omega), Int.toNat_natCast]

end Parsing

/-- What the pattern says of the five characters. -/
theorem digits_of_matches {time : String} (h : JobRequest.timeMatches time = true) :
    ∃ h₁ h₂ m₁ m₂, time.toList = [h₁, h₂, ':', m₁, m₂] ∧
      (∀ x ∈ [h₁, h₂, m₁, m₂], x.isDigit = true) ∧
      (h₁.toNat ≤ 49 ∨ h₁.toNat = 50 ∧ h₂.toNat ≤ 51) ∧ m₁.toNat ≤ 53 := by
  unfold JobRequest.timeMatches at h
  split at h
  · rename_i h₁ h₂ colon m₁ m₂ htime
    simp only [Bool.and_eq_true, Bool.or_eq_true, decide_eq_true_eq] at h
    obtain ⟨⟨⟨hhour, rfl⟩, hm₁⟩, hm₂⟩ := h
    refine ⟨h₁, h₂, m₁, m₂, htime, ?_, ?_, ?_⟩
    · simp only [List.forall_mem_cons, isDigit_iff_between]
      have htens : between '0' '9' m₁ = true := by
        simp only [between, Bool.and_eq_true, decide_eq_true_eq] at hm₁ ⊢
        exact ⟨hm₁.1, hm₁.2.trans (by decide)⟩
      rcases hhour with ⟨hh₁, hh₂⟩ | ⟨rfl, hh₂⟩
      · have hlow : between '0' '9' h₁ = true := by
          simp only [between, Bool.and_eq_true, decide_eq_true_eq] at hh₁ ⊢
          exact ⟨hh₁.1, hh₁.2.trans (by decide)⟩
        exact ⟨hlow, hh₂, htens, hm₂, by simp⟩
      · have hlow : between '0' '9' h₂ = true := by
          simp only [between, Bool.and_eq_true, decide_eq_true_eq] at hh₂ ⊢
          exact ⟨hh₂.1, hh₂.2.trans (by decide)⟩
        exact ⟨by decide, hlow, htens, hm₂, by simp⟩
    · simp only [between, Bool.and_eq_true, decide_eq_true_eq] at hhour
      rcases hhour with ⟨⟨-, hh₁⟩, -⟩ | ⟨rfl, -, hh₂⟩
      · exact .inl hh₁
      · exact .inr ⟨rfl, hh₂⟩
    · simp only [between, Bool.and_eq_true, decide_eq_true_eq] at hm₁
      exact hm₁.2
  · cases h

/-- The pattern lets through what `LocalTime.of` accepts. -/
theorem parseTime_of_matches {time : String} (h : JobRequest.timeMatches time = true) :
    parseTime time = .ok (JobRequest.hour time, JobRequest.minute time) ∧
      JobRequest.hour time < 24 ∧ JobRequest.minute time < 60 := by
  obtain ⟨h₁, h₂, m₁, m₂, htime, hdigits, hhour, hminute⟩ := digits_of_matches h
  have hparts := splitParts_digits htime hdigits
  simp only [List.forall_mem_cons] at hdigits
  obtain ⟨hh₁, hh₂, hm₁, hm₂, -⟩ := hdigits
  have hhourValue : JobRequest.hour time = Nat.ofDigitChars 10 [h₁, h₂] 0 := by
    rw [JobRequest.hour, htime]
    rfl
  have hminuteValue : JobRequest.minute time = Nat.ofDigitChars 10 [m₁, m₂] 0 := by
    rw [JobRequest.minute, htime]
    rfl
  have hhourBound : JobRequest.hour time < 24 := by
    simp only [isDigit_iff_between, between, Bool.and_eq_true, decide_eq_true_eq] at hh₁ hh₂
    simp only [hhourValue, Nat.ofDigitChars, List.foldl_cons, List.foldl_nil]
    have hlow : '0'.toNat = 48 := rfl
    have hhigh : '9'.toNat = 57 := rfl
    omega
  have hminuteBound : JobRequest.minute time < 60 := by
    simp only [isDigit_iff_between, between, Bool.and_eq_true, decide_eq_true_eq] at hm₁ hm₂
    simp only [hminuteValue, Nat.ofDigitChars, List.foldl_cons, List.foldl_nil]
    have hlow : '0'.toNat = 48 := rfl
    have hhigh : '9'.toNat = 57 := rfl
    omega
  refine ⟨?_, hhourBound, hminuteBound⟩
  have hhourPart : parsePart [[h₁, h₂], [m₁, m₂]] 0 = .ok (JobRequest.hour time : Int) :=
    parsePart_of_parseSigned rfl (hhourValue ▸ parseSigned_digits hh₁ hh₂) (by omega)
  have hminutePart : parsePart [[h₁, h₂], [m₁, m₂]] 1 = .ok (JobRequest.minute time : Int) :=
    parsePart_of_parseSigned rfl (hminuteValue ▸ parseSigned_digits hm₁ hm₂) (by omega)
  rw [parseTime, hparts, hhourPart, hminutePart]
  show (checkField "HourOfDay" 23 (JobRequest.hour time)).bind (fun hour =>
    (checkField "MinuteOfHour" 59 (JobRequest.minute time)).bind fun minute =>
      .ok (hour, minute)) = _
  rw [checkField_of_le (by omega), checkField_of_le (by omega)]
  rfl

/-! ## The next occurrence -/

/-- The time of the day that the clocks in India show, in nanoseconds since midnight. -/
def wallClock (instant : Int) : Int :=
  (instant + kolkataOffset) % nanosPerDay

/-- In the day from `t` on, the clocks show `hour:minute` at `i`. -/
structure Shows (t : Int) (hour minute : Nat) (i : Int) : Prop where
  notBefore : t ≤ i
  within : i < t + nanosPerDay
  wall : wallClock i = (hour * 3600 + minute * 60) * nanosPerSecond

section Occurrence

variable {t : Int} {hour minute : Nat}

theorem Shows.unique {i j : Int} (hi : Shows t hour minute i) (hj : Shows t hour minute j) :
    j = i := by
  have hnotBefore := hi.notBefore
  have hwithin := hi.within
  have hnotBefore' := hj.notBefore
  have hwithin' := hj.within
  have hwall := hi.wall.trans hj.wall.symm
  simp only [wallClock, nanosPerDay, nanosPerSecond, kolkataOffset] at *
  omega

/-- The millisecond that `createJob` computes from one instant. -/
theorem shows_nextOccurrence (t : Int) (hhour : hour < 24) (hminute : minute < 60) :
    Shows t hour minute
      (nextOccurrence (instantOf (localDate t) hour minute) t * 1000000) := by
  constructor <;>
    simp only [nextOccurrence, instantOf, localDate, wallClock, nanosPerDay, nanosPerSecond,
      kolkataOffset] <;>
    split_ifs <;> omega

end Occurrence

/-! ## The call -/

section Creation

variable {L : Type} [RateLimiter L] {env : CallEnv} {t : Int} {request : JobRequest}
variable {time : String}

/-- The schedule time when the date and the comparison see one instant. -/
theorem run_scheduleTime_at (hdate : env.clock 0 = t) (hcompare : env.clock 1 = t)
    (htime : request.time = some time) (hmatches : JobRequest.timeMatches time = true)
    (s : State L) :
    Prog.run env.handle (scheduleTime request) (s, 0) =
      (.ok (nextOccurrence
        (instantOf (localDate t) (JobRequest.hour time) (JobRequest.minute time)) t), (s, 2)) := by
  have hempty : time ≠ "" := by
    rintro rfl
    exact absurd hmatches (by decide)
  simp only [scheduleTime, htime, if_neg hempty, scheduleTimeAt, (parseTime_of_matches hmatches).1]
  subst hdate
  show (Except.ok (nextOccurrence _ (env.clock 1)), _) = _
  rw [hcompare]
  rfl

theorem exec_createJob_at (hdate : env.clock 0 = t) (hcompare : env.clock 1 = t)
    (htime : request.time = some time) (hmatches : JobRequest.timeMatches time = true)
    (s : State L) :
    (Call.createJob request).exec env s =
      createEffect request (nextOccurrence
        (instantOf (localDate t) (JobRequest.hour time) (JobRequest.minute time)) t)
        (env.millis 2) s := by
  have hschedule := run_scheduleTime_at hdate hcompare htime hmatches s
  rw [Call.exec, Call.program, Call.call_discard, Service.call]
  show (Prog.run env.handle ((scheduleTime request).bind _) (s, 0)).2.1 = _
  rw [Prog.run_bind_ok env.handle hschedule]
  exact congrArg Prod.fst (run_route env _ _ 2)

/-- `createJob` stores the one instant within a day from `t` at which the clocks in India
show the time of the request, and sends the job exactly if this is at most a minute after
the last reading of the clock. -/
theorem resolves_to_next_occurrence (hdate : env.clock 0 = t) (hcompare : env.clock 1 = t)
    (htime : request.time = some time) (hmatches : JobRequest.timeMatches time = true)
    (s : State L) :
    let after := (Call.createJob request).exec env s
    (∃! i, Shows t (JobRequest.hour time) (JobRequest.minute time) i) ∧
      ∃ row, after.jobs.findById s.jobs.nextId = some row ∧
        Shows t (JobRequest.hour time) (JobRequest.minute time) (row.scheduleTime * 1000000) ∧
        if row.scheduleTime - env.millis 2 ≤ 60000 then
          row.status = .queued ∧ after.sent = s.sent ++ [longToString s.jobs.nextId] ∧
            after.topic = s.topic ++ [longToString s.jobs.nextId]
        else row.status = .pending ∧ after.sent = s.sent ∧ after.topic = s.topic := by
  intro after
  obtain ⟨-, hhour, hminute⟩ := parseTime_of_matches hmatches
  have hshows := shows_nextOccurrence t hhour hminute
  refine ⟨⟨_, hshows, fun j hj => hshows.unique hj⟩, ?_⟩
  have hafter : after = createEffect request _ (env.millis 2) s :=
    exec_createJob_at hdate hcompare htime hmatches s
  rw [hafter, createEffect, routeEffect]
  generalize nextOccurrence _ t = due at hshows ⊢
  have hinserted : (s.insertJob (newJob request due)).jobs.findById s.jobs.nextId =
      some { newJob request due with id := s.jobs.nextId } := by
    rw [State.insertJob, JobTable.findById_insert, if_pos rfl]
  by_cases hsend : due - env.millis 2 ≤ IMMEDIATE_THRESHOLD
  · rw [if_pos (by exact hsend)]
    refine ⟨{ newJob request due with id := s.jobs.nextId, status := .queued }, ?_, hshows, ?_⟩
    · rw [State.sendJob, State.saveJob, JobTable.findById_save, if_pos rfl, hinserted]
      rfl
    · rw [if_pos (by exact hsend)]
      exact ⟨rfl, rfl, rfl⟩
  · rw [if_neg (by exact hsend)]
    refine ⟨{ newJob request due with id := s.jobs.nextId }, hinserted, hshows, ?_⟩
    rw [if_neg (by exact hsend)]
    exact ⟨rfl, rfl, rfl⟩

/-- Half past midnight in India on the 29th of February is still the 28th in UTC. -/
theorem resolves_to_next_occurrence_leapDay :
    let env := CallEnv.within 1709143200000 (.ok ())
    let after := (Call.createJob (.scheduled "LOG" "00:30")).exec env
      (State.empty LuaLimiter.empty)
    ∃ row, after.jobs.findById 1 = some row ∧
      Shows 1709143200000000000 0 30 (row.scheduleTime * 1000000) := by
  have htime : (JobRequest.scheduled "LOG" "00:30").time = some "00:30" := rfl
  have hdate : (CallEnv.within 1709143200000 (.ok ())).clock 0 = 1709143200000000000 := rfl
  obtain ⟨-, row, hrow, hshows, -⟩ := resolves_to_next_occurrence hdate rfl htime (by decide)
    (State.empty LuaLimiter.empty)
  exact ⟨row, hrow, hshows⟩

end Creation

end JobService

end JobQueue
