import JobQueue.Limiter.OverAdmission

/-!
# When the limiter denies

Requests of several types come one after the other.  What the script answers depends on
the log of admitted requests of its own type alone, so it denies only what finds enough of
them in its last second, and no request that was denied or is of another type matters
later.  The expiry of a key shows in no answer: whatever it removes would have been trimmed
by the next request.
-/

namespace JobQueue

open Decimal SlidingWindow

/-- A call of `allow(type, limit)` with the millisecond it comes in. -/
structure Request where
  type : String
  limit : Nat
  now : Nat
  deriving DecidableEq, Repr

/-- A script with its key and the arguments `now`, `window` and `limit`. -/
abbrev Script := RateKey → Int → Int → Nat → Nat × RateKey

/-- `RateLimiterService.lua` without its `PEXPIRE`. -/
def RateKey.luaWithoutPexpire (key : RateKey) (now window : Int) (limit : Nat) :
    Nat × RateKey :=
  let live := key.expire now
  let trimmed := live.set.removeRangeByScore 0 (now - window)
  let count := trimmed.card
  if limit ≤ count then
    (0, { live with set := trimmed })
  else
    (1, { live with set := trimmed.add (longToString now) now })

namespace LuaLimiter

/-- `allow` with a script of its own. -/
def allowWith (script : Script) (r : Request) (limiter : LuaLimiter) : Bool × LuaLimiter :=
  let result := script (limiter.key r.type) r.now 1000 r.limit
  (result.1 = 1, ⟨Function.update limiter.key r.type result.2⟩)

example (r : Request) (limiter : LuaLimiter) :
    allowWith RateKey.lua r limiter = allow r.type r.limit r.now limiter := rfl

/-- The limiter after the requests. -/
def serve (script : Script) (requests : List Request) (limiter : LuaLimiter) : LuaLimiter :=
  requests.foldl (fun limiter r => (allowWith script r limiter).2) limiter

/-- The answer to a request that comes after others. -/
def answer (script : Script) (before : List Request) (r : Request) : Bool :=
  (allowWith script r (serve script before empty)).1

/-- The requests that are admitted. -/
def admittedCalls (script : Script) : List Request → LuaLimiter → List Request
  | [], _ => []
  | r :: rest, limiter =>
      let result := allowWith script r limiter
      if result.1 then r :: admittedCalls script rest result.2
      else admittedCalls script rest result.2

theorem allowWith_key (script : Script) (r : Request) (limiter : LuaLimiter) :
    (allowWith script r limiter).2.key =
      Function.update limiter.key r.type (script (limiter.key r.type) r.now 1000 r.limit).2 := rfl

/-! ## Scripts that count distinct milliseconds -/

/-- As long as `R` relates its key to the log of admitted requests, the script decides by
the distinct rule. -/
structure Decides (script : Script) (R : RateKey → Int → List Int → Prop) : Prop where
  start : R RateKey.empty 0 []
  later : ∀ {key last now log}, R key last log → last ≤ now → R key now log
  step : ∀ {key last now log} (limit : Nat), R key last log → last ≤ now → 0 ≤ now →
    decide ((script key now 1000 limit).1 = 1) = distinct RATE_WINDOW limit now log ∧
      R (script key now 1000 limit).2 now
        (if distinct RATE_WINDOW limit now log then now :: log else log)

theorem stands_later {key : RateKey} {last now : Int} {log : List Int}
    (h : key.Stands last log) (hlast : last ≤ now) : key.Stands now log where
  member := h.member
  recent a ha hlow := h.recent a ha (by omega)
  deadline := h.deadline
  past a ha := ⟨(h.past a ha).1, (h.past a ha).2.trans hlast⟩

theorem decides_lua : Decides RateKey.lua RateKey.Stands where
  start := RateKey.stands_empty
  later := stands_later
  step := by
    intro key last now log limit h hlast hnow
    have hstands : ((⟨fun _ => key⟩ : LuaLimiter).key "").Stands last log := h
    have hspec := allow_spec "" limit hstands hlast hnow
    simp only [allow, Function.update_self] at hspec
    exact hspec

theorem decides_luaWithoutPexpire :
    Decides RateKey.luaWithoutPexpire fun key last log =>
      key.Stands last log ∧ key.expireAt = none where
  start := ⟨RateKey.stands_empty, rfl⟩
  later h hlast := ⟨stands_later h.1 hlast, h.2⟩
  step := by
    rintro key last now log limit ⟨h, hnone⟩ hlast hnow
    have hcard := h.card_live hlast
    have hexpire : (key.expire now).expireAt = none := by rw [RateKey.expire, hnone, hnone]
    have hscript : key.luaWithoutPexpire now 1000 limit =
        if limit ≤ (key.live now).card then (0, { key.expire now with set := key.live now })
        else (1, { key.expire now with set := (key.live now).add (longToString now) now }) := rfl
    by_cases hfull : limit ≤ (key.live now).card
    · have hrefused : distinct RATE_WINDOW limit now log = false := by
        simp only [distinct, decide_eq_false_iff_not]
        omega
      rw [hscript, if_pos hfull, hrefused]
      exact ⟨rfl, h.refuse hlast, hexpire⟩
    · have hadmitted : distinct RATE_WINDOW limit now log = true := by
        simp only [distinct, decide_eq_true_eq]
        omega
      have hrecord := h.record hlast hnow
      rw [hscript, if_neg hfull, hadmitted]
      refine ⟨rfl, ⟨hrecord.member, hrecord.recent, fun time htime => ?_, hrecord.past⟩, hexpire⟩
      rw [hexpire] at htime
      cases htime

/-! ## Answers -/

/-- Decide a request of the type by the distinct rule, and leave the others alone. -/
def record (type : String) (log : List Int) (r : Request) : List Int :=
  if r.type = type then
    if distinct RATE_WINDOW r.limit r.now log then (r.now : Int) :: log else log
  else log

/-- The log of admitted requests of a type, the last one first. -/
def logAfter (type : String) (requests : List Request) : List Int :=
  requests.foldl (record type) []

theorem logAfter_append (type : String) (before : List Request) (r : Request) :
    logAfter type (before ++ [r]) = record type (logAfter type before) r := by
  rw [logAfter, List.foldl_append]
  rfl

section Decided

variable {script : Script} {R : RateKey → Int → List Int → Prop} (hscript : Decides script R)

theorem serve_append (script : Script) (before : List Request) (r : Request)
    (limiter : LuaLimiter) :
    serve script (before ++ [r]) limiter =
      (allowWith script r (serve script before limiter)).2 := by
  rw [serve, List.foldl_append]
  rfl

theorem admittedCalls_append (script : Script) (before : List Request) (r : Request)
    (limiter : LuaLimiter) :
    admittedCalls script (before ++ [r]) limiter =
      admittedCalls script before limiter ++
        if (allowWith script r (serve script before limiter)).1 then [r] else [] := by
  induction before generalizing limiter with
  | nil =>
      rw [List.nil_append, admittedCalls]
      rfl
  | cons first rest ih =>
      have hserve : serve script (first :: rest) limiter =
          serve script rest (allowWith script first limiter).2 := rfl
      rw [List.cons_append, admittedCalls, admittedCalls, hserve]
      by_cases hfirst : (allowWith script first limiter).1 = true
      · rw [if_pos hfirst, if_pos hfirst, ih, List.cons_append]
      · rw [if_neg hfirst, if_neg hfirst, ih]

include hscript

/-- After requests up to the time `last`, every key stands for the log of its type. -/
theorem serve_stands {requests : List Request} {last : Nat}
    (hsorted : requests.Pairwise fun r r' => r.now ≤ r'.now)
    (hlast : ∀ r ∈ requests, r.now ≤ last) (type : String) :
    R ((serve script requests empty).key type) last (logAfter type requests) := by
  induction requests using List.reverseRecOn generalizing last type with
  | nil => exact hscript.later hscript.start (Int.natCast_nonneg last)
  | append_singleton before r ih =>
      obtain ⟨hbefore, -, hr⟩ := List.pairwise_append.mp hsorted
      have hearlier : ∀ r' ∈ before, r'.now ≤ r.now :=
        fun r' hr' => hr r' hr' r (List.mem_singleton_self r)
      have hle : (r.now : Int) ≤ last := Int.ofNat_le.mpr (hlast r (by simp))
      have hkey := ih hbefore hearlier r.type
      have hother := ih hbefore hearlier type
      rw [serve_append, logAfter_append, record]
      refine hscript.later ?_ hle
      by_cases htype : r.type = type
      · subst htype
        rw [if_pos rfl, allowWith_key, Function.update_self]
        exact (hscript.step r.limit hkey le_rfl (Int.natCast_nonneg r.now)).2
      · rw [if_neg htype, allowWith_key, Function.update_of_ne (Ne.symm htype)]
        exact hother

/-- The answer counts the milliseconds of the recent admitted requests of the type. -/
theorem answer_eq {before : List Request} {r : Request}
    (hsorted : (before ++ [r]).Pairwise fun r r' => r.now ≤ r'.now) :
    answer script before r = distinct RATE_WINDOW r.limit r.now (logAfter r.type before) := by
  obtain ⟨hbefore, -, hr⟩ := List.pairwise_append.mp hsorted
  have hkey := serve_stands hscript hbefore (fun r' hr' => hr r' hr' r (List.mem_singleton_self r))
    r.type
  exact (hscript.step r.limit hkey le_rfl (Int.natCast_nonneg r.now)).1

/-- The admitted requests of a type are those of its log. -/
theorem map_admittedCalls {requests : List Request}
    (hsorted : requests.Pairwise fun r r' => r.now ≤ r'.now) (type : String) :
    (((admittedCalls script requests empty).filter (·.type = type)).map
      fun r => (r.now : Int)).reverse = logAfter type requests := by
  induction requests using List.reverseRecOn with
  | nil => rfl
  | append_singleton before r ih =>
      obtain ⟨hbefore, -, -⟩ := List.pairwise_append.mp hsorted
      rw [admittedCalls_append, ← answer, answer_eq hscript hsorted, logAfter_append, record,
        List.filter_append, List.map_append, List.reverse_append, ih hbefore]
      by_cases htype : r.type = type
      · subst htype
        rw [if_pos rfl]
        split_ifs <;> simp
      · rw [if_neg htype]
        split_ifs <;> simp [htype]

/-- A request that is denied has found enough admitted ones in its last second. -/
theorem le_recent_of_denied {before : List Request} {r : Request}
    (hsorted : (before ++ [r]).Pairwise fun r r' => r.now ≤ r'.now)
    (hdenied : answer script before r = false) :
    r.limit ≤ ((admittedCalls script before empty).filter fun r' =>
      r'.type = r.type ∧ r.now < r'.now + 1000 ∧ r'.now ≤ r.now).length := by
  obtain ⟨hbefore, -, -⟩ := List.pairwise_append.mp hsorted
  rw [answer_eq hscript hsorted, distinct, decide_eq_false_iff_not, not_lt] at hdenied
  have hdedup : (recent RATE_WINDOW r.now (logAfter r.type before)).dedup.length ≤
      (recent RATE_WINDOW r.now (logAfter r.type before)).length :=
    (List.dedup_sublist _).length_le
  refine (hdenied.trans hdedup).trans_eq ?_
  rw [← map_admittedCalls hscript hbefore, recent, List.filter_reverse, List.length_reverse,
    List.filter_map, List.length_map, List.filter_filter]
  refine congrArg List.length (List.filter_congr fun r' _ => ?_)
  rw [Bool.eq_iff_iff]
  simp only [Function.comp_apply, RATE_WINDOW, Bool.and_eq_true, decide_eq_true_eq]
  constructor
  · rintro ⟨hwindow, htype⟩
    have hwithin := of_decide_eq_true hwindow
    exact ⟨htype, by omega, by omega⟩
  · rintro ⟨htype, hlow, hhigh⟩
    exact ⟨decide_eq_true ⟨by omega, by omega⟩, htype⟩

/-- A request that is denied or of another type changes no later answer. -/
theorem answer_eq_of_immaterial {before after : List Request} {d r : Request}
    (hsorted : (before ++ d :: after ++ [r]).Pairwise fun r r' => r.now ≤ r'.now)
    (himmaterial : d.type ≠ r.type ∨ answer script before d = false) :
    answer script (before ++ d :: after) r = answer script (before ++ after) r := by
  have hwithout : (before ++ after ++ [r]).Pairwise fun r r' => r.now ≤ r'.now := by
    refine hsorted.sublist ?_
    exact ((List.sublist_cons_self d after).append_left before).append_right [r]
  have hprefix : (before ++ [d]).Pairwise fun r r' => r.now ≤ r'.now := by
    refine hsorted.sublist ?_
    rw [List.append_assoc]
    exact (List.singleton_sublist.mpr (by simp)).append_left before
  have hsame : logAfter r.type (before ++ [d]) = logAfter r.type before := by
    rw [logAfter_append, record]
    split_ifs with htype hadmitted
    · rw [answer_eq hscript hprefix, htype] at himmaterial
      simp [hadmitted] at himmaterial
    · rfl
    · rfl
  have hlog : logAfter r.type (before ++ d :: after) = logAfter r.type (before ++ after) := by
    rw [List.append_cons, logAfter, List.foldl_append, ← logAfter, hsame, logAfter,
      ← List.foldl_append]
    rfl
  rw [answer_eq hscript hsorted, answer_eq hscript hwithout, hlog]

end Decided

/-- The limiter denies only what finds `limit` admitted requests of the type in its last
second, denied requests and requests of other types change no later answer, and neither
does the expiry of a key. -/
theorem denies_with_cause {before : List Request} {r : Request}
    (hsorted : (before ++ [r]).Pairwise fun r r' => r.now ≤ r'.now) :
    (answer RateKey.lua before r = false →
      r.limit ≤ ((admittedCalls RateKey.lua before empty).filter fun r' =>
        r'.type = r.type ∧ r.now < r'.now + 1000 ∧ r'.now ≤ r.now).length) ∧
    (∀ earlier d later, before = earlier ++ d :: later →
      d.type ≠ r.type ∨ answer RateKey.lua earlier d = false →
      answer RateKey.lua before r = answer RateKey.lua (earlier ++ later) r) ∧
    answer RateKey.lua before r = answer RateKey.luaWithoutPexpire before r := by
  refine ⟨le_recent_of_denied decides_lua hsorted, ?_, ?_⟩
  · rintro earlier d later rfl himmaterial
    exact answer_eq_of_immaterial decides_lua hsorted himmaterial
  · rw [answer_eq decides_lua hsorted, answer_eq decides_luaWithoutPexpire hsorted]

/-- The third request of one second is denied under a limit of two. -/
theorem denies_with_cause_third :
    answer RateKey.lua [⟨"LOG", 2, 1⟩, ⟨"API", 2, 1⟩, ⟨"LOG", 2, 2⟩] ⟨"LOG", 2, 1000⟩ = false ∧
      2 ≤ ((admittedCalls RateKey.lua [⟨"LOG", 2, 1⟩, ⟨"API", 2, 1⟩, ⟨"LOG", 2, 2⟩] empty).filter
        fun r' => r'.type = "LOG" ∧ 1000 < r'.now + 1000 ∧ r'.now ≤ 1000).length := by
  have hdenied : answer RateKey.lua [⟨"LOG", 2, 1⟩, ⟨"API", 2, 1⟩, ⟨"LOG", 2, 2⟩]
      ⟨"LOG", 2, 1000⟩ = false := by decide
  exact ⟨hdenied, (denies_with_cause (by decide)).1 hdenied⟩

end LuaLimiter

end JobQueue
