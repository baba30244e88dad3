import JobQueue.Lib.SlidingWindow
import JobQueue.Model.RateLimiterService

/-!
# How the limiter counts

The sorted set of the limiter keeps one member per millisecond in which a
request was admitted, so the script decides by the distinct rule of
`SlidingWindow`.  It is the sliding-window limiter it is meant to be as long as
no millisecond with two admitted requests lies in a full window.
-/

namespace JobQueue

open Decimal SlidingWindow

/-- The window `RateLimiterService.allow` passes to the script. -/
def RATE_WINDOW : Int := 1000

namespace RateKey

/-- The key stands for the log of admitted requests, the newest first, when the
last request came at `last`. -/
structure Stands (key : RateKey) (last : Int) (log : List Int) : Prop where
  member : ∀ member score, key.set.score? member = some score →
    member = longToString score ∧ score ∈ log
  recent : ∀ a ∈ log, last - RATE_WINDOW < a → key.set.score? (longToString a) = some a
  deadline : ∀ time, key.expireAt = some time → ∀ a ∈ log, a + RATE_WINDOW ≤ time
  past : ∀ a ∈ log, 0 ≤ a ∧ a ≤ last

theorem stands_empty : Stands RateKey.empty 0 [] := by
  constructor <;> simp [RateKey.empty]

/-- The members the script counts at time `now`. -/
def live (key : RateKey) (now : Int) : SortedSet String :=
  (key.expire now).set.removeRangeByScore 0 (now - RATE_WINDOW)

variable {key : RateKey} {last now : Int} {log : List Int}

/-- What is left after expiry and trimming are the recent requests. -/
theorem Stands.score?_live (h : Stands key last log) (hlast : last ≤ now) (member : String)
    (score : Int) :
    (key.live now).score? member = some score ↔
      member = longToString score ∧ score ∈ SlidingWindow.recent RATE_WINDOW now log := by
  rw [live, SortedSet.score?_removeRangeByScore, Option.filter_eq_some_iff, mem_recent]
  have hexpire : (key.expire now).set.score? member = some score ↔
      key.set.score? member = some score ∧ ∀ time, key.expireAt = some time → now < time := by
    unfold RateKey.expire
    cases hdeadline : key.expireAt with
    | none => simp
    | some time =>
        dsimp only
        split_ifs with hgone
        · simp only [RateKey.empty, SortedSet.score?_empty, Option.some.injEq]
          constructor
          · intro h
            cases h
          · intro h
            exact absurd (h.2 time rfl) (by omega)
        · simp only [Option.some.injEq]
          exact ⟨fun h => ⟨h, fun other hother => by omega⟩, fun h => h.1⟩
  rw [hexpire]
  constructor
  · rintro ⟨⟨hscore, -⟩, htrim⟩
    obtain ⟨hmember, hlog⟩ := h.member member score hscore
    have hpast := h.past score hlog
    simp only [decide_eq_true_eq] at htrim
    exact ⟨hmember, hlog, by omega, by omega⟩
  · rintro ⟨rfl, hlog, hlow, hhigh⟩
    have hpast := h.past score hlog
    refine ⟨⟨h.recent score hlog (by omega), fun time htime => ?_⟩, ?_⟩
    · -- a key that still holds a recent timestamp is not due to expire
      have hdeadline := h.deadline time htime score hlog
      omega
    · simp only [decide_eq_true_eq]
      omega

/-- The script counts the milliseconds of the recent requests. -/
theorem Stands.card_live (h : Stands key last log) (hlast : last ≤ now) :
    (key.live now).card = (SlidingWindow.recent RATE_WINDOW now log).dedup.length := by
  have hentry : ∀ entry, entry ∈ (key.live now).entries ↔
      entry.1 = longToString entry.2 ∧ entry.2 ∈ SlidingWindow.recent RATE_WINDOW now log := by
    intro entry
    rw [← SortedSet.score?_eq_some_iff]
    exact h.score?_live hlast entry.1 entry.2
  have hkeys : (key.live now).entries.map Prod.fst =
      ((key.live now).entries.map Prod.snd).map longToString := by
    rw [List.map_map]
    exact List.map_congr_left fun entry hmem => ((hentry entry).mp hmem).1
  have hnodup : ((key.live now).entries.map Prod.snd).Nodup := by
    have hfst := (key.live now).nodup
    rw [hkeys] at hfst
    exact hfst.of_map
  have hperm : ((key.live now).entries.map Prod.snd).Perm
      (SlidingWindow.recent RATE_WINDOW now log).dedup := by
    rw [List.perm_ext_iff_of_nodup hnodup (List.nodup_dedup _)]
    intro a
    rw [List.mem_dedup, List.mem_map]
    constructor
    · rintro ⟨entry, hmem, rfl⟩
      exact ((hentry entry).mp hmem).2
    · intro ha
      exact ⟨(longToString a, a), (hentry _).mpr ⟨rfl, ha⟩, rfl⟩
  rw [← hperm.length_eq, List.length_map, SortedSet.card]

/-- A refused request leaves the key standing for the same log. -/
theorem Stands.refuse (h : Stands key last log) (hlast : last ≤ now) :
    Stands { key.expire now with set := key.live now } now log := by
  constructor
  · intro member score hscore
    obtain ⟨hmember, hrecent⟩ := (h.score?_live hlast member score).mp hscore
    exact ⟨hmember, (mem_recent.mp hrecent).1⟩
  · -- what the trimming removed lies in no later window
    intro a ha hlow
    have hpast := h.past a ha
    exact (h.score?_live hlast _ a).mpr ⟨rfl, mem_recent.mpr ⟨ha, hlow, by omega⟩⟩
  · intro time htime a ha
    have hsame : key.expireAt = some time := by
      unfold RateKey.expire at htime
      split at htime
      · exact htime
      · split_ifs at htime
        · cases htime
        · exact htime
    exact h.deadline time hsame a ha
  · intro a ha
    have hpast := h.past a ha
    exact ⟨hpast.1, by omega⟩

/-- An admitted request is added under its millisecond. -/
theorem Stands.record (h : Stands key last log) (hlast : last ≤ now) (hnow : 0 ≤ now) :
    Stands ⟨(key.live now).add (longToString now) now, some (now + RATE_WINDOW)⟩ now
      (now :: log) := by
  constructor
  · intro member score hscore
    rw [SortedSet.score?_add] at hscore
    -- a request in the same millisecond overwrites the member of the earlier one
    split_ifs at hscore with hmember
    · obtain rfl := Option.some.inj hscore
      exact ⟨hmember, List.mem_cons_self⟩
    · obtain ⟨hother, hrecent⟩ := (h.score?_live hlast member score).mp hscore
      exact ⟨hother, List.mem_cons_of_mem now (mem_recent.mp hrecent).1⟩
  · intro a ha hlow
    rw [SortedSet.score?_add]
    split_ifs with hmember
    · rw [longToString_injective hmember]
    · have hne : a ≠ now := fun heq => hmember (by rw [heq])
      have hlog := (List.mem_cons.mp ha).resolve_left hne
      have hpast := h.past a hlog
      exact (h.score?_live hlast _ a).mpr ⟨rfl, mem_recent.mpr ⟨hlog, hlow, by omega⟩⟩
  · intro time htime a ha
    obtain rfl := Option.some.inj htime
    rcases List.mem_cons.mp ha with rfl | hlog
    · exact le_rfl
    · have hpast := h.past a hlog
      omega
  · intro a ha
    rcases List.mem_cons.mp ha with rfl | hlog
    · exact ⟨hnow, le_rfl⟩
    · have hpast := h.past a hlog
      exact ⟨hpast.1, by omega⟩

end RateKey

namespace LuaLimiter

/-- The timestamps of the admitted calls of `allow type limit` at the successive
times, the last one first. -/
def admitted (type : String) (limit : Nat) : List Int → LuaLimiter → List Int → List Int
  | [], _, log => log
  | now :: rest, limiter, log =>
      let result := allow type limit now limiter
      admitted type limit rest result.2 (if result.1 then now :: log else log)

/-- One call decides by the distinct rule. -/
theorem allow_spec (type : String) (limit : Nat) {limiter : LuaLimiter} {last now : Int}
    {log : List Int} (h : (limiter.key type).Stands last log) (hlast : last ≤ now)
    (hnow : 0 ≤ now) :
    (allow type limit now limiter).1 = distinct RATE_WINDOW limit now log ∧
      ((allow type limit now limiter).2.key type).Stands now
        (if distinct RATE_WINDOW limit now log then now :: log else log) := by
  have hcard := h.card_live hlast
  have hlua : (limiter.key type).lua now 1000 limit =
      if limit ≤ ((limiter.key type).live now).card then
        (0, { (limiter.key type).expire now with set := (limiter.key type).live now })
      else
        (1, ⟨((limiter.key type).live now).add (longToString now) now,
          some (now + RATE_WINDOW)⟩) := rfl
  by_cases hfull : limit ≤ ((limiter.key type).live now).card
  · have hrefused : distinct RATE_WINDOW limit now log = false := by
      simp only [distinct, decide_eq_false_iff_not]
      omega
    rw [if_pos hfull] at hlua
    rw [hrefused]
    simp only [allow, hlua, Function.update_self]
    exact ⟨by decide, h.refuse hlast⟩
  · have hadmitted : distinct RATE_WINDOW limit now log = true := by
      simp only [distinct, decide_eq_true_eq]
      omega
    rw [if_neg hfull] at hlua
    rw [hadmitted]
    simp only [allow, hlua, Function.update_self]
    exact ⟨by decide, h.record hlast hnow⟩

/-- The limiter of the repository is the distinct rule with a window of one
second. -/
theorem admitted_eq_run (type : String) (limit : Nat) {times : List Int} {limiter : LuaLimiter}
    {last : Int} {log : List Int} (h : (limiter.key type).Stands last log)
    (hlast : ∀ t ∈ times, last ≤ t ∧ 0 ≤ t) (hsorted : times.Pairwise (· ≤ ·)) :
    admitted type limit times limiter log = run (distinct RATE_WINDOW limit) times log := by
  induction times generalizing limiter last log with
  | nil => rfl
  | cons now rest ih =>
      obtain ⟨hnow, hrest⟩ := List.pairwise_cons.mp hsorted
      obtain ⟨hle, hpos⟩ := hlast now List.mem_cons_self
      obtain ⟨hanswer, hstands⟩ := allow_spec type limit h hle hpos
      have hlater : ∀ t ∈ rest, now ≤ t ∧ 0 ≤ t :=
        fun t ht => ⟨hnow t ht, (hlast t (List.mem_cons_of_mem now ht)).2⟩
      simp only [admitted, run, hanswer]
      exact ih hstands hlater hrest

/-- At most `limit` admitted calls lie in any window of one second. -/
def NeverOverAdmits (type : String) (limit : Nat) (times : List Nat) : Prop :=
  ∀ t : Int, ((admitted type limit (times.map Int.ofNat) LuaLimiter.empty []).filter
    fun a => t - 1000 < a ∧ a ≤ t).length ≤ limit

/-- The limiter never over-admits exactly if, whenever a call finds `limit` calls
within its last second that an ideal limiter has admitted, these came in pairwise
distinct milliseconds. -/
theorem never_over_admits_iff (type : String) (limit : Nat) {times : List Nat}
    (hsorted : times.Pairwise (· ≤ ·)) :
    NeverOverAdmits type limit times ↔
      DistinctWhenFull RATE_WINDOW limit (times.map Int.ofNat) [] := by
  have hmap : (times.map Int.ofNat).Pairwise (· ≤ ·) := by
    rw [List.pairwise_map]
    exact hsorted.imp fun h => Int.ofNat_le.mpr h
  have hpos : ∀ t ∈ times.map Int.ofNat, (0 : Int) ≤ t ∧ 0 ≤ t := by
    intro t ht
    obtain ⟨n, -, rfl⟩ := List.mem_map.mp ht
    exact ⟨Int.natCast_nonneg n, Int.natCast_nonneg n⟩
  have hrun : admitted type limit (times.map Int.ofNat) LuaLimiter.empty [] =
      run (distinct RATE_WINDOW limit) (times.map Int.ofNat) [] :=
    admitted_eq_run type limit RateKey.stands_empty hpos hmap
  rw [NeverOverAdmits, hrun]
  exact bounded_distinct_iff bounded_nil (by simp) hmap (by decide)

/-- Five calls in different milliseconds fill the window; the sixth is
refused. -/
theorem never_over_admits_spread : NeverOverAdmits "LOG" 5 [1, 2, 3, 4, 5, 6] :=
  (never_over_admits_iff "LOG" 5 (by decide)).mpr
    (by simp [DistinctWhenFull, recent, ideal, RATE_WINDOW])

/-- Three calls in one millisecond are admitted under a limit of two. -/
theorem over_admits_burst : ¬ NeverOverAdmits "LOG" 2 [7, 7, 7] := by
  intro h
  exact absurd (h 7) (by decide)

end LuaLimiter

end JobQueue
