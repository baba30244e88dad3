import JobQueue.Lib.Decimal
import JobQueue.Lib.SortedSet

/-!
# `RateLimiterService`

The limiter is one Lua script that Redis runs atomically on one sorted set per
job type.  The member *and* the score of an admitted request are the
millisecond of the request.

`RateLimiter` is the interface the consumer sees.  Results about the job life
cycle hold for every limiter; `LuaLimiter` is the one of the repository.
-/

namespace JobQueue

open Decimal

/-- A limiter with state `L`: the answer to one request at time `now`, and the
state after it. -/
class RateLimiter (L : Type) where
  allow (type : String) (limitPerSec : Nat) (now : Int) (limiter : L) : Bool × L

/-- A Redis sorted set with its expiry deadline.  A key without members does
not exist, so its deadline is immaterial. -/
structure RateKey where
  set : SortedSet String
  expireAt : Option Int

namespace RateKey

def empty : RateKey := ⟨SortedSet.empty, none⟩

/-- The key as a command at time `now` finds it: gone once its time to live has
elapsed. -/
def expire (key : RateKey) (now : Int) : RateKey :=
  match key.expireAt with
  | none => key
  | some deadline => if deadline ≤ now then empty else key

/-- `RateLimiterService.lua` with `ARGV = now, window, limit`. -/
def lua (key : RateKey) (now window : Int) (limit : Nat) : Nat × RateKey :=
  let live := key.expire now
  let trimmed := live.set.removeRangeByScore 0 (now - window)
  let count := trimmed.card
  if limit ≤ count then
    (0, { live with set := trimmed })
  else
    (1, { set := trimmed.add (longToString now) now, expireAt := some (now + window) })

end RateKey

/-- The rate keys of Redis; the key of `type` is `"rate:" + type`. -/
structure LuaLimiter where
  key : String → RateKey

namespace LuaLimiter

def empty : LuaLimiter := ⟨fun _ => RateKey.empty⟩

/-- `RateLimiterService.allow(type, limitPerSec)` with the clock reading
`now`. -/
def allow (type : String) (limitPerSec : Nat) (now : Int) (limiter : LuaLimiter) :
    Bool × LuaLimiter :=
  let result := (limiter.key type).lua now 1000 limitPerSec
  (result.1 = 1, ⟨Function.update limiter.key type result.2⟩)

instance : RateLimiter LuaLimiter := ⟨allow⟩

/-- A request for one type leaves the keys of the others alone. -/
theorem allow_key_of_ne {type other : String} (h : other ≠ type) (limitPerSec : Nat)
    (now : Int) (limiter : LuaLimiter) :
    (allow type limitPerSec now limiter).2.key other = limiter.key other := by
  simp [allow, Function.update_of_ne h]

end LuaLimiter

end JobQueue
