import FeatureFlags.Cache.Key
import FeatureFlags.Cache.Recent
import FeatureFlags.Remote.ResolvedFlag

/-!
# The cache of remote results

What a remote call produced is kept for a while, for the contexts that were used most recently.
Times are milliseconds of 64 bits. A lookup first drops everything that has expired by then, also
under other keys. An entry without flags records a call that failed.
-/

namespace FeatureFlags

/-- What a remote call produced. -/
structure CachedResult where
  /-- There are none if the call failed. -/
  flags : Option ResolvedFlags
  requestId : Option String := none
  evaluatedAt : Option Nat := none
  error : Option String := none
  deriving DecidableEq, Repr

/-- A result in the cache. -/
structure CacheEntry where
  result : CachedResult
  timestamp : Nat
  expiresAt : Nat
  deriving DecidableEq, Repr

/-- Has the entry expired by a time? -/
def CacheEntry.isExpired (e : CacheEntry) (now : Nat) : Bool := e.expiresAt ≤ now

/-- The last millisecond that a clock can show. -/
def lastMillis : Nat := Nat.pow 2 64 - 1

/-- A cache of remote results. -/
structure Cache where
  maxAge : Nat
  recent : Recent CacheKey CacheEntry
  deriving DecidableEq, Repr

namespace Cache

/-- An empty cache with room for so many entries, which expire at a given age. -/
def empty (room maxAge : Nat) : Cache := ⟨maxAge, .empty room⟩

/-- How many entries there are, expired or not. -/
def size (c : Cache) : Nat := c.recent.size

/-- Look up an entry. -/
def lookup (c : Cache) (now : Nat) (k : CacheKey) : Option CacheEntry × Cache :=
  let (found, recent) := (c.recent.keep fun e => !e.isExpired now).use k
  (found, { c with recent := recent })

/-- Look up flags. -/
def lookupFlags (c : Cache) (now : Nat) (k : CacheKey) : Option ResolvedFlags × Cache :=
  let (found, c) := c.lookup now k
  (found.bind fun e => e.result.flags, c)

/-- Write a result. -/
def write (c : Cache) (now : Nat) (k : CacheKey) (r : CachedResult) : Cache :=
  { c with recent := c.recent.insert k ⟨r, now, min (now + c.maxAge) lastMillis⟩ }

/-- Write flags that come with nothing else. -/
def put (c : Cache) (now : Nat) (k : CacheKey) (flags : ResolvedFlags) : Cache :=
  c.write now k { flags := some flags }

/-- Drop all entries. -/
def clear (c : Cache) : Cache := { c with recent := c.recent.clear }

end Cache

end FeatureFlags
