import TemplateCatalog.Cache.Statistics
import TemplateCatalog.Cache.Sweeper

/-!
# Sessions of cache operations

The operations of a cache as data, and the answers they give, so that a history of a cache is a
list of operations. A session is a cache together with the clock and with the knowledge whether
there is a host for a sweeper.
-/

namespace TemplateCatalog

/-- An operation on a cache. -/
inductive CacheOp (κ ν : Type) where
  /-- Store a value. -/
  | set (key : κ) (value : ν) (ttl : Option Nat)
  /-- Look up a value. -/
  | get (key : κ)
  /-- Ask for a live entry. -/
  | has (key : κ)
  /-- Remove an entry. -/
  | delete (key : κ)
  /-- Remove all entries. -/
  | clear
  /-- Remove the expired entries. -/
  | cleanup
  /-- Remove the entries with matching keys. -/
  | invalidate (matched : κ → Bool)
  /-- Ask for the number of stored entries. -/
  | size
  /-- Ask for the statistics. -/
  | statistics
  /-- Ask for the capacity. -/
  | capacity
  /-- Ask for the default time to live. -/
  | defaultTtl
  /-- Start a sweeper with the interval of the cache. -/
  | startSweeper
  /-- Start a sweeper with another interval. -/
  | startSweeperEvery (interval : Nat)
  /-- Stop the sweeper. -/
  | stopSweeper
  /-- Ask for a running sweeper. -/
  | isSweeping
  /-- Let time pass. -/
  | sleep (duration : Nat)

/-- What an operation answers. -/
inductive CacheAnswer (κ ν : Type) where
  /-- Nothing. -/
  | done
  /-- The value that was looked up, if there is one. -/
  | found (value : Option ν)
  /-- A truth value. -/
  | flag (b : Bool)
  /-- A number. -/
  | count (n : Nat)
  /-- A duration that may be absent. -/
  | duration (ttl : Option Nat)
  /-- Statistics. -/
  | statistics (s : CacheStatistics κ)

/-- A cache in use. -/
structure CacheSession (κ ν : Type) where
  /-- The cache. -/
  swept : SweptCache κ ν
  /-- The current moment. -/
  now : Nat
  /-- There is a host for a sweeper. -/
  hosted : Bool

namespace CacheSession

variable {κ ν : Type} [DecidableEq κ]

/-- A session with an empty cache. -/
def start (options : CacheOptions) (hosted : Bool) : CacheSession κ ν :=
  ⟨.empty options, 0, hosted⟩

/-- The session with another cache. -/
def withCache (session : CacheSession κ ν) (cache : Cache κ ν) : CacheSession κ ν :=
  { session with swept := { session.swept with cache } }

/-- Carry out one operation. -/
def step (session : CacheSession κ ν) : CacheOp κ ν → CacheAnswer κ ν × CacheSession κ ν
  | .set key value ttl =>
    (.done, session.withCache (session.swept.cache.set session.now key value ttl))
  | .get key =>
    let (value, cache) := session.swept.cache.get session.now key
    (.found value, session.withCache cache)
  | .has key =>
    let (b, cache) := session.swept.cache.has session.now key
    (.flag b, session.withCache cache)
  | .delete key =>
    let (b, cache) := session.swept.cache.delete key
    (.flag b, session.withCache cache)
  | .clear => (.done, session.withCache session.swept.cache.clear)
  | .cleanup =>
    let (n, cache) := session.swept.cache.sweep session.now
    (.count n, session.withCache cache)
  | .invalidate matched =>
    let (n, cache) := session.swept.cache.invalidate matched
    (.count n, session.withCache cache)
  | .size => (.count session.swept.cache.size, session)
  | .statistics => (.statistics session.swept.cache.statistics, session)
  | .capacity => (.count session.swept.cache.options.capacity, session)
  | .defaultTtl => (.duration session.swept.cache.options.defaultTtl, session)
  | .startSweeper =>
    let (b, swept) := session.swept.start session.now session.hosted
    (.flag b, { session with swept })
  | .startSweeperEvery interval =>
    let (b, swept) := session.swept.startEvery session.now session.hosted interval
    (.flag b, { session with swept })
  | .stopSweeper => (.done, { session with swept := session.swept.stop })
  | .isSweeping => (.flag session.swept.isRunning, session)
  | .sleep duration =>
    let later := session.now + duration
    (.done, { session with swept := session.swept.pass later, now := later })

end CacheSession

end TemplateCatalog
