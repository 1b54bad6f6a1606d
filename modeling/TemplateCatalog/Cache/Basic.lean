import TemplateCatalog.Power

/-!
# The bounded cache

A cache of bounded capacity whose entries may expire. Time is given to every operation from
outside, in milliseconds. A stored entry counts its uses, and the cache numbers the touches of its
entries (insertions and hits), so the entry to give up for a new one is settled: the one with the
fewest uses, and of those the one touched longest ago.

Expired entries are dropped when they are looked at, or by a sweep. They stay in their place until
then, and count as stored.

Main statement: `size_sweep_add`, a sweep drops as many entries as it reports.
-/

namespace TemplateCatalog

/-- The first moment that no deadline can lie at, in milliseconds. -/
def endOfTime : Nat :=
  twoTo 63 * 1000

/-- The deadline of an entry with a time to live; none if it would lie beyond the end of time. -/
def deadline? (now : Nat) (ttl : Option Nat) : Option Nat :=
  match ttl with
  | some ttl => if now + ttl < endOfTime then some (now + ttl) else none
  | none => none

/-- A stored value with its bookkeeping. -/
structure Entry (ν : Type) where
  /-- The stored value. -/
  value : ν
  /-- The moment from which on the entry is expired. -/
  deadline : Option Nat
  /-- How often the entry was found since it was set. -/
  uses : Nat
  /-- The number of the last touch. -/
  touched : Nat
  deriving Repr, DecidableEq

/-- The entry is expired. -/
def Entry.isExpired {ν : Type} (now : Nat) (entry : Entry ν) : Bool :=
  entry.deadline.any (· ≤ now)

/-- The first entry is given up before the second one. -/
def Entry.before {ν : Type} (a b : Entry ν) : Bool :=
  a.uses < b.uses || (a.uses == b.uses && a.touched < b.touched)

/-- What a cache is built with. -/
structure CacheOptions where
  /-- How many entries the cache holds at most. -/
  capacity : Nat
  /-- The time to live of entries that are set without one. -/
  defaultTtl : Option Nat
  /-- The time between two sweeps. -/
  sweepInterval : Option Nat
  deriving Repr, DecidableEq

/-- A bounded cache. -/
structure Cache (κ ν : Type) where
  /-- What the cache was built with. -/
  options : CacheOptions
  /-- The stored entries, one to a key. -/
  entries : List (κ × Entry ν)
  /-- How many lookups found a value. -/
  hits : Nat
  /-- How many lookups found no entry. -/
  misses : Nat
  /-- How many entries were dropped because they had expired. -/
  expirations : Nat
  /-- How many entries were given up for new ones. -/
  evictions : Nat
  /-- How many touches there were. -/
  touches : Nat
  deriving Repr

namespace Cache

variable {κ ν : Type} [DecidableEq κ]

/-- The empty cache. Its capacity is at least one. -/
def empty (options : CacheOptions) : Cache κ ν where
  options := { options with capacity := max options.capacity 1 }
  entries := []
  hits := 0
  misses := 0
  expirations := 0
  evictions := 0
  touches := 0

/-- The number of stored entries, expired ones included. -/
def size (cache : Cache κ ν) : Nat :=
  cache.entries.length

/-- The entry that is stored under a key. -/
def find? (key : κ) (cache : Cache κ ν) : Option (Entry ν) :=
  cache.entries.lookup key

/-- The entries without the one under a key. -/
def without (key : κ) (entries : List (κ × Entry ν)) : List (κ × Entry ν) :=
  entries.filter fun stored => stored.1 ≠ key

/-- The entry that comes first in the order of giving up. -/
def victim? : List (κ × Entry ν) → Option (κ × Entry ν)
  | [] => none
  | stored :: rest =>
    match victim? rest with
    | none => some stored
    | some other => if other.2.before stored.2 then some other else some stored

/-- Give up one entry. -/
def evict (cache : Cache κ ν) : Cache κ ν :=
  match victim? cache.entries with
  | none => cache
  | some stored =>
    { cache with
      entries := without stored.1 cache.entries
      evictions := cache.evictions + 1 }

/-- A new entry under the key would not fit. -/
def isFullFor (key : κ) (cache : Cache κ ν) : Bool :=
  (cache.find? key).isNone && cache.options.capacity ≤ cache.size

/-- Store a value, which gives up another entry if it does not fit otherwise. -/
def set (now : Nat) (key : κ) (value : ν) (ttl : Option Nat) (cache : Cache κ ν) : Cache κ ν :=
  let room := if cache.isFullFor key then cache.evict else cache
  let entry : Entry ν :=
    { value
      deadline := deadline? now (ttl <|> cache.options.defaultTtl)
      uses := 0
      touched := cache.touches + 1 }
  { room with
    entries := (key, entry) :: without key room.entries
    touches := cache.touches + 1 }

/-- Drop an entry that turned out to be expired. -/
def expire (key : κ) (cache : Cache κ ν) : Cache κ ν :=
  { cache with
    entries := without key cache.entries
    expirations := cache.expirations + 1 }

/-- Look up a value. A hit is a use of the entry, a lookup without an entry is a miss, and an
expired entry is dropped. -/
def get (now : Nat) (key : κ) (cache : Cache κ ν) : Option ν × Cache κ ν :=
  match cache.find? key with
  | none => (none, { cache with misses := cache.misses + 1 })
  | some entry =>
    if entry.isExpired now then (none, cache.expire key)
    else
      let used := { entry with uses := entry.uses + 1, touched := cache.touches + 1 }
      (some entry.value,
        { cache with
          entries := (key, used) :: without key cache.entries
          hits := cache.hits + 1
          touches := cache.touches + 1 })

/-- Whether a live entry is stored under a key. An expired one is dropped; nothing is counted as a
use. -/
def has (now : Nat) (key : κ) (cache : Cache κ ν) : Bool × Cache κ ν :=
  match cache.find? key with
  | none => (false, cache)
  | some entry => if entry.isExpired now then (false, cache.expire key) else (true, cache)

/-- Remove the entry under a key, and say whether there was one. -/
def delete (key : κ) (cache : Cache κ ν) : Bool × Cache κ ν :=
  ((cache.find? key).isSome, { cache with entries := without key cache.entries })

/-- Remove all entries. -/
def clear (cache : Cache κ ν) : Cache κ ν :=
  { cache with entries := [] }

/-- Remove all entries that are expired, and say how many there were. -/
def sweep (now : Nat) (cache : Cache κ ν) : Nat × Cache κ ν :=
  let live := cache.entries.filter fun stored => !stored.2.isExpired now
  let removed := cache.size - live.length
  (removed, { cache with entries := live, expirations := cache.expirations + removed })

/-- Remove all entries whose keys match, and say how many there were. -/
def invalidate (matched : κ → Bool) (cache : Cache κ ν) : Nat × Cache κ ν :=
  let kept := cache.entries.filter fun stored => !matched stored.1
  (cache.size - kept.length, { cache with entries := kept })

omit [DecidableEq κ] in
/-- A sweep drops as many entries as it reports. -/
theorem size_sweep_add (now : Nat) (cache : Cache κ ν) :
    (cache.sweep now).2.size + (cache.sweep now).1 = cache.size := by
  have := List.length_filter_le (fun stored => !stored.2.isExpired now) cache.entries
  simp only [sweep, size] at *
  omega

end Cache

end TemplateCatalog
