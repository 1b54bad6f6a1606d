import TemplateCatalog.Cache.Basic

/-!
# Statistics of a cache

A cache at a glance: its counters, how much it is used, and the keys that are used most. The
ranking of the keys is the order of giving up, read backwards.
-/

namespace TemplateCatalog

/-- How many keys the ranking names. -/
def rankingLength : Nat :=
  10

/-- A cache at one moment. -/
structure CacheStatistics (κ : Type) where
  /-- The number of stored entries, expired ones included. -/
  size : Nat
  /-- The most entries that the cache holds. -/
  capacity : Nat
  /-- How many lookups found a value. -/
  hits : Nat
  /-- How many lookups found no entry. -/
  misses : Nat
  /-- The percentage of counted lookups that found a value. -/
  hitRate : Float
  /-- How many entries were dropped because they had expired. -/
  expirations : Nat
  /-- How many entries were given up for new ones. -/
  evictions : Nat
  /-- How often a stored entry was used on average. -/
  averageUses : Float
  /-- The keys that are used most, the first one first. -/
  topKeys : List κ

/-- A quotient of natural numbers, which is zero over zero. -/
def ratio (a b : Nat) : Float :=
  if b = 0 then 0 else Float.ofNat a / Float.ofNat b

namespace Cache

variable {κ ν : Type}

/-- The stored entries, those that are given up last first. -/
def ranking (cache : Cache κ ν) : List (κ × Entry ν) :=
  cache.entries.mergeSort fun a b => !a.2.before b.2

/-- How often the stored entries were used, taken together. -/
def totalUses (cache : Cache κ ν) : Nat :=
  cache.entries.foldl (fun total stored => total + stored.2.uses) 0

/-- The statistics of the cache. -/
def statistics (cache : Cache κ ν) : CacheStatistics κ where
  size := cache.entries.length
  capacity := cache.options.capacity
  hits := cache.hits
  misses := cache.misses
  hitRate := ratio cache.hits (cache.hits + cache.misses) * 100
  expirations := cache.expirations
  evictions := cache.evictions
  averageUses := ratio cache.totalUses cache.entries.length
  topKeys := (cache.ranking.take rankingLength).map Prod.fst

end Cache

end TemplateCatalog
