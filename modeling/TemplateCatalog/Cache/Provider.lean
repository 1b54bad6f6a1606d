import TemplateCatalog.Cache.Sweeper
import TemplateCatalog.Settings

/-!
# Building caches from settings

The provider that the settings name decides what cache is built. Explicit construction refuses
whatever it cannot honour exactly. Construction from ambient settings falls back to the in-memory
cache and to the default capacity, and refuses a provider only if nobody knows it.
-/

namespace TemplateCatalog

/-- A kind of cache backend. -/
inductive CacheProvider where
  /-- A cache in memory. -/
  | inMemory
  /-- A networked cache, which is reserved and not implemented. -/
  | redis
  deriving DecidableEq, Repr

/-- Why no cache was built. -/
inductive CacheBuildError where
  /-- The provider is known and has no backend yet. -/
  | notImplemented (provider : CacheProvider)
  /-- Nobody knows the provider. -/
  | unsupportedProvider (name : String)
  /-- The capacity is zero. -/
  | noCapacity
  deriving DecidableEq, Repr

namespace CacheProvider

/-- The name of the provider. -/
def name : CacheProvider → String
  | .inMemory => "local"
  | .redis => "redis"

/-- The provider of the given name, whatever its letter case and the blank space around it. -/
def ofName? (name : String) : Option CacheProvider :=
  match Text.asciiLower (Text.trim name) with
  | "local" | "memory" => some .inMemory
  | "redis" => some .redis
  | _ => none

/-- The provider of the given name, or the error about it. -/
def parse (name : String) : Except CacheBuildError CacheProvider :=
  match ofName? name with
  | some provider => .ok provider
  | none => .error (.unsupportedProvider name)

end CacheProvider

/-- The message about a cache that was not built. -/
def CacheBuildError.message : CacheBuildError → String
  | .notImplemented provider =>
    "Cache provider '" ++ provider.name ++
      "' is not yet implemented.\n\nUse provider 'local' until a networked backend is available."
  | .unsupportedProvider name =>
    "Unsupported cache provider '" ++ name ++ "'. Supported providers: local"
  | .noCapacity => "Invalid cache configuration: max_size must be at least 1"

namespace CacheSettings

/-- The options of a cache with these settings and the given capacity. -/
def options (settings : CacheSettings) (capacity : Nat) : CacheOptions where
  capacity := capacity
  defaultTtl := settings.ttl
  sweepInterval := settings.sweepInterval

/-- The options of a cache that honours the settings exactly. -/
def build (settings : CacheSettings) : Except CacheBuildError CacheOptions := do
  match ← CacheProvider.parse settings.provider with
  | .redis => .error (.notImplemented .redis)
  | .inMemory =>
    if settings.capacity = 0 then .error .noCapacity
    else .ok (settings.options settings.capacity)

/-- The options of the best cache there is for the settings. -/
def buildBestEffort (settings : CacheSettings) : Except CacheBuildError CacheOptions := do
  let _ ← CacheProvider.parse settings.provider
  let capacity := if settings.capacity = 0 then defaultCapacity else settings.capacity
  return settings.options capacity

end CacheSettings

end TemplateCatalog
